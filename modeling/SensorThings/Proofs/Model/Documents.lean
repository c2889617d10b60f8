import SensorThings.Model.Document
import SensorThings.Proofs.Json.Members
import SensorThings.Proofs.Model.Geometries
import SensorThings.Proofs.Store.View
import SensorThings.Proofs.Time.Texts

/-!
Documents hold their entities. What is written of an entity is read back as that entity, where its
times have years of four digits, its free members are no nulls, which would read back as missing,
and its numbers are those that JSON can hold.
-/
namespace SensorThings

namespace ObservedValue

/-- Quantities are finite, and counts fit 64 bits. -/
def IsStorable : ObservedValue → Prop
  | quantity (some value) => Binary64.isFinite value = true
  | count value => Text.fitsSigned value = true
  | _ => True

end ObservedValue

/-- A document can hold the entity: a free member is not null, coordinates are finite, and results
can be stored. -/
def EntityKind.IsStorable : (kind : EntityKind) → kind.Entity → Prop
  | thing, entity => Thing.properties entity ≠ some .null
  | location, entity =>
    Location.properties entity ≠ some .null ∧ (Location.location entity).IsProper
  | sensor, entity => Sensor.properties entity ≠ some .null
  | observedProperty, entity => ObservedProperty.properties entity ≠ some .null
  | datastream, entity => Datastream.properties entity ≠ some .null
  | featureOfInterest, entity =>
    FeatureOfInterest.properties entity ≠ some .null ∧ (FeatureOfInterest.feature entity).IsProper
  | observation, entity =>
    Observation.parameters entity ≠ some .null ∧ (Observation.result entity).IsStorable
  | dataset, entity =>
    (∀ pointer, Dataset.firstObservation entity = some pointer → pointer.value.IsStorable) ∧
      ∀ pointer, Dataset.lastObservation entity = some pointer → pointer.value.IsStorable
  | _, _ => True

def EntityKind.instants : (kind : EntityKind) → kind.Entity → List Instant
  | historicalLocation, entity => [HistoricalLocation.time entity]
  | datastream, entity =>
    ((Datastream.phenomenonTime entity).toList ++ (Datastream.resultTime entity).toList).flatMap
      Interval.instants
  | observation, entity =>
    (Observation.phenomenonTime entity).instants ++ Observation.resultTime entity ::
      (Observation.validTime entity).toList.flatMap Interval.instants
  | dataset, entity =>
    ((Dataset.firstObservation entity).toList ++ (Dataset.lastObservation entity).toList).map
      ObservationPointer.time
  | _, _ => []

/-- The instants in those times that documents hold as texts of intervals, or of what may be one. A
text of an instant is read in more forms. -/
def EntityKind.spanInstants : (kind : EntityKind) → kind.Entity → List Instant
  | datastream, entity =>
    ((Datastream.phenomenonTime entity).toList ++ (Datastream.resultTime entity).toList).flatMap
      Interval.instants
  | observation, entity =>
    (Observation.phenomenonTime entity).instants ++
      (Observation.validTime entity).toList.flatMap Interval.instants
  | _, _ => []

theorem EntityKind.spanInstants_subset (kind : EntityKind) (entity : kind.Entity) :
    kind.spanInstants entity ⊆ kind.instants entity := by
  cases kind with
  | datastream => exact List.Subset.refl _
  | observation =>
    intro instant member
    exact List.mem_append.2 ((List.mem_append.1 member).imp_right (List.mem_cons_of_mem _))
  | _ => exact List.nil_subset _

/-! Parts of documents. -/

@[simp] theorem EntityId.ofJson?_toJson (id : EntityId) : ofJson? id.toJson = some id := rfl

@[simp] theorem IdSet.ofJson?_toJson (ids : IdSet) : ofJson? ids.toJson = some ids := by
  have same : ofIds ids.items = ids := ext_mem fun _ => mem_ofIds_iff
  rw [toJson, ofJson?, Json.mapM_map fun id _ => EntityId.ofJson?_toJson id, Option.map_some, same]

@[simp] theorem Instant.ofDocument?_toJson (instant : Instant) :
    ofDocument? instant.toJson = some instant := by
  rw [toJson, ofDocument?, Json.string?, Option.bind_some, Time.lenient?_text]

@[simp] theorem Interval.ofJson?_toJson {interval : Interval}
    (inFourDigits : ∀ instant ∈ interval.instants, instant.InFourDigits) :
    ofJson? interval.toJson = some interval := by
  rw [toJson, ofJson?, Json.string?, Option.bind_some, ofText_text inFourDigits]
  rfl

@[simp] theorem TimeSpan.ofJson?_toJson {time : TimeSpan}
    (inFourDigits : ∀ instant ∈ time.instants, instant.InFourDigits) :
    ofJson? time.toJson = some time := by
  rw [toJson, ofJson?, Json.string?, Option.bind_some, ofText_text inFourDigits]
  rfl

@[simp] theorem ObservationType.ofName?_name (type : ObservationType) :
    ofName? type.name = some type := by
  cases type <;> rfl

@[simp] theorem ObservedValue.ofDocument?_toDocument {value : ObservedValue}
    (isStorable : value.IsStorable) : ofDocument? value.toDocument = some value := by
  cases value with
  | quantity number =>
    cases number with
    | none => rfl
    | some double =>
      have finite : Binary64.isFinite double = true := isStorable
      simp [ofDocument?, toDocument, typeName, content, toJson, finite, Json.required?,
        Json.optional?, Json.member?, Json.lookup_cons, Json.string?, double?]
  | count whole =>
    have fits : Text.fitsSigned whole = true := isStorable
    simp [ofDocument?, toDocument, typeName, content, toJson, fits, Json.required?, Json.member?,
      Json.lookup_cons, Json.string?, integer?]
  | category label => rfl
  | text words => rfl
  | boolean holds => rfl

@[simp] theorem Position.ofJson?_toJson {position : Position} (finite : position.IsFinite) :
    ofJson? position.toJson = some position := by
  rw [toJson, Json.double_of_isFinite finite.1, Json.double_of_isFinite finite.2]
  rfl

namespace Geometry

@[simp] theorem list?_positionsJson {positions : List Position}
    (finite : ∀ position ∈ positions, position.IsFinite) :
    list? Position.ofJson? (positionsJson positions) = some positions :=
  Json.mapM_map fun position member => Position.ofJson?_toJson (finite position member)

theorem lines?_linesJson {lines : List (List Position)}
    (finite : ∀ line ∈ lines, ∀ position ∈ line, position.IsFinite) :
    lines? (linesJson lines) = some lines :=
  Json.mapM_map fun line member => list?_positionsJson (finite line member)

@[simp] theorem ofJson?_toJson {geometry : Geometry} (proper : geometry.IsProper) :
    ofJson? geometry.toJson = some geometry := by
  cases geometry with
  | point position =>
    have read := Position.ofJson?_toJson (proper position List.mem_cons_self)
    simp [ofJson?, toJson, Json.lookup_cons, typeName, coordinatesJson, ofTyped?, read]
  | multiPoint positions | lineString positions =>
    have read : list? Position.ofJson? (positionsJson positions) = some positions :=
      list?_positionsJson proper
    simp [ofJson?, toJson, Json.lookup_cons, typeName, coordinatesJson, ofTyped?, read]
  | multiLineString lines | polygon lines =>
    simp [ofJson?, toJson, Json.lookup_cons, typeName, coordinatesJson, ofTyped?,
      lines?_linesJson (List.forall_mem_flatten.1 proper)]
  | multiPolygon polygons =>
    have each := List.forall_mem_flatten.1 (List.forall_mem_flatten.1 proper)
    have read : list? lines? (.array (polygons.map linesJson)) = some polygons :=
      Json.mapM_map fun polygon member => lines?_linesJson (each polygon member)
    simp [ofJson?, toJson, Json.lookup_cons, typeName, coordinatesJson, ofTyped?, read]

end Geometry

/-! Members of documents. -/

section

variable {json : Json} {key : String}

theorem freeOf_eq {given : Option Json} (found : json.member? key = given)
    (free : given ≠ some .null) : freeOf json key = some given := by
  have written : json.member? key = given.map id := by rw [found, Option.map_id_fun, id]
  apply Json.optional?_eq written
  rintro value rfl
  exact ⟨fun null => free (congrArg some null), rfl⟩

theorem optional?_interval {given : Option Interval}
    (found : json.member? key = given.map Interval.toJson)
    (inFourDigits : ∀ interval, given = some interval →
      ∀ instant ∈ interval.instants, instant.InFourDigits) :
    json.optional? key Interval.ofJson? = some given :=
  Json.optional?_eq found fun interval same =>
    ⟨nofun, Interval.ofJson?_toJson (inFourDigits interval same)⟩

end

/-! Entities. -/

@[simp]
theorem Thing.ofDocument?_toDocument {thing : Thing} (free : thing.properties ≠ some .null) :
    ofDocument? thing.toDocument = some thing := by
  have properties : freeOf thing.toDocument "properties" = some thing.properties :=
    freeOf_eq (by simp [toDocument, Json.free, List.lookup_append, Json.lookup_cons]) free
  have locations : Json.list? EntityId.ofJson? (.array (thing.locations.map EntityId.toJson)) =
      some thing.locations :=
    Json.list?_array fun id _ => id.ofJson?_toJson
  simp only [ofDocument?, properties]
  simp [toDocument, linkOf, textOf, Json.required?, Json.default?, Json.free, List.lookup_append,
    Json.lookup_cons, Json.string?, locations]

@[simp] theorem Location.ofDocument?_toDocument {location : Location}
    (free : location.properties ≠ some .null) (proper : location.location.IsProper) :
    ofDocument? location.toDocument = some location := by
  have properties : freeOf location.toDocument "properties" = some location.properties :=
    freeOf_eq (by simp [toDocument, Json.free, List.lookup_append, Json.lookup_cons]) free
  simp only [ofDocument?, properties]
  simp [toDocument, linkOf, textOf, Json.required?, Json.default?, Json.free, List.lookup_append,
    Json.lookup_cons, Json.string?, Geometry.ofJson?_toJson proper]

@[simp] theorem HistoricalLocation.ofDocument?_toDocument (historical : HistoricalLocation) :
    ofDocument? historical.toDocument = some historical := by
  simp [ofDocument?, toDocument, linkOf, Json.required?, Json.lookup_cons]

@[simp]
theorem Sensor.ofDocument?_toDocument {sensor : Sensor} (free : sensor.properties ≠ some .null) :
    ofDocument? sensor.toDocument = some sensor := by
  have properties : freeOf sensor.toDocument "properties" = some sensor.properties :=
    freeOf_eq (by simp [toDocument, Json.free, List.lookup_append, Json.lookup_cons]) free
  simp only [ofDocument?, properties]
  simp [toDocument, linkOf, textOf, Json.required?, Json.free, List.lookup_append,
    Json.lookup_cons, Json.string?]

@[simp] theorem ObservedProperty.ofDocument?_toDocument {property : ObservedProperty}
    (free : property.properties ≠ some .null) :
    ofDocument? property.toDocument = some property := by
  have properties : freeOf property.toDocument "properties" = some property.properties :=
    freeOf_eq (by simp [toDocument, Json.free, List.lookup_append, Json.lookup_cons]) free
  simp only [ofDocument?, properties]
  simp [toDocument, linkOf, textOf, Json.required?, Json.free, List.lookup_append,
    Json.lookup_cons, Json.string?]

@[simp] theorem Datastream.ofDocument?_toDocument {datastream : Datastream}
    (free : datastream.properties ≠ some .null)
    (inFourDigits : ∀ instant ∈ EntityKind.datastream.spanInstants datastream,
      instant.InFourDigits) : ofDocument? datastream.toDocument = some datastream := by
  have properties : freeOf datastream.toDocument "properties" = some datastream.properties :=
    freeOf_eq (by simp [toDocument, Json.free, List.lookup_append, Json.lookup_cons]) free
  have phenomenonTime : datastream.toDocument.optional? "phenomenonTime" Interval.ofJson? =
      some datastream.phenomenonTime := by
    apply optional?_interval
    · simp [toDocument, Json.free, List.lookup_append, Json.lookup_cons]
    · intro interval given instant member
      exact inFourDigits instant (List.mem_flatMap.2 ⟨interval, by simp [given], member⟩)
  have resultTime : datastream.toDocument.optional? "resultTime" Interval.ofJson? =
      some datastream.resultTime := by
    apply optional?_interval
    · simp [toDocument, Json.free, List.lookup_append, Json.lookup_cons]
    · intro interval given instant member
      exact inFourDigits instant (List.mem_flatMap.2 ⟨interval, by simp [given], member⟩)
  simp only [ofDocument?, properties, phenomenonTime, resultTime]
  simp [toDocument, linkOf, textOf, Json.required?, Json.free, List.lookup_append,
    Json.lookup_cons, Json.string?]

@[simp] theorem FeatureOfInterest.ofDocument?_toDocument {feature : FeatureOfInterest}
    (free : feature.properties ≠ some .null) (proper : feature.feature.IsProper) :
    ofDocument? feature.toDocument = some feature := by
  have properties : freeOf feature.toDocument "properties" = some feature.properties :=
    freeOf_eq (by simp [toDocument, Json.free, List.lookup_append, Json.lookup_cons]) free
  simp only [ofDocument?, properties]
  simp [toDocument, linkOf, textOf, Json.required?, Json.default?, Json.free, List.lookup_append,
    Json.lookup_cons, Json.string?, Json.bool?,
    Geometry.ofJson?_toJson proper]

@[simp] theorem Observation.ofDocument?_toDocument {observation : Observation}
    (free : observation.parameters ≠ some .null) (isStorable : observation.result.IsStorable)
    (inFourDigits : ∀ instant ∈ EntityKind.observation.spanInstants observation,
      instant.InFourDigits) : ofDocument? observation.toDocument = some observation := by
  have parameters : freeOf observation.toDocument "parameters" = some observation.parameters :=
    freeOf_eq (by simp [toDocument, Json.free, List.lookup_append, Json.lookup_cons]) free
  have validTime : observation.toDocument.optional? "validTime" Interval.ofJson? =
      some observation.validTime := by
    apply optional?_interval
    · simp [toDocument, Json.free, List.lookup_append, Json.lookup_cons]
    · intro interval given instant member
      apply inFourDigits
      simp only [EntityKind.spanInstants, given, Option.toList_some, List.flatMap_singleton]
      exact List.mem_append_right _ member
  have phenomenonTime := TimeSpan.ofJson?_toJson fun instant member =>
    inFourDigits instant (List.mem_append_left _ member)
  simp only [ofDocument?, parameters, validTime]
  simp [toDocument, linkOf, Json.required?, Json.free, List.lookup_append, Json.lookup_cons,
    phenomenonTime, ObservedValue.ofDocument?_toDocument isStorable]

@[simp] theorem ObservationPointer.ofDocument?_toDocument {pointer : ObservationPointer}
    (isStorable : pointer.value.IsStorable) : ofDocument? pointer.toDocument = some pointer := by
  simp [ofDocument?, toDocument, linkOf, Json.required?, Json.lookup_cons,
    ObservedValue.ofDocument?_toDocument isStorable]

@[simp] theorem Dataset.ofDocument?_toDocument {dataset : Dataset}
    (isStorable : EntityKind.dataset.IsStorable dataset) :
    ofDocument? dataset.toDocument = some dataset := by
  have first : dataset.toDocument.optional? "firstObservation" ObservationPointer.ofDocument? =
      some dataset.firstObservation := by
    have found : dataset.toDocument.member? "firstObservation" =
        dataset.firstObservation.map ObservationPointer.toDocument := by
      simp [toDocument, List.lookup_append, Json.lookup_cons]
    apply Json.optional?_eq found
    exact fun pointer given => ⟨nofun, ObservationPointer.ofDocument?_toDocument
      (isStorable.1 pointer given)⟩
  have last : dataset.toDocument.optional? "lastObservation" ObservationPointer.ofDocument? =
      some dataset.lastObservation := by
    have found : dataset.toDocument.member? "lastObservation" =
        dataset.lastObservation.map ObservationPointer.toDocument := by
      simp [toDocument, List.lookup_append, Json.lookup_cons]
    apply Json.optional?_eq found
    exact fun pointer given => ⟨nofun, ObservationPointer.ofDocument?_toDocument
      (isStorable.2 pointer given)⟩
  simp only [ofDocument?, first, last]
  simp [toDocument, linkOf, Json.required?, List.lookup_append, Json.lookup_cons]

@[simp] theorem UnitOfMeasurement.ofDocument?_toDocument (unit : UnitOfMeasurement) :
    ofDocument? unit.toDocument = some unit := by
  obtain ⟨id, name, symbol, definition⟩ := unit
  cases name <;> cases symbol <;> cases definition <;> rfl

@[simp] theorem Format.ofDocument?_toDocument (format : Format) :
    ofDocument? format.toDocument = some format := rfl

@[simp] theorem EntityKind.ofDocument?_toDocument {kind : EntityKind} {entity : kind.Entity}
    (isStorable : kind.IsStorable entity)
    (inFourDigits : ∀ instant ∈ kind.spanInstants entity, instant.InFourDigits) :
    kind.ofDocument? (kind.toDocument entity) = some entity := by
  cases kind with
  | thing => exact Thing.ofDocument?_toDocument isStorable
  | location => exact Location.ofDocument?_toDocument isStorable.1 isStorable.2
  | historicalLocation => exact HistoricalLocation.ofDocument?_toDocument entity
  | sensor => exact Sensor.ofDocument?_toDocument isStorable
  | observedProperty => exact ObservedProperty.ofDocument?_toDocument isStorable
  | datastream => exact Datastream.ofDocument?_toDocument isStorable inFourDigits
  | featureOfInterest => exact FeatureOfInterest.ofDocument?_toDocument isStorable.1 isStorable.2
  | observation =>
    exact Observation.ofDocument?_toDocument isStorable.1 isStorable.2 inFourDigits
  | dataset => exact Dataset.ofDocument?_toDocument isStorable
  | unitOfMeasurement => exact UnitOfMeasurement.ofDocument?_toDocument entity
  | format => exact Format.ofDocument?_toDocument entity

end SensorThings
