import SensorThings.Draft.Reader
import SensorThings.Http.Representation
import SensorThings.Proofs.Model.Documents
import SensorThings.Proofs.Model.Results

/-!
Representations read as drafts. What a client gets of an entity holds the members of a draft of its
kind, each with its own value, and names no relation but by links, which a draft passes over.
-/
namespace SensorThings

namespace Json

variable {json : Json} {key text : String}

@[simp] theorem isObject_ofMembers (members : List (String × Json)) :
    (ofMembers members).isObject = true := rfl

@[simp] theorem byName_of_isObject {names : List String} (object : json.isObject = true) :
    json.byName names = json := by
  cases json <;> first | rfl | contradiction

theorem inner?_of_missing {names : List String} (object : json.isObject = true)
    (missing : json.member? key = none) : json.inner? names key = none := by
  unfold inner?
  split
  next => rfl
  next => rfl
  next value _ found => simp [object, missing] at found

theorem inners?_of_missing {names : List String} (object : json.isObject = true)
    (missing : json.member? key = none) : json.inners? names key = some none := by
  unfold inners?
  split
  next => rfl
  next => rfl
  next items found => simp [object, missing] at found
  next => simp_all

theorem optional?_written {α : Type} {read? : Json → Option α} (write : α → Json) {value : α}
    (found : json.member? key = some (write value)) (notNull : write value ≠ .null)
    (read : read? (write value) = some value) : json.optional? key read? = some (some value) := by
  apply optional?_eq found
  rintro _ ⟨⟩
  exact ⟨notNull, read⟩

end Json

@[simp] theorem SentGeometry.ofJson?_toJson {geometry : Geometry} (proper : geometry.IsProper) :
    ofJson? geometry.toJson = some (.bare geometry) := by
  have named : Geometry.withNamedType geometry.toJson = geometry.toJson := by cases geometry <;> rfl
  rw [ofJson?, named, Geometry.ofJson?_toJson proper]

namespace ObservedValue

variable {value : ObservedValue}

theorem toJson_ne_null (isStorable : value.IsStorable) : value.toJson ≠ .null := by
  cases value with
  | quantity number =>
    cases number with
    | none => simp [toJson]
    | some double => simp [toJson, show Binary64.isFinite double = true from isStorable]
  | category | count | text | boolean => simp [toJson]

theorem result_toJson {type : ObservationType} (fits : type.Fits value)
    (isStorable : value.IsStorable) : type.result value.toJson = .ok value := by
  have read : type.result? value.toJson = some value := by
    cases type <;> cases value <;> first | exact fits.elim | rfl | skip
    case measurement.quantity number =>
      cases number with
      | none => rfl
      | some double =>
        have finite : Binary64.isFinite double = true := isStorable
        simp [toJson, finite, ObservationType.result?, quantity?]
    case count.count whole =>
      have bound : Text.fitsSigned whole = true := isStorable
      simp [toJson, ObservationType.result?, count?, integer?, bound]
  rw [ObservationType.result, read]

end ObservedValue

@[simp] theorem ObservationType.ofUri_uri (type : ObservationType) : ofUri type.uri = .ok type := by
  have read : ofUri? type.uri = some type := by cases type <;> decide +kernel
  rw [ofUri, read]

@[simp] theorem UnitOfMeasurement.ofJson?_represent (unit : UnitOfMeasurement) :
    UnitDraft.ofJson? (represent (some unit)) =
      some ⟨unit.name, unit.symbol, unit.definition⟩ := by
  obtain ⟨id, name, symbol, definition⟩ := unit
  cases name <;> cases symbol <;> cases definition <;> rfl

section

attribute [local simp] Tables.represent Tables.ownMembers EntityKind.relations EntityKind.idOf
  Json.free List.lookup_append Json.lookup_cons

variable (tables : Tables) (base : String)

@[simp] theorem Tables.id_represent (kind : EntityKind) (entity : kind.Entity) :
    (tables.represent base kind entity).optional? "@iot.id" EntityId.ofJson? =
      some (some (kind.idOf entity)) := by
  cases kind <;> exact Json.optional?_written EntityId.toJson (by simp) nofun rfl

@[simp] theorem Tables.isObject_represent (kind : EntityKind) (entity : kind.Entity) :
    (tables.represent base kind entity).isObject = true := by
  cases kind <;> rfl

@[simp] theorem Tables.missing_relation (kind : EntityKind) (entity : kind.Entity) :
    ∀ relation ∈ kind.relations, (tables.represent base kind entity).member? relation = none := by
  cases kind <;> simp

@[simp] theorem Thing.ofJson?_represent {thing : Thing} (free : thing.properties ≠ some .null) :
    ThingDraft.ofJson? (tables.represent base .thing thing) =
      some ⟨some thing.id, some thing.name, some thing.description, thing.properties, none, none,
        none⟩ := by
  have properties : (tables.represent base .thing thing).optional? "properties" some =
      some thing.properties := freeOf_eq (by simp) free
  have missing := tables.missing_relation base .thing thing
  have object := tables.isObject_represent base .thing thing
  rw [ThingDraft.ofJson?, Json.byName_of_isObject object, tables.id_represent, properties,
    Json.inners?_of_missing object (missing "Locations" (by decide)),
    Json.inners?_of_missing object (missing "Datastreams" (by decide)),
    Json.inners?_of_missing object (missing "HistoricalLocations" (by decide))]
  simp [Json.optional?, Json.string?]

theorem Location.ofJson?_represent {location : Location}
    (free : location.properties ≠ some .null) (proper : location.location.IsProper) :
    LocationDraft.ofJson? (tables.represent base .location location) =
      some ⟨some location.id, some location.name, some location.description,
        some location.encodingType, some (.bare location.location), location.properties, none,
        none⟩ := by
  have properties : (tables.represent base .location location).optional? "properties" some =
      some location.properties := freeOf_eq (by simp) free
  have geometry : (tables.represent base .location location).optional? "location"
      SentGeometry.ofJson? = some (some (.bare location.location)) :=
    Json.optional?_written SentGeometry.toJson (by simp [SentGeometry.toJson]) nofun
      (SentGeometry.ofJson?_toJson proper)
  have missing := tables.missing_relation base .location location
  have object := tables.isObject_represent base .location location
  rw [LocationDraft.ofJson?, Json.byName_of_isObject object, tables.id_represent, properties,
    geometry, Json.inners?_of_missing object (missing "Things" (by decide)),
    Json.inners?_of_missing object (missing "HistoricalLocations" (by decide))]
  simp [Json.optional?, Json.string?]

@[simp] theorem HistoricalLocation.ofJson?_represent (historical : HistoricalLocation) :
    HistoricalLocationDraft.ofJson? (tables.represent base .historicalLocation historical) =
      some ⟨some historical.id, some historical.time, none, none⟩ := by
  have time : (tables.represent base .historicalLocation historical).optional? "time"
      Instant.ofDocument? = some (some historical.time) :=
    Json.optional?_written Instant.toJson (by simp) nofun historical.time.ofDocument?_toJson
  have missing := tables.missing_relation base .historicalLocation historical
  have object := tables.isObject_represent base .historicalLocation historical
  rw [HistoricalLocationDraft.ofJson?, Json.byName_of_isObject object, tables.id_represent, time,
    Json.inner?_of_missing object (missing "Thing" (by decide)),
    Json.inners?_of_missing object (missing "Locations" (by decide))]
  simp

@[simp] theorem Sensor.ofJson?_represent {sensor : Sensor} (free : sensor.properties ≠ some .null) :
    SensorDraft.ofJson? (tables.represent base .sensor sensor) =
      some ⟨some sensor.id, some sensor.name, some sensor.description, some sensor.encodingType,
        some sensor.metadata, sensor.properties, none⟩ := by
  have properties : (tables.represent base .sensor sensor).optional? "properties" some =
      some sensor.properties := freeOf_eq (by simp) free
  have missing := tables.missing_relation base .sensor sensor
  have object := tables.isObject_represent base .sensor sensor
  rw [SensorDraft.ofJson?, Json.byName_of_isObject object, tables.id_represent, properties,
    Json.inners?_of_missing object (missing "Datastreams" (by decide))]
  simp [Json.optional?, Json.string?]

@[simp] theorem ObservedProperty.ofJson?_represent {property : ObservedProperty}
    (free : property.properties ≠ some .null) :
    ObservedPropertyDraft.ofJson? (tables.represent base .observedProperty property) =
      some ⟨some property.id, some property.name, some property.definition,
        some property.description, property.properties, none⟩ := by
  have properties : (tables.represent base .observedProperty property).optional? "properties" some =
      some property.properties := freeOf_eq (by simp) free
  have missing := tables.missing_relation base .observedProperty property
  have object := tables.isObject_represent base .observedProperty property
  rw [ObservedPropertyDraft.ofJson?, Json.byName_of_isObject object, tables.id_represent,
    properties, Json.inners?_of_missing object (missing "Datastreams" (by decide))]
  simp [Json.optional?, Json.string?]

theorem Datastream.ofJson?_represent {datastream : Datastream} {unit : UnitOfMeasurement}
    (free : datastream.properties ≠ some .null)
    (measured : tables.find? .unitOfMeasurement datastream.unit = some unit) :
    DatastreamDraft.ofJson? (tables.represent base .datastream datastream) =
      some ⟨some datastream.id, some datastream.name, some datastream.description,
        some ⟨unit.name, unit.symbol, unit.definition⟩, some datastream.observationType.uri,
        datastream.properties, none, none, none, none⟩ := by
  have properties : (tables.represent base .datastream datastream).optional? "properties" some =
      some datastream.properties := freeOf_eq (by simp) free
  have units : (tables.represent base .datastream datastream).optional? "unitOfMeasurement"
      UnitDraft.ofJson? = some (some ⟨unit.name, unit.symbol, unit.definition⟩) :=
    Json.optional?_written (fun _ => UnitOfMeasurement.represent (some unit)) (by simp [measured])
      nofun unit.ofJson?_represent
  have missing := tables.missing_relation base .datastream datastream
  have object := tables.isObject_represent base .datastream datastream
  rw [DatastreamDraft.ofJson?, Json.byName_of_isObject object, tables.id_represent, properties,
    units, Json.inner?_of_missing object (missing "Thing" (by decide)),
    Json.inner?_of_missing object (missing "Sensor" (by decide)),
    Json.inner?_of_missing object (missing "ObservedProperty" (by decide)),
    Json.inners?_of_missing object (missing "Observations" (by decide))]
  simp [Json.optional?, Json.string?]

theorem FeatureOfInterest.ofJson?_represent {feature : FeatureOfInterest}
    (free : feature.properties ≠ some .null) (proper : feature.feature.IsProper) :
    FeatureDraft.ofJson? (tables.represent base .featureOfInterest feature) =
      some ⟨some feature.id, some feature.name, some feature.description, some feature.featureType,
        some (.bare feature.feature), feature.properties, none⟩ := by
  have properties : (tables.represent base .featureOfInterest feature).optional? "properties" some =
      some feature.properties := freeOf_eq (by simp) free
  have geometry : (tables.represent base .featureOfInterest feature).optional? "feature"
      SentGeometry.ofJson? = some (some (.bare feature.feature)) :=
    Json.optional?_written SentGeometry.toJson (by simp [SentGeometry.toJson]) nofun
      (SentGeometry.ofJson?_toJson proper)
  have missing := tables.missing_relation base .featureOfInterest feature
  have object := tables.isObject_represent base .featureOfInterest feature
  rw [FeatureDraft.ofJson?, Json.byName_of_isObject object, tables.id_represent, properties,
    geometry, Json.inners?_of_missing object (missing "Observations" (by decide))]
  simp [Json.optional?, Json.string?]

theorem Observation.ofJson?_represent {observation : Observation}
    (free : observation.parameters ≠ some .null) (present : observation.result.toJson ≠ .null)
    (readable : ∀ instant ∈ observation.phenomenonTime.instants ++
      observation.validTime.toList.flatMap Interval.instants, instant.InFourDigits) :
    ObservationDraft.ofJson? (tables.represent base .observation observation) =
      some ⟨some observation.id, some observation.phenomenonTime, some observation.resultTime,
        observation.validTime, observation.parameters, some observation.result.toJson, none,
        none⟩ := by
  have parameters : (tables.represent base .observation observation).optional? "parameters" some =
      some observation.parameters := freeOf_eq (by simp) free
  have phenomenonTime : (tables.represent base .observation observation).optional?
      "phenomenonTime" TimeSpan.ofJson? = some (some observation.phenomenonTime) :=
    Json.optional?_written TimeSpan.toJson (by simp) nofun
      (TimeSpan.ofJson?_toJson fun instant member =>
        readable instant (List.mem_append_left _ member))
  have resultTime : (tables.represent base .observation observation).optional? "resultTime"
      Instant.ofDocument? = some (some observation.resultTime) :=
    Json.optional?_written Instant.toJson (by simp) nofun
      observation.resultTime.ofDocument?_toJson
  have validTime : (tables.represent base .observation observation).optional? "validTime"
      Interval.ofJson? = some observation.validTime := by
    apply optional?_interval (by simp)
    intro interval given instant member
    apply readable
    rw [given, Option.toList_some, List.flatMap_singleton]
    exact List.mem_append_right _ member
  have result : (tables.represent base .observation observation).optional? "result" some =
      some (some observation.result.toJson) :=
    Json.optional?_written (fun raw => raw) (by simp) present rfl
  have missing := tables.missing_relation base .observation observation
  have object := tables.isObject_represent base .observation observation
  rw [ObservationDraft.ofJson?, Json.byName_of_isObject object, tables.id_represent, parameters,
    phenomenonTime, resultTime, validTime, result,
    Json.inner?_of_missing object (missing "Datastream" (by decide)),
    Json.inner?_of_missing object (missing "FeatureOfInterest" (by decide))]
  simp

end

end SensorThings
