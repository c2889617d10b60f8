import SensorThings.Draft.Reader
import SensorThings.Proofs.Json.Members

/-!
Drafts member by member. A draft is read from a record, an object or an array that stands for one,
one member after the other, so it can be told what changes when one member is put in place of
another.
-/
namespace SensorThings

namespace Json

variable {α : Type} {json : Json} {key name : String} {value : Json}
  {members : List (String × Json)} {names : List String} {read? : Json → Option α}

@[simp] theorem optional?_insertMember (different : key ≠ name) :
    (object (insertMember name value members)).optional? key read? =
      (object members).optional? key read? := by
  have same : (object (insertMember name value members)).member? key =
      (object members).member? key := by
    rw [member?, lookup_insertMember, if_neg different, member?]
  unfold optional?
  rw [same]

@[simp] theorem optional?_insertMember_self (notNull : value ≠ .null) :
    (object (insertMember name value members)).optional? name read? = (read? value).map some := by
  have found : (object (insertMember name value members)).member? name = some value := by
    rw [member?, lookup_insertMember, if_pos rfl]
  unfold optional?
  rw [found]
  cases value <;> first | rfl | exact absurd rfl notNull

theorem inner?_mapM (json : Json) (names : List String) (key : String)
    (read? : Json → Option α) : (json.inner? names key).mapM (fun value => read? value.1) =
      (json.byName names).optional? key read? := by
  unfold inner? optional?
  split <;> simp_all

theorem inners?_mapM (json : Json) (names : List String) (key : String)
    (read? : Json → Option α) :
    (json.inners? names key >>= fun items => items.mapM fun items => items.mapM fun value =>
      read? value.1) = (json.byName names).optional? key (list? read?) := by
  have each (items : List Json) :
      (items.attach.mapM fun item => read? item.1) = items.mapM read? := by
    change items.attach.mapM (read? ∘ Subtype.val) = items.mapM read?
    rw [← List.mapM_map, List.attach_map_subtype_val]
  unfold inners? optional?
  split
  next => simp_all
  next => simp_all
  next items found =>
    simp only [found, list?, Option.bind_eq_bind, Option.bind_some, Option.mapM_some,
      List.mapM_map, Function.comp_def, each]
    rfl
  next value notNull notArray found =>
    rw [found]
    cases value <;> first | rfl | exact (notNull rfl).elim | exact (notArray _ rfl).elim

theorem inner?_iff {link : Option α} :
    (json.inner? names key).mapM (fun value => read? value.1) = some link ↔
      (json.byName names).optional? key read? = some link := by
  rw [inner?_mapM]

theorem inners?_iff {links : Option (List α)} :
    (∃ items, json.inners? names key = some items ∧
      (items.mapM fun items => items.mapM fun value => read? value.1) = some links) ↔
      (json.byName names).optional? key (list? read?) = some links := by
  rw [← inners?_mapM, Option.bind_eq_bind, Option.bind_eq_some_iff]

end Json

/-! Related entities as they are read. -/

def ThingDraft.readLink? (json : Json) : Option (Link ThingDraft) := do
  return (← ofJson? json).link

def LocationDraft.readLink? (json : Json) : Option (Link LocationDraft) := do
  return (← ofJson? json).link

def HistoricalLocationDraft.readLink? (json : Json) : Option (Link HistoricalLocationDraft) := do
  return (← ofJson? json).link

def SensorDraft.readLink? (json : Json) : Option (Link SensorDraft) := do
  return (← ofJson? json).link

def ObservedPropertyDraft.readLink? (json : Json) : Option (Link ObservedPropertyDraft) := do
  return (← ofJson? json).link

def DatastreamDraft.readLink? (json : Json) : Option (Link DatastreamDraft) := do
  return (← ofJson? json).link

def FeatureDraft.readLink? (json : Json) : Option (Link FeatureDraft) := do
  return (← ofJson? json).link

def ObservationDraft.readLink? (json : Json) : Option (Link ObservationDraft) := do
  return (← ofJson? json).link

/-! What is read of an object, member by member. -/

structure ThingDraft.ReadsFrom (draft : ThingDraft) (json : Json) : Prop where
  object : json.isObject = true
  id : json.optional? "@iot.id" EntityId.ofJson? = some draft.id
  name : json.optional? "name" Json.string? = some draft.name
  description : json.optional? "description" Json.string? = some draft.description
  properties : json.optional? "properties" some = some draft.properties
  locations : json.optional? "Locations" (Json.list? LocationDraft.readLink?) = some draft.locations
  datastreams : json.optional? "Datastreams" (Json.list? DatastreamDraft.readLink?) =
    some draft.datastreams
  historicalLocations : json.optional? "HistoricalLocations"
    (Json.list? HistoricalLocationDraft.readLink?) = some draft.historicalLocations

theorem ThingDraft.ofJson?_eq_some_iff {json : Json} {draft : ThingDraft} :
    ofJson? json = some draft ↔ draft.ReadsFrom (json.byName names) := by
  cases draft
  rw [ofJson?]
  by_cases object : (json.byName names).isObject = true
  · simp only [object, Bool.not_true, Bool.false_eq_true, if_false, Option.bind_eq_bind,
      Option.bind_eq_some_iff]
    constructor
    · rintro ⟨_, id, _, name, _, description, _, properties, _, locationsListed, _, locations, _,
        datastreamsListed, _, datastreams, _, historicalLocationsListed, _, historicalLocations,
        done⟩
      cases done
      exact ⟨object, id, name, description, properties, Json.inners?_iff.1 ⟨_, locationsListed,
        locations⟩, Json.inners?_iff.1 ⟨_, datastreamsListed, datastreams⟩, Json.inners?_iff.1 ⟨_,
        historicalLocationsListed, historicalLocations⟩⟩
    · rintro ⟨-, id, name, description, properties, locations, datastreams, historicalLocations⟩
      obtain ⟨_, locationsListed, locations⟩ := Json.inners?_iff.2 locations
      obtain ⟨_, datastreamsListed, datastreams⟩ := Json.inners?_iff.2 datastreams
      obtain ⟨_, historicalLocationsListed, historicalLocations⟩ := Json.inners?_iff.2
        historicalLocations
      exact ⟨_, id, _, name, _, description, _, properties, _, locationsListed, _, locations, _,
        datastreamsListed, _, datastreams, _, historicalLocationsListed, _, historicalLocations,
        rfl⟩
  · exact iff_of_false (by simp [object]) fun reads => object reads.object

structure LocationDraft.ReadsFrom (draft : LocationDraft) (json : Json) : Prop where
  object : json.isObject = true
  id : json.optional? "@iot.id" EntityId.ofJson? = some draft.id
  name : json.optional? "name" Json.string? = some draft.name
  description : json.optional? "description" Json.string? = some draft.description
  encodingType : json.optional? "encodingType" Json.string? = some draft.encodingType
  location : json.optional? "location" SentGeometry.ofJson? = some draft.location
  properties : json.optional? "properties" some = some draft.properties
  things : json.optional? "Things" (Json.list? ThingDraft.readLink?) = some draft.things
  historicalLocations : json.optional? "HistoricalLocations"
    (Json.list? HistoricalLocationDraft.readLink?) = some draft.historicalLocations

theorem LocationDraft.ofJson?_eq_some_iff {json : Json} {draft : LocationDraft} :
    ofJson? json = some draft ↔ draft.ReadsFrom (json.byName names) := by
  cases draft
  rw [ofJson?]
  by_cases object : (json.byName names).isObject = true
  · simp only [object, Bool.not_true, Bool.false_eq_true, if_false, Option.bind_eq_bind,
      Option.bind_eq_some_iff]
    constructor
    · rintro ⟨_, id, _, name, _, description, _, encodingType, _, location, _, properties, _,
        thingsListed, _, things, _, historicalLocationsListed, _, historicalLocations, done⟩
      cases done
      exact ⟨object, id, name, description, encodingType, location, properties, Json.inners?_iff.1
        ⟨_, thingsListed, things⟩, Json.inners?_iff.1 ⟨_, historicalLocationsListed,
        historicalLocations⟩⟩
    · rintro ⟨-, id, name, description, encodingType, location, properties, things,
        historicalLocations⟩
      obtain ⟨_, thingsListed, things⟩ := Json.inners?_iff.2 things
      obtain ⟨_, historicalLocationsListed, historicalLocations⟩ := Json.inners?_iff.2
        historicalLocations
      exact ⟨_, id, _, name, _, description, _, encodingType, _, location, _, properties, _,
        thingsListed, _, things, _, historicalLocationsListed, _, historicalLocations, rfl⟩
  · exact iff_of_false (by simp [object]) fun reads => object reads.object

structure HistoricalLocationDraft.ReadsFrom (draft : HistoricalLocationDraft) (json : Json) : Prop
    where
  object : json.isObject = true
  id : json.optional? "@iot.id" EntityId.ofJson? = some draft.id
  time : json.optional? "time" Instant.ofDocument? = some draft.time
  thing : json.optional? "Thing" ThingDraft.readLink? = some draft.thing
  locations : json.optional? "Locations" (Json.list? LocationDraft.readLink?) = some draft.locations

theorem HistoricalLocationDraft.ofJson?_eq_some_iff {json : Json} {draft : HistoricalLocationDraft}
    :
    ofJson? json = some draft ↔ draft.ReadsFrom (json.byName names) := by
  cases draft
  rw [ofJson?]
  by_cases object : (json.byName names).isObject = true
  · simp only [object, Bool.not_true, Bool.false_eq_true, if_false, Option.bind_eq_bind,
      Option.bind_eq_some_iff]
    constructor
    · rintro ⟨_, id, _, time, _, thing, _, locationsListed, _, locations, done⟩
      cases done
      exact ⟨object, id, time, Json.inner?_iff.1 thing, Json.inners?_iff.1 ⟨_, locationsListed,
        locations⟩⟩
    · rintro ⟨-, id, time, thing, locations⟩
      obtain ⟨_, locationsListed, locations⟩ := Json.inners?_iff.2 locations
      exact ⟨_, id, _, time, _, Json.inner?_iff.2 thing, _, locationsListed, _, locations, rfl⟩
  · exact iff_of_false (by simp [object]) fun reads => object reads.object

structure SensorDraft.ReadsFrom (draft : SensorDraft) (json : Json) : Prop where
  object : json.isObject = true
  id : json.optional? "@iot.id" EntityId.ofJson? = some draft.id
  name : json.optional? "name" Json.string? = some draft.name
  description : json.optional? "description" Json.string? = some draft.description
  encodingType : json.optional? "encodingType" Json.string? = some draft.encodingType
  metadata : json.optional? "metadata" Json.string? = some draft.metadata
  properties : json.optional? "properties" some = some draft.properties
  datastreams : json.optional? "Datastreams" (Json.list? DatastreamDraft.readLink?) =
    some draft.datastreams

theorem SensorDraft.ofJson?_eq_some_iff {json : Json} {draft : SensorDraft} :
    ofJson? json = some draft ↔ draft.ReadsFrom (json.byName names) := by
  cases draft
  rw [ofJson?]
  by_cases object : (json.byName names).isObject = true
  · simp only [object, Bool.not_true, Bool.false_eq_true, if_false, Option.bind_eq_bind,
      Option.bind_eq_some_iff]
    constructor
    · rintro ⟨_, id, _, name, _, description, _, encodingType, _, metadata, _, properties, _,
        datastreamsListed, _, datastreams, done⟩
      cases done
      exact ⟨object, id, name, description, encodingType, metadata, properties, Json.inners?_iff.1
        ⟨_, datastreamsListed, datastreams⟩⟩
    · rintro ⟨-, id, name, description, encodingType, metadata, properties, datastreams⟩
      obtain ⟨_, datastreamsListed, datastreams⟩ := Json.inners?_iff.2 datastreams
      exact ⟨_, id, _, name, _, description, _, encodingType, _, metadata, _, properties, _,
        datastreamsListed, _, datastreams, rfl⟩
  · exact iff_of_false (by simp [object]) fun reads => object reads.object

structure ObservedPropertyDraft.ReadsFrom (draft : ObservedPropertyDraft) (json : Json) : Prop where
  object : json.isObject = true
  id : json.optional? "@iot.id" EntityId.ofJson? = some draft.id
  name : json.optional? "name" Json.string? = some draft.name
  definition : json.optional? "definition" Json.string? = some draft.definition
  description : json.optional? "description" Json.string? = some draft.description
  properties : json.optional? "properties" some = some draft.properties
  datastreams : json.optional? "Datastreams" (Json.list? DatastreamDraft.readLink?) =
    some draft.datastreams

theorem ObservedPropertyDraft.ofJson?_eq_some_iff {json : Json} {draft : ObservedPropertyDraft} :
    ofJson? json = some draft ↔ draft.ReadsFrom (json.byName names) := by
  cases draft
  rw [ofJson?]
  by_cases object : (json.byName names).isObject = true
  · simp only [object, Bool.not_true, Bool.false_eq_true, if_false, Option.bind_eq_bind,
      Option.bind_eq_some_iff]
    constructor
    · rintro ⟨_, id, _, name, _, definition, _, description, _, properties, _, datastreamsListed, _,
        datastreams, done⟩
      cases done
      exact ⟨object, id, name, definition, description, properties, Json.inners?_iff.1 ⟨_,
        datastreamsListed, datastreams⟩⟩
    · rintro ⟨-, id, name, definition, description, properties, datastreams⟩
      obtain ⟨_, datastreamsListed, datastreams⟩ := Json.inners?_iff.2 datastreams
      exact ⟨_, id, _, name, _, definition, _, description, _, properties, _, datastreamsListed, _,
        datastreams, rfl⟩
  · exact iff_of_false (by simp [object]) fun reads => object reads.object

structure DatastreamDraft.ReadsFrom (draft : DatastreamDraft) (json : Json) : Prop where
  object : json.isObject = true
  id : json.optional? "@iot.id" EntityId.ofJson? = some draft.id
  name : json.optional? "name" Json.string? = some draft.name
  description : json.optional? "description" Json.string? = some draft.description
  unit : json.optional? "unitOfMeasurement" UnitDraft.ofJson? = some draft.unit
  observationType : json.optional? "observationType" Json.string? = some draft.observationType
  properties : json.optional? "properties" some = some draft.properties
  thing : json.optional? "Thing" ThingDraft.readLink? = some draft.thing
  sensor : json.optional? "Sensor" SensorDraft.readLink? = some draft.sensor
  observedProperty : json.optional? "ObservedProperty" ObservedPropertyDraft.readLink? =
    some draft.observedProperty
  observations : json.optional? "Observations" (Json.list? ObservationDraft.readLink?) =
    some draft.observations

theorem DatastreamDraft.ofJson?_eq_some_iff {json : Json} {draft : DatastreamDraft} :
    ofJson? json = some draft ↔ draft.ReadsFrom (json.byName names) := by
  cases draft
  rw [ofJson?]
  by_cases object : (json.byName names).isObject = true
  · simp only [object, Bool.not_true, Bool.false_eq_true, if_false, Option.bind_eq_bind,
      Option.bind_eq_some_iff]
    constructor
    · rintro ⟨_, id, _, name, _, description, _, unit, _, observationType, _, properties, _, thing,
        _, sensor, _, observedProperty, _, observationsListed, _, observations, done⟩
      cases done
      exact ⟨object, id, name, description, unit, observationType, properties, Json.inner?_iff.1
        thing, Json.inner?_iff.1 sensor, Json.inner?_iff.1 observedProperty, Json.inners?_iff.1 ⟨_,
        observationsListed, observations⟩⟩
    · rintro ⟨-, id, name, description, unit, observationType, properties, thing, sensor,
        observedProperty, observations⟩
      obtain ⟨_, observationsListed, observations⟩ := Json.inners?_iff.2 observations
      exact ⟨_, id, _, name, _, description, _, unit, _, observationType, _, properties, _,
        Json.inner?_iff.2 thing, _, Json.inner?_iff.2 sensor, _, Json.inner?_iff.2 observedProperty,
        _, observationsListed, _, observations, rfl⟩
  · exact iff_of_false (by simp [object]) fun reads => object reads.object

structure FeatureDraft.ReadsFrom (draft : FeatureDraft) (json : Json) : Prop where
  object : json.isObject = true
  id : json.optional? "@iot.id" EntityId.ofJson? = some draft.id
  name : json.optional? "name" Json.string? = some draft.name
  description : json.optional? "description" Json.string? = some draft.description
  encodingType : json.optional? "encodingType" Json.string? = some draft.encodingType
  feature : json.optional? "feature" SentGeometry.ofJson? = some draft.feature
  properties : json.optional? "properties" some = some draft.properties
  observations : json.optional? "Observations" (Json.list? ObservationDraft.readLink?) =
    some draft.observations

theorem FeatureDraft.ofJson?_eq_some_iff {json : Json} {draft : FeatureDraft} :
    ofJson? json = some draft ↔ draft.ReadsFrom (json.byName names) := by
  cases draft
  rw [ofJson?]
  by_cases object : (json.byName names).isObject = true
  · simp only [object, Bool.not_true, Bool.false_eq_true, if_false, Option.bind_eq_bind,
      Option.bind_eq_some_iff]
    constructor
    · rintro ⟨_, id, _, name, _, description, _, encodingType, _, feature, _, properties, _,
        observationsListed, _, observations, done⟩
      cases done
      exact ⟨object, id, name, description, encodingType, feature, properties, Json.inners?_iff.1
        ⟨_, observationsListed, observations⟩⟩
    · rintro ⟨-, id, name, description, encodingType, feature, properties, observations⟩
      obtain ⟨_, observationsListed, observations⟩ := Json.inners?_iff.2 observations
      exact ⟨_, id, _, name, _, description, _, encodingType, _, feature, _, properties, _,
        observationsListed, _, observations, rfl⟩
  · exact iff_of_false (by simp [object]) fun reads => object reads.object

structure ObservationDraft.ReadsFrom (draft : ObservationDraft) (json : Json) : Prop where
  object : json.isObject = true
  id : json.optional? "@iot.id" EntityId.ofJson? = some draft.id
  phenomenonTime : json.optional? "phenomenonTime" TimeSpan.ofJson? = some draft.phenomenonTime
  resultTime : json.optional? "resultTime" Instant.ofDocument? = some draft.resultTime
  validTime : json.optional? "validTime" Interval.ofJson? = some draft.validTime
  parameters : json.optional? "parameters" some = some draft.parameters
  result : json.optional? "result" some = some draft.result
  datastream : json.optional? "Datastream" DatastreamDraft.readLink? = some draft.datastream
  feature : json.optional? "FeatureOfInterest" FeatureDraft.readLink? = some draft.feature

theorem ObservationDraft.ofJson?_eq_some_iff {json : Json} {draft : ObservationDraft} :
    ofJson? json = some draft ↔ draft.ReadsFrom (json.byName names) := by
  cases draft
  rw [ofJson?]
  by_cases object : (json.byName names).isObject = true
  · simp only [object, Bool.not_true, Bool.false_eq_true, if_false, Option.bind_eq_bind,
      Option.bind_eq_some_iff]
    constructor
    · rintro ⟨_, id, _, phenomenonTime, _, resultTime, _, validTime, _, parameters, _, result, _,
        datastream, _, feature, done⟩
      cases done
      exact ⟨object, id, phenomenonTime, resultTime, validTime, parameters, result,
        Json.inner?_iff.1 datastream, Json.inner?_iff.1 feature⟩
    · rintro ⟨-, id, phenomenonTime, resultTime, validTime, parameters, result, datastream, feature⟩
      exact ⟨_, id, _, phenomenonTime, _, resultTime, _, validTime, _, parameters, _, result, _,
        Json.inner?_iff.2 datastream, _, Json.inner?_iff.2 feature, rfl⟩
  · exact iff_of_false (by simp [object]) fun reads => object reads.object

end SensorThings
