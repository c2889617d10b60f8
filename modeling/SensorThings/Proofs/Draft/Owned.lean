import SensorThings.Proofs.Change.Outline
import SensorThings.Proofs.Draft.Reading
import SensorThings.Proofs.Draft.Represented

/-!
References as they are written and read back, and drafts with another entity as a relation: one that
a reference in their body names.
-/
namespace SensorThings

def EntityId.reference (id : EntityId) : Json :=
  .ofMembers [("@iot.id", id.toJson)]

namespace Json

variable {α : Type} {key name : String} {id : EntityId} {members : List (String × Json)}

@[simp] theorem isObject_reference : id.reference.isObject = true := rfl

@[simp] theorem byName_reference {names : List String} : id.reference.byName names = id.reference :=
  rfl

@[simp] theorem optional?_id_reference :
    id.reference.optional? "@iot.id" EntityId.ofJson? = some (some id) :=
  optional?_written EntityId.toJson (by simp [EntityId.reference]) nofun rfl

@[simp] theorem optional?_reference {read? : Json → Option α} (different : key ≠ "@iot.id") :
    id.reference.optional? key read? = some none := by
  have missing : id.reference.member? key = none := by
    simp [EntityId.reference, lookup_cons, different]
  rw [optional?, missing]

@[simp] theorem optional?_insertMember_reference {read? : Json → Option (Link α)}
    (refers : read? id.reference = some (.reference id)) :
    (object (insertMember name id.reference members)).optional? name read? =
      some (some (.reference id)) := by
  rw [optional?_insertMember_self (by simp [EntityId.reference, ofMembers]), refers]
  rfl

@[simp] theorem optional?_insertMember_references {read? : Json → Option (Link α)}
    (refers : read? id.reference = some (.reference id)) :
    (object (insertMember name (.array [id.reference]) members)).optional? name (list? read?) =
      some (some [.reference id]) := by
  rw [optional?_insertMember_self (by simp), list?, List.mapM_cons, List.mapM_nil, refers]
  rfl

end Json

/-! What is read as a reference has an identifier and nothing else. -/

section

variable {α : Type} {read? : Json → Option α} {hasFields : α → Bool}
  {given : α → Option EntityId} {alone : EntityId → α} {json : Json} {id : EntityId}

@[simp]
theorem Link.make_eq_reference_iff {draft : α} {hasFields : Bool} {given : Option EntityId} :
    make draft hasFields given = .reference id ↔ given = some id ∧ hasFields = false := by
  cases given <;> cases hasFields <;> simp [make]

theorem Link.read_eq_reference_iff
    (plain : ∀ draft id, given draft = some id ∧ hasFields draft = false ↔ draft = alone id) :
    ((read? json).bind fun draft => some (make draft (hasFields draft) (given draft))) =
      some (.reference id) ↔ read? json = some (alone id) := by
  simp only [Option.bind_eq_some_iff, Option.some.injEq, make_eq_reference_iff, plain,
    exists_eq_right]

end

/-- Whatever kind of entity a body is read for, it is a reference just if its draft holds an
identifier alone. -/
structure Json.RefersAlone (json : Json) (id : EntityId) : Prop where
  thing : ThingDraft.readLink? json = some (.reference id) ↔
    ThingDraft.ofJson? json = some (.ofId id)
  location : LocationDraft.readLink? json = some (.reference id) ↔
    LocationDraft.ofJson? json = some (.ofId id)
  historicalLocation : HistoricalLocationDraft.readLink? json = some (.reference id) ↔
    HistoricalLocationDraft.ofJson? json = some (.ofId id)
  sensor : SensorDraft.readLink? json = some (.reference id) ↔
    SensorDraft.ofJson? json = some (.ofId id)
  observedProperty : ObservedPropertyDraft.readLink? json = some (.reference id) ↔
    ObservedPropertyDraft.ofJson? json = some (.ofId id)
  datastream : DatastreamDraft.readLink? json = some (.reference id) ↔
    DatastreamDraft.ofJson? json = some (.ofId id)
  feature : FeatureDraft.readLink? json = some (.reference id) ↔
    FeatureDraft.ofJson? json = some (.ofId id)
  observation : ObservationDraft.readLink? json = some (.reference id) ↔
    ObservationDraft.ofJson? json = some (.ofId id)

theorem Json.refersAlone (json : Json) (id : EntityId) : json.RefersAlone id := by
  constructor
  all_goals
    refine Link.read_eq_reference_iff fun draft _ => ?_
    cases draft
    simp [ThingDraft.hasFields, LocationDraft.hasFields, HistoricalLocationDraft.hasFields,
      SensorDraft.hasFields, ObservedPropertyDraft.hasFields, DatastreamDraft.hasFields,
      FeatureDraft.hasFields, ObservationDraft.hasFields, ThingDraft.ofId, LocationDraft.ofId,
      HistoricalLocationDraft.ofId, SensorDraft.ofId, ObservedPropertyDraft.ofId,
      DatastreamDraft.ofId, FeatureDraft.ofId, ObservationDraft.ofId, and_assoc]

/-- Whatever kind of entity a reference is read for, it is a reference. -/
structure EntityId.Refers (id : EntityId) : Prop where
  thing : ThingDraft.readLink? id.reference = some (.reference id)
  location : LocationDraft.readLink? id.reference = some (.reference id)
  historicalLocation : HistoricalLocationDraft.readLink? id.reference = some (.reference id)
  sensor : SensorDraft.readLink? id.reference = some (.reference id)
  observedProperty : ObservedPropertyDraft.readLink? id.reference = some (.reference id)
  datastream : DatastreamDraft.readLink? id.reference = some (.reference id)
  feature : FeatureDraft.readLink? id.reference = some (.reference id)
  observation : ObservationDraft.readLink? id.reference = some (.reference id)

theorem EntityId.refers (id : EntityId) : id.Refers := by
  constructor
  all_goals
    simp only [(Json.refersAlone _ _).thing, (Json.refersAlone _ _).location,
      (Json.refersAlone _ _).historicalLocation, (Json.refersAlone _ _).sensor,
      (Json.refersAlone _ _).observedProperty, (Json.refersAlone _ _).datastream,
      (Json.refersAlone _ _).feature, (Json.refersAlone _ _).observation,
      ThingDraft.ofJson?_eq_some_iff, LocationDraft.ofJson?_eq_some_iff,
      HistoricalLocationDraft.ofJson?_eq_some_iff, SensorDraft.ofJson?_eq_some_iff,
      ObservedPropertyDraft.ofJson?_eq_some_iff, DatastreamDraft.ofJson?_eq_some_iff,
      FeatureDraft.ofJson?_eq_some_iff, ObservationDraft.ofJson?_eq_some_iff]
    constructor <;> simp [ThingDraft.ofId, LocationDraft.ofId, HistoricalLocationDraft.ofId,
      SensorDraft.ofId, ObservedPropertyDraft.ofId, DatastreamDraft.ofId, FeatureDraft.ofId,
      ObservationDraft.ofId]

/-! Drafts under an owner. A draft is read from a body with the owner just if it has the owner. -/

section

variable {members : List (String × Json)}

def DatastreamDraft.under (draft : DatastreamDraft) : DatastreamOwner → DatastreamDraft
  | .thing id => { draft with thing := some (.reference id) }
  | .sensor id => { draft with sensor := some (.reference id) }
  | .observedProperty id => { draft with observedProperty := some (.reference id) }

theorem DatastreamDraft.ReadsFrom.under {draft : DatastreamDraft}
    (reads : draft.ReadsFrom (.object members)) (owner : DatastreamOwner) :
    (draft.under owner).ReadsFrom
      (.object (Json.insertMember owner.key.kind.name owner.key.id.reference members)) := by
  cases owner with
  | thing id =>
    change ReadsFrom _ (.object (Json.insertMember "Thing" id.reference members))
    refine ⟨rfl, ?_, ?_, ?_, ?_, ?_, ?_, Json.optional?_insertMember_reference
      id.refers.thing, ?_, ?_, ?_⟩
    all_goals refine (Json.optional?_insertMember (by decide)).trans ?_
    exacts [reads.id, reads.name, reads.description, reads.unit, reads.observationType,
      reads.properties, reads.sensor, reads.observedProperty, reads.observations]
  | sensor id =>
    change ReadsFrom _ (.object (Json.insertMember "Sensor" id.reference members))
    refine ⟨rfl, ?_, ?_, ?_, ?_, ?_, ?_, ?_, Json.optional?_insertMember_reference
      id.refers.sensor, ?_, ?_⟩
    all_goals refine (Json.optional?_insertMember (by decide)).trans ?_
    exacts [reads.id, reads.name, reads.description, reads.unit, reads.observationType,
      reads.properties, reads.thing, reads.observedProperty, reads.observations]
  | observedProperty id =>
    change ReadsFrom _ (.object (Json.insertMember "ObservedProperty" id.reference members))
    refine ⟨rfl, ?_, ?_, ?_, ?_, ?_, ?_, ?_, ?_, Json.optional?_insertMember_reference
      id.refers.observedProperty, ?_⟩
    all_goals refine (Json.optional?_insertMember (by decide)).trans ?_
    exacts [reads.id, reads.name, reads.description, reads.unit, reads.observationType,
      reads.properties, reads.thing, reads.sensor, reads.observations]

theorem DatastreamDraft.ReadsFrom.under_eq {draft : DatastreamDraft} {owner : DatastreamOwner}
    (reads : draft.ReadsFrom
      (.object (Json.insertMember owner.key.kind.name owner.key.id.reference members))) :
    draft.under owner = draft := by
  cases owner with
  | thing id =>
    have given : some (some (.reference id)) = some draft.thing :=
      (Json.optional?_insertMember_reference id.refers.thing).symm.trans
        reads.thing
    cases draft
    cases given
    rfl
  | sensor id =>
    have given : some (some (.reference id)) = some draft.sensor :=
      (Json.optional?_insertMember_reference id.refers.sensor).symm.trans
        reads.sensor
    cases draft
    cases given
    rfl
  | observedProperty id =>
    have given : some (some (.reference id)) = some draft.observedProperty :=
      (Json.optional?_insertMember_reference
        id.refers.observedProperty).symm.trans reads.observedProperty
    cases draft
    cases given
    rfl

def ObservationDraft.under (draft : ObservationDraft) : ObservationOwner → ObservationDraft
  | .datastream id => { draft with datastream := some (.reference id) }
  | .feature id => { draft with feature := some (.reference id) }

theorem ObservationDraft.ReadsFrom.under {draft : ObservationDraft}
    (reads : draft.ReadsFrom (.object members)) (owner : ObservationOwner) :
    (draft.under owner).ReadsFrom
      (.object (Json.insertMember owner.key.kind.name owner.key.id.reference members)) := by
  cases owner with
  | datastream id =>
    change ReadsFrom _ (.object (Json.insertMember "Datastream" id.reference members))
    refine ⟨rfl, ?_, ?_, ?_, ?_, ?_, ?_, Json.optional?_insertMember_reference
      id.refers.datastream, ?_⟩
    all_goals refine (Json.optional?_insertMember (by decide)).trans ?_
    exacts [reads.id, reads.phenomenonTime, reads.resultTime, reads.validTime, reads.parameters,
      reads.result, reads.feature]
  | feature id =>
    change ReadsFrom _ (.object (Json.insertMember "FeatureOfInterest" id.reference members))
    refine ⟨rfl, ?_, ?_, ?_, ?_, ?_, ?_, ?_, Json.optional?_insertMember_reference
      id.refers.feature⟩
    all_goals refine (Json.optional?_insertMember (by decide)).trans ?_
    exacts [reads.id, reads.phenomenonTime, reads.resultTime, reads.validTime, reads.parameters,
      reads.result, reads.datastream]

theorem ObservationDraft.ReadsFrom.under_eq {draft : ObservationDraft} {owner : ObservationOwner}
    (reads : draft.ReadsFrom
      (.object (Json.insertMember owner.key.kind.name owner.key.id.reference members))) :
    draft.under owner = draft := by
  cases owner with
  | datastream id =>
    have given : some (some (.reference id)) = some draft.datastream :=
      (Json.optional?_insertMember_reference id.refers.datastream).symm.trans
        reads.datastream
    cases draft
    cases given
    rfl
  | feature id =>
    have given : some (some (.reference id)) = some draft.feature :=
      (Json.optional?_insertMember_reference id.refers.feature).symm.trans
        reads.feature
    cases draft
    cases given
    rfl

variable {id : EntityId}

theorem HistoricalLocationDraft.ReadsFrom.withThing {draft : HistoricalLocationDraft}
    (reads : draft.ReadsFrom (.object members)) (id : EntityId) :
    ReadsFrom { draft with thing := some (.reference id) }
      (.object (Json.insertMember "Thing" id.reference members)) := by
  refine ⟨rfl, ?_, ?_, Json.optional?_insertMember_reference
    id.refers.thing, ?_⟩
  all_goals refine (Json.optional?_insertMember (by decide)).trans ?_
  exacts [reads.id, reads.time, reads.locations]

theorem HistoricalLocationDraft.ReadsFrom.thing_eq {draft : HistoricalLocationDraft}
    (reads : draft.ReadsFrom (.object (Json.insertMember "Thing" id.reference members))) :
    draft.thing = some (.reference id) :=
  Option.some.inj <| reads.thing.symm.trans <|
    Json.optional?_insertMember_reference id.refers.thing

theorem LocationDraft.ReadsFrom.withThings {draft : LocationDraft}
    (reads : draft.ReadsFrom (.object members)) (id : EntityId) :
    ReadsFrom { draft with things := some [.reference id] }
      (.object (Json.insertMember "Things" (.array [id.reference]) members)) := by
  refine ⟨rfl, ?_, ?_, ?_, ?_, ?_, ?_, Json.optional?_insertMember_references
    id.refers.thing, ?_⟩
  all_goals refine (Json.optional?_insertMember (by decide)).trans ?_
  exacts [reads.id, reads.name, reads.description, reads.encodingType, reads.location,
    reads.properties, reads.historicalLocations]

theorem LocationDraft.ReadsFrom.things_eq {draft : LocationDraft}
    (reads : draft.ReadsFrom
      (.object (Json.insertMember "Things" (.array [id.reference]) members))) :
    draft.things = some [.reference id] :=
  Option.some.inj <| reads.things.symm.trans <|
    Json.optional?_insertMember_references id.refers.thing

theorem ThingDraft.ReadsFrom.withLocations {draft : ThingDraft}
    (reads : draft.ReadsFrom (.object members)) (id : EntityId) :
    ReadsFrom { draft with locations := some [.reference id] }
      (.object (Json.insertMember "Locations" (.array [id.reference]) members)) := by
  refine ⟨rfl, ?_, ?_, ?_, ?_, Json.optional?_insertMember_references
    id.refers.location, ?_, ?_⟩
  all_goals refine (Json.optional?_insertMember (by decide)).trans ?_
  exacts [reads.id, reads.name, reads.description, reads.properties, reads.datastreams,
    reads.historicalLocations]

theorem ThingDraft.ReadsFrom.locations_eq {draft : ThingDraft}
    (reads : draft.ReadsFrom
      (.object (Json.insertMember "Locations" (.array [id.reference]) members))) :
    draft.locations = some [.reference id] :=
  Option.some.inj <| reads.locations.symm.trans <|
    Json.optional?_insertMember_references id.refers.location

end

end SensorThings
