import SensorThings.Change.Revision
import SensorThings.Proofs.Change.Footprint
import SensorThings.Proofs.Change.Making

/-!
Plain drafts. Every body has an identifier of its own, a thing's locations nest nothing, and neither
do the sensors and observed properties of its datastreams; observations name no feature or one that
is there. So it is known beforehand which entity each of their links finds or makes.
-/
namespace SensorThings

namespace Link

variable {α : Type}

def IsBodyThat (holds : α → Prop) : Link α → Prop
  | reference _ => False
  | body draft => holds draft

def IsReferenceOr (holds : α → Prop) : Link α → Prop
  | reference _ => True
  | body draft => holds draft

@[simp]
theorem make_true (draft : α) (id : Option EntityId) : make draft true id = .body draft := by
  cases id <;> rfl

end Link

/-! Drafts with identifiers of their own that nest nothing. -/

structure LocationDraft.StandsAlone (draft : LocationDraft) : Prop where
  identified : draft.id.isSome = true
  things : draft.things.getD [] = []
  histories : draft.historicalLocations.getD [] = []

structure SensorDraft.StandsAlone (draft : SensorDraft) : Prop where
  identified : draft.id.isSome = true
  datastreams : draft.datastreams.getD [] = []

structure ObservedPropertyDraft.StandsAlone (draft : ObservedPropertyDraft) : Prop where
  identified : draft.id.isSome = true
  datastreams : draft.datastreams.getD [] = []

/-! Drafts of a thing with what it may nest. -/

structure ObservationDraft.IsPlain (draft : ObservationDraft) : Prop where
  identified : draft.id.isSome = true
  feature : ∀ link, draft.feature = some link → link.isBody = false

structure DatastreamDraft.IsPlain (draft : DatastreamDraft) : Prop where
  identified : draft.id.isSome = true
  sensor : ∃ link, draft.sensor = some link ∧ link.IsReferenceOr SensorDraft.StandsAlone
  observedProperty : ∃ link, draft.observedProperty = some link ∧
    link.IsReferenceOr ObservedPropertyDraft.StandsAlone
  observations : ∀ link ∈ draft.observations.getD [], link.IsBodyThat ObservationDraft.IsPlain

structure ThingDraft.IsPlain (draft : ThingDraft) : Prop where
  identified : draft.id.isSome = true
  locations : ∀ link ∈ draft.locations.getD [], link.IsReferenceOr LocationDraft.StandsAlone
  datastreams : ∀ link ∈ draft.datastreams.getD [], link.IsBodyThat DatastreamDraft.IsPlain
  histories : draft.historicalLocations.getD [] = []

namespace Change

variable {environment : Environment} {before after : Progress} {regions : Region → Prop}

/-! A list that is left out is an empty one. -/

theorem createListedThingsAt_eq (location : EntityId) (links : Option (List (Link ThingDraft))) :
    createListedThingsAt location links = createThingsAt location (links.getD []) := by
  cases links with
  | none => rw [createListedThingsAt, Option.getD_none, createThingsAt]
  | some links => rw [createListedThingsAt, Option.getD_some]

theorem createListedLocations_eq (links : Option (List (Link LocationDraft))) :
    createListedLocations links = createLocations (links.getD []) := by
  cases links with
  | none => rw [createListedLocations, Option.getD_none, createLocations]
  | some links => rw [createListedLocations, Option.getD_some]

theorem attachListedHistory_eq (owner : HistoryOwner)
    (links : Option (List (Link HistoricalLocationDraft))) :
    attachListedHistory owner links = attachHistory owner (links.getD []) := by
  cases links with
  | none => rw [attachListedHistory, Option.getD_none, attachHistory]
  | some links => rw [attachListedHistory, Option.getD_some]

theorem attachListedDatastreams_eq (owner : DatastreamOwner)
    (links : Option (List (Link DatastreamDraft))) :
    attachListedDatastreams owner links = attachDatastreams owner (links.getD []) := by
  cases links with
  | none => rw [attachListedDatastreams, Option.getD_none, attachDatastreams]
  | some links => rw [attachListedDatastreams, Option.getD_some]

theorem attachListedObservations_eq (owner : ObservationOwner)
    (links : Option (List (Link ObservationDraft))) :
    attachListedObservations owner links = attachObservations owner (links.getD []) := by
  cases links with
  | none => rw [attachListedObservations, Option.getD_none, attachObservations]
  | some links => rw [attachListedObservations, Option.getD_some]

/-! Drafts that nest nothing are made by their own parts. -/

theorem insertLocation_eq {draft : LocationDraft} (things : draft.things.getD [] = [])
    (histories : draft.historicalLocations.getD [] = []) :
    insertLocation draft = addLocation draft.id draft.name draft.description draft.encodingType
      draft.location draft.properties := by
  obtain ⟨given, name, description, encodingType, location, properties, _, _⟩ := draft
  unfold insertLocation
  simp only [createListedThingsAt_eq, things, createThingsAt, attachListedHistory_eq, histories,
    attachHistory, pure_bind, bind_pure]

theorem insertSensor_eq {draft : SensorDraft} (alone : draft.StandsAlone) :
    insertSensor draft = addSensor draft.id draft.name draft.description draft.encodingType
      draft.metadata draft.properties := by
  obtain ⟨given, name, description, encodingType, metadata, properties, datastreams⟩ := draft
  unfold insertSensor
  simp only [attachListedDatastreams_eq, alone.datastreams, attachDatastreams, pure_bind, bind_pure]

theorem insertObservedProperty_eq {draft : ObservedPropertyDraft}
    (datastreams : draft.datastreams.getD [] = []) :
    insertObservedProperty draft = addObservedProperty draft.id draft.name draft.definition
      draft.description draft.properties := by
  obtain ⟨given, name, definition, description, properties, _⟩ := draft
  unfold insertObservedProperty
  simp only [attachListedDatastreams_eq, datastreams, attachDatastreams, pure_bind, bind_pure]

theorem insertFeature_eq {draft : FeatureDraft} (observations : draft.observations.getD [] = []) :
    insertFeature draft = addFeature draft.id draft.name draft.description draft.encodingType
      draft.feature draft.properties := by
  obtain ⟨given, name, description, encodingType, feature, properties, _⟩ := draft
  unfold insertFeature
  simp only [attachListedObservations_eq, observations, attachObservations, pure_bind, bind_pure]

/-- The change finds or makes the entity of a kind with this identifier, and no other. -/
structure Supplies (kind : EntityKind) (given : Option EntityId) (change : Change EntityId) :
    Prop where
  within : ∀ ⦃regions : Region → Prop⦄, regions (.rows kind) → change.Within regions
  identity : ∀ ⦃environment before value after⦄,
    change.Returns environment before value after → given = some value
  there : ∀ ⦃environment before value after⦄, change.Returns environment before value after →
    after.tables.contains kind value = true

namespace Supplies

variable {kind other : EntityKind} {given : Option EntityId} {change : Change EntityId}
  {value : EntityId}

theorem contains_eq (supplies : Supplies kind given change)
    (ran : change.Returns environment before value after) (different : other ≠ kind)
    (id : EntityId) : after.tables.contains other id = before.tables.contains other id := by
  have within := supplies.within (Region.rowsOf_rows kind)
  exact (within.frame ran).contains_eq (fun same => different (Region.rows.inj same)) id

end Supplies

theorem supplies_existing (kind : EntityKind) (id : EntityId) :
    Supplies kind (some id) (existing kind id) where
  within _ uses := within_existing uses id
  identity _ _ _ _ ran := congrArg some (returns_existing.1 ran).2.1
  there _ _ _ _ ran := by
    obtain ⟨there, rfl, rfl⟩ := returns_existing.1 ran
    exact there

theorem supplies_addSensor (id : EntityId)
    (name description encodingType metadata : Option String) (properties : Option Json) :
    Supplies .sensor (some id)
      (addSensor (some id) name description encodingType metadata properties) where
  within _ uses := within_addSensor uses id _ _ _ _ _
  identity _ _ _ _ ran := by
    unfold addSensor at ran
    simp only [returns_bind_of_reads returns_claim_some, returns_bind_of_reads returns_require,
      returns_bind, returns_save, returns_pure] at ran
    obtain ⟨_, ⟨rfl, -⟩, _, -, _, -, _, -, _, -, _, _, -, rfl, -⟩ := ran
    rfl
  there _ _ _ _ ran := ran.addSensor.there

theorem supplies_addObservedProperty (id : EntityId)
    (name definition description : Option String) (properties : Option Json) :
    Supplies .observedProperty (some id)
      (addObservedProperty (some id) name definition description properties) where
  within _ uses := within_addObservedProperty uses id _ _ _ _
  identity _ _ _ _ ran := by
    unfold addObservedProperty propertyRepeated? at ran
    simp only [pure_bind, returns_bind_of_reads returns_claim_some,
      returns_bind_of_reads returns_require, returns_bind, returns_save, returns_pure] at ran
    obtain ⟨_, -, _, -, _, -, _, ⟨rfl, -⟩, _, _, -, rfl, -⟩ := ran
    rfl
  there _ _ _ _ ran := ran.addObservedProperty.there

theorem supplies_addLocation (id : EntityId) (name description encodingType : Option String)
    (location : Option SentGeometry) (properties : Option Json) :
    Supplies .location (some id)
      (addLocation (some id) name description encodingType location properties) where
  within _ uses := within_addLocation uses id _ _ _ _ _
  identity _ _ _ _ ran := by
    unfold addLocation locationRepeated? at ran
    simp only [pure_bind, returns_bind_of_reads returns_claim_some,
      returns_bind_of_reads returns_require, returns_bind, returns_save, returns_pure] at ran
    obtain ⟨_, -, _, -, _, -, _, -, _, ⟨rfl, -⟩, _, _, -, rfl, -⟩ := ran
    rfl
  there _ _ _ _ ran := ran.addLocation.there

theorem supplies_addThing (id : EntityId) (name description : Option String)
    (properties : Option Json) :
    Supplies .thing (some id) (addThing (some id) name description properties) where
  within _ uses := within_addThing uses id _ _ _
  identity _ _ _ _ ran := by
    unfold addThing at ran
    simp only [returns_bind_of_reads returns_claim_some, returns_bind_of_reads returns_require,
      returns_bind, returns_save, returns_pure] at ran
    obtain ⟨_, -, _, -, _, ⟨rfl, -⟩, _, _, -, rfl, -⟩ := ran
    rfl
  there _ _ _ _ ran := ran.addThing.there

theorem supplies_link {α : Type} {kind : EntityKind} {idOf : α → Option EntityId}
    {alone : α → Prop} {create : Link α → Change EntityId}
    (reference : ∀ id, create (.reference id) = existing kind id)
    (body : ∀ draft, alone draft → Supplies kind (idOf draft) (create (.body draft)))
    {link : Link α} (fits : link.IsReferenceOr alone) :
    Supplies kind (link.id? idOf) (create link) := by
  cases link with
  | reference id =>
    rw [reference]
    exact supplies_existing kind id
  | body draft => exact body draft fits

theorem supplies_createLocation {link : Link LocationDraft}
    (alone : link.IsReferenceOr LocationDraft.StandsAlone) :
    Supplies .location (link.id? LocationDraft.id) (createLocation link) := by
  refine supplies_link (fun id => by rw [createLocation]) (fun draft alone => ?_) alone
  obtain ⟨id, given⟩ := Option.isSome_iff_exists.1 alone.identified
  rw [createLocation, insertLocation_eq alone.things alone.histories, given]
  exact supplies_addLocation id _ _ _ _ _

theorem supplies_createSensor {link : Link SensorDraft}
    (alone : link.IsReferenceOr SensorDraft.StandsAlone) :
    Supplies .sensor (link.id? SensorDraft.id) (createSensor link) := by
  refine supplies_link (fun id => by rw [createSensor]) (fun draft alone => ?_) alone
  obtain ⟨id, given⟩ := Option.isSome_iff_exists.1 alone.identified
  rw [createSensor, insertSensor_eq alone, given]
  exact supplies_addSensor id _ _ _ _ _

theorem supplies_createObservedProperty {link : Link ObservedPropertyDraft}
    (alone : link.IsReferenceOr ObservedPropertyDraft.StandsAlone) :
    Supplies .observedProperty (link.id? ObservedPropertyDraft.id)
      (createObservedProperty link) := by
  refine supplies_link (fun id => by rw [createObservedProperty]) (fun draft alone => ?_) alone
  obtain ⟨id, given⟩ := Option.isSome_iff_exists.1 alone.identified
  rw [createObservedProperty, insertObservedProperty_eq alone.datastreams, given]
  exact supplies_addObservedProperty id _ _ _ _

theorem within_createLocations (uses : regions (.rows .location))
    (links : List (Link LocationDraft))
    (alone : ∀ link ∈ links, link.IsReferenceOr LocationDraft.StandsAlone) :
    (createLocations links).Within regions := by
  induction links with
  | nil =>
    rw [createLocations]
    exact within_pure []
  | cons link rest ih =>
    rw [List.forall_mem_cons] at alone
    rw [createLocations]
    refine ((supplies_createLocation alone.1).within uses).bind fun id => ?_
    exact (ih alone.2).bind fun ids => within_pure _

end Change

end SensorThings
