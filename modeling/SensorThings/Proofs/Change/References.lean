import SensorThings.Proofs.Change.Drafting
import SensorThings.Proofs.Change.Flattening

/-!
Drafts whose related entities are all references. What is made of them keeps the links that the
draft names, since nothing that is made afterwards touches them.
-/
namespace SensorThings

namespace Link

variable {α : Type}

theorem eq_reference {link : Link α} (plain : link.isBody = false) :
    ∃ id, link = .reference id := by
  cases link with
  | reference id => exact ⟨id, rfl⟩
  | body => contradiction

/-- A related entity is a reference, if it is named. -/
def IsReferred (link : Option (Link α)) : Prop :=
  ∀ given, link = some given → given.isBody = false

/-- Related entities are references, if they are listed. -/
def AreReferred (links : Option (List (Link α))) : Prop :=
  ∀ link ∈ links.getD [], link.isBody = false

theorem IsReferred.eq_reference {link : Option (Link α)} (referred : IsReferred link)
    (given : link.isSome = true) : ∃ id, link = some (.reference id) := by
  obtain ⟨named, rfl⟩ := Option.isSome_iff_exists.1 given
  obtain ⟨id, rfl⟩ := Link.eq_reference (referred named rfl)
  exact ⟨id, rfl⟩

end Link

/-! Drafts that nest references alone. -/

structure ThingDraft.RefersOnly (draft : ThingDraft) : Prop where
  locations : Link.AreReferred draft.locations
  datastreams : Link.AreReferred draft.datastreams
  histories : Link.AreReferred draft.historicalLocations

structure LocationDraft.RefersOnly (draft : LocationDraft) : Prop where
  things : Link.AreReferred draft.things
  histories : Link.AreReferred draft.historicalLocations

structure HistoricalLocationDraft.RefersOnly (draft : HistoricalLocationDraft) : Prop where
  thing : Link.IsReferred draft.thing
  locations : Link.AreReferred draft.locations

structure DatastreamDraft.RefersOnly (draft : DatastreamDraft) : Prop where
  thing : Link.IsReferred draft.thing
  sensor : Link.IsReferred draft.sensor
  observedProperty : Link.IsReferred draft.observedProperty
  observations : Link.AreReferred draft.observations

structure ObservationDraft.RefersOnly (draft : ObservationDraft) : Prop where
  datastream : Link.IsReferred draft.datastream
  feature : Link.IsReferred draft.feature

theorem Progress.find?_save_self (progress : Progress) (kind : EntityKind) {entity : kind.Entity}
    {id : EntityId} (identified : kind.idOf entity = id) :
    (progress.save kind entity).tables.find? kind id = some entity := by
  rw [save_tables]
  exact Tables.find?_put_self _ kind identified

namespace Change

variable {environment : Environment} {before after : Progress} {id : EntityId}

/-! Lists of references. Those that exist already can be neither observed nor recorded anew. -/

@[simp] theorem returns_attachObservations_references {owner : ObservationOwner}
    {links : List (Link ObservationDraft)} (referred : ∀ link ∈ links, link.isBody = false) :
    (attachObservations owner links).Returns environment before () after ↔
      links = [] ∧ before = after := by
  cases links with
  | nil =>
    unfold attachObservations
    simp [returns_pure]
  | cons link rest =>
    obtain ⟨id, rfl⟩ := Link.eq_reference (referred link List.mem_cons_self)
    unfold attachObservations
    simp [returns_throw]

@[simp] theorem returns_attachHistory_references {thing : EntityId}
    {links : List (Link HistoricalLocationDraft)}
    (referred : ∀ link ∈ links, link.isBody = false) :
    (attachHistory (.thing thing) links).Returns environment before () after ↔
      links = [] ∧ before = after := by
  cases links with
  | nil =>
    unfold attachHistory
    simp [returns_pure]
  | cons link rest =>
    obtain ⟨id, rfl⟩ := Link.eq_reference (referred link List.mem_cons_self)
    unfold attachHistory linkHistory
    simp [returns_bind, returns_throw]

theorem Returns.attachHistory_things {location : EntityId}
    {links : List (Link HistoricalLocationDraft)}
    (ran : (attachHistory (.location location) links).Returns environment before () after)
    (referred : ∀ link ∈ links, link.isBody = false) (thing : EntityId) :
    after.tables.find? .thing thing = before.tables.find? .thing thing := by
  induction links generalizing before with
  | nil =>
    unfold attachHistory at ran
    obtain ⟨-, rfl⟩ := returns_pure.1 ran
    rfl
  | cons link rest ih =>
    rw [List.forall_mem_cons] at referred
    obtain ⟨historical, rfl⟩ := Link.eq_reference referred.1
    unfold attachHistory Change.linkHistory at ran
    obtain ⟨_, middle, extended, ran⟩ := returns_bind.1 ran
    obtain ⟨found, -, lists⟩ := Returns.extendRecord extended
    have apart : EntityKind.thing ≠ .location ∧ EntityKind.thing ≠ .historicalLocation := by decide
    rw [ih ran referred.2, lists.updates.others thing apart.1,
      Progress.find?_save_of_ne _ _ _ apart.2]

theorem Returns.attachDatastreams_things {owner : DatastreamOwner}
    {links : List (Link DatastreamDraft)}
    (ran : (attachDatastreams owner links).Returns environment before () after)
    (referred : ∀ link ∈ links, link.isBody = false) (thing : EntityId) :
    after.tables.find? .thing thing = before.tables.find? .thing thing := by
  induction links generalizing before with
  | nil =>
    unfold attachDatastreams at ran
    obtain ⟨-, rfl⟩ := returns_pure.1 ran
    rfl
  | cons link rest ih =>
    rw [List.forall_mem_cons] at referred
    obtain ⟨datastream, rfl⟩ := Link.eq_reference referred.1
    unfold attachDatastreams Change.adoptDatastream at ran
    simp only [returns_bind, returns_fetch .datastream, returns_save] at ran
    obtain ⟨_, _, ⟨_, _, ⟨-, rfl⟩, rfl⟩, ran⟩ := ran
    have apart : EntityKind.thing ≠ .datastream := by decide
    rw [ih ran referred.2, Progress.find?_save_of_ne _ _ _ apart]

theorem Returns.moveThing_locations {places : List EntityId}
    (ran : (Change.moveThing id places).Returns environment before () after) :
    ∃ thing : Thing, after.tables.find? .thing id = some thing ∧ thing.locations = places := by
  unfold Change.moveThing at ran
  simp only [returns_bind, returns_fetch .thing, returns_ite, returns_save, returns_draw,
    returns_now, returns_pure] at ran
  obtain ⟨thing, _, ⟨found, rfl⟩, ⟨there, -, rfl⟩ | ⟨-, _, _, rfl, ran⟩⟩ := ran
  · exact ⟨thing, found, there⟩
  · have identified : thing.id = id := Tables.idOf_of_find? found
    have moved : (before.save .thing { thing with locations := places }).tables.find? .thing id =
        some { thing with locations := places } := by
      rw [Progress.save_tables]
      exact Tables.find?_put_self before.tables .thing identified
    have apart : EntityKind.thing ≠ .location ∧ EntityKind.thing ≠ .historicalLocation := by decide
    refine ⟨{ thing with locations := places }, ?_, rfl⟩
    obtain ⟨-, _, _, ⟨rfl, rfl⟩, _, _, ⟨rfl, rfl⟩, recorded⟩ | ⟨-, -, rfl⟩ := ran
    · rw [recorded.record.updates.others id apart.1, Progress.find?_save_of_ne _ _ _ apart.2,
        Progress.draw_tables, moved]
    · exact moved

theorem Returns.insertDatastream_owners {draft : DatastreamDraft}
    (ran : (insertDatastream none draft).Returns environment before id after)
    (refers : draft.RefersOnly) :
    ∃ stream : Datastream, after.tables.find? .datastream id = some stream ∧
      (draft.thing = some (.reference stream.thing) ∧
        after.tables.contains .thing stream.thing = true) ∧
      (draft.sensor = some (.reference stream.sensor) ∧
        after.tables.contains .sensor stream.sensor = true) ∧
      draft.observedProperty = some (.reference stream.observedProperty) ∧
        after.tables.contains .observedProperty stream.observedProperty = true := by
  have made := (made_insertDatastream none draft ran (.none _)).creation
  obtain ⟨given, name, description, unit, type, properties, thing, sensor, property,
    observations⟩ := draft
  unfold insertDatastream at ran
  simp only [returns_bind_of_reads returns_requireThat, returns_bind_of_reads returns_require,
    returns_bind_of_reads returns_ofExcept, returns_bind, returns_pure] at ran
  obtain ⟨_, thingGiven, _, sensorGiven, _, propertyGiven, _, rfl, _, rfl, _, rfl, _, rfl, type, -,
    id, first, claimed, ran⟩ := ran
  obtain ⟨thing, rfl⟩ := refers.thing.eq_reference thingGiven
  obtain ⟨sensor, rfl⟩ := refers.sensor.eq_reference sensorGiven
  obtain ⟨property, rfl⟩ := refers.observedProperty.eq_reference propertyGiven
  unfold DatastreamOwner.thing? DatastreamOwner.sensor? DatastreamOwner.observedProperty?
    ownerThing createThing ownerSensor createSensor ownerObservedProperty createObservedProperty
    at ran
  simp only [returns_existing, attachListedObservations_eq] at ran
  obtain ⟨_, _, ⟨thingThere, rfl, rfl⟩, _, _, ⟨sensorThere, rfl, rfl⟩, _, _,
    ⟨propertyThere, rfl, rfl⟩, _, _, added, _, _, observed, rfl, rfl⟩ := ran
  obtain ⟨-, rfl⟩ := (returns_attachObservations_references refers.observations).1 observed
  unfold Change.addDatastream at added
  simp only [returns_bind, returns_save] at added
  obtain ⟨unit, _, -, format, _, -, rfl⟩ := added
  rw [claimed.claim_tables] at thingThere sensorThere propertyThere
  exact ⟨_, Progress.find?_save_self _ .datastream rfl, ⟨rfl, made.contains thingThere⟩,
    ⟨rfl, made.contains sensorThere⟩, rfl, made.contains propertyThere⟩

theorem Returns.insertHistory_thing {draft : HistoricalLocationDraft}
    (ran : (insertHistory none draft).Returns environment before id after)
    (refers : draft.RefersOnly) :
    ∃ historical : HistoricalLocation,
      after.tables.find? .historicalLocation id = some historical ∧
        draft.thing = some (.reference historical.thing) ∧
        after.tables.contains .thing historical.thing = true := by
  have made := (made_insertHistory none draft ran (.none _)).creation
  obtain ⟨given, time, thing, locations⟩ := draft
  unfold insertHistory at ran
  simp only [returns_bind_of_reads returns_requireThat, returns_bind_of_reads returns_require,
    returns_bind, returns_pure] at ran
  obtain ⟨_, rfl, _, thingGiven, _, -, id, first, claimed, ran⟩ := ran
  obtain ⟨thing, rfl⟩ := refers.thing.eq_reference thingGiven
  unfold HistoryOwner.thing? ownerThing createThing at ran
  simp only [returns_existing] at ran
  obtain ⟨_, _, ⟨thingThere, rfl, rfl⟩, places, last, -, _, _, recorded, rfl, rfl⟩ := ran
  rw [claimed.claim_tables] at thingThere
  have kept := recorded.record.updates.others id (by decide : EntityKind.historicalLocation ≠ _)
  exact ⟨_, kept.trans (Progress.find?_save_self _ .historicalLocation rfl), rfl,
    made.contains thingThere⟩

theorem Returns.addObservation_row {phenomenonTime : Option TimeSpan}
    {resultTime : Option Instant} {validTime : Option Interval} {parameters : Option Json}
    {result : ObservedValue} {stream : Datastream} {feature : EntityId}
    (ran : (Change.addObservation id phenomenonTime resultTime validTime parameters result stream
      feature).Returns environment before () after) :
    ∃ observation : Observation, after.tables.find? .observation id = some observation ∧
      observation.datastream = stream.id ∧ observation.feature = feature := by
  unfold Change.addObservation Change.observationAdded at ran
  simp only [returns_bind, returns_now, returns_fetch .datastream, returns_fetch .dataset,
    returns_save] at ran
  obtain ⟨_, _, ⟨rfl, rfl⟩, dataset, _, -, _, _, rfl, _, _, ⟨-, rfl⟩, _, _, rfl, _, _, ⟨-, rfl⟩,
    rfl⟩ := ran
  have apart : EntityKind.observation ≠ .datastream ∧ EntityKind.observation ≠ .dataset := by
    decide
  simp only [Progress.save_tables]
  exact ⟨_, (Tables.find?_put_of_ne _ _ _ apart.2).trans ((Tables.find?_put_of_ne _ _ _
    apart.1).trans (Tables.find?_put_self _ .observation rfl)), rfl, rfl⟩

theorem Returns.insertObservation_owners {draft : ObservationDraft}
    (ran : (insertObservation none draft).Returns environment before id after)
    (refers : draft.RefersOnly) :
    ∃ observation : Observation, after.tables.find? .observation id = some observation ∧
      (draft.datastream = some (.reference observation.datastream) ∧
        after.tables.contains .datastream observation.datastream = true) ∧
      ∀ feature, draft.feature = some (.reference feature) →
        observation.feature = feature ∧
          after.tables.contains .featureOfInterest feature = true := by
  have made := (made_insertObservation none draft ran (.none _)).creation
  obtain ⟨given, phenomenonTime, resultTime, validTime, parameters, result, datastream,
    feature⟩ := draft
  unfold insertObservation at ran
  simp only [returns_bind_of_reads returns_requireThat, returns_bind_of_reads returns_require,
    returns_bind, returns_pure] at ran
  obtain ⟨_, datastreamGiven, _, rfl, id, first, claimed, ran⟩ := ran
  obtain ⟨datastream, rfl⟩ := refers.datastream.eq_reference datastreamGiven
  unfold ObservationOwner.datastream? ObservationOwner.feature? ownerDatastream createDatastream
    at ran
  simp only [returns_existing, returns_fetch .datastream, returns_ofExcept] at ran
  obtain ⟨_, _, ⟨datastreamThere, rfl, rfl⟩, stream, _, ⟨found, rfl⟩, value, _, ⟨-, rfl⟩, about,
    last, featured, _, _, added, rfl, rfl⟩ := ran
  rw [claimed.claim_tables] at datastreamThere
  obtain rfl : stream.id = datastream := Tables.idOf_of_find? found
  obtain ⟨observation, row, streamed, focused⟩ := Returns.addObservation_row added
  refine ⟨observation, row, ⟨streamed ▸ rfl, streamed ▸ made.contains datastreamThere⟩, ?_⟩
  rintro feature ⟨⟩
  unfold ownerFeature createFeature at featured
  obtain ⟨featureThere, rfl, rfl⟩ := returns_existing.1 featured
  rw [claimed.claim_tables] at featureThere
  exact ⟨focused, made.contains featureThere⟩

theorem Returns.insertLocation_moves {draft : LocationDraft} {thing : EntityId}
    (ran : (insertLocation draft).Returns environment before id after) (refers : draft.RefersOnly)
    (listed : draft.things = some [.reference thing]) :
    after.tables.contains .location id = true ∧
      ∃ row : Thing, after.tables.find? .thing thing = some row ∧ row.locations = [id] := by
  have there := (made_insertLocation draft ran).there
  obtain ⟨given, name, description, type, geometry, properties, things, histories⟩ := draft
  obtain rfl : things = _ := listed
  unfold insertLocation createListedThingsAt at ran
  simp only [createThingsAt, createThing, returns_bind, returns_existing, returns_pure,
    attachListedHistory_eq] at ran
  obtain ⟨_, _, -, _, _, ⟨_, _, ⟨-, rfl, rfl⟩, _, _, moved, -, rfl⟩, _, _, recorded, rfl, rfl⟩ :=
    ran
  obtain ⟨row, found, placed⟩ := Returns.moveThing_locations moved
  exact ⟨there, row, (recorded.attachHistory_things refers.histories thing).trans found, placed⟩

@[simp] theorem settleThing_singleton (id location : EntityId) :
    settleThing id [location] = moveThing id [location] := rfl

theorem Returns.insertThing_settles {draft : ThingDraft} {location : EntityId}
    (ran : (insertThing draft).Returns environment before id after) (refers : draft.RefersOnly)
    (listed : draft.locations = some [.reference location]) :
    after.tables.contains .location location = true ∧
      ∃ row : Thing, after.tables.find? .thing id = some row ∧ row.locations = [location] := by
  have made := (made_insertThing draft ran).creation
  obtain ⟨given, name, description, properties, locations, datastreams, histories⟩ := draft
  obtain rfl : locations = _ := listed
  unfold insertThing createListedLocations at ran
  simp only [returns_bind, returns_pure, attachListedDatastreams_eq, attachListedHistory_eq] at ran
  obtain ⟨_, first, added, places, _, placed, _, _, settled, _, _, streams, _, _, recorded, rfl,
    rfl⟩ := ran
  have references : [location].map Link.reference = [(.reference location : Link LocationDraft)] :=
    rfl
  rw [← references, returns_createLocations_references] at placed
  obtain ⟨there, rfl, rfl⟩ := placed
  unfold Change.addThing at added
  simp only [returns_bind_of_reads returns_require, returns_bind, returns_save, returns_pure]
    at added
  obtain ⟨_, -, _, -, _, _, claimed, _, _, rfl, rfl, rfl⟩ := added
  have located : before.tables.contains .location location = true := by
    have saved := there location List.mem_cons_self
    rw [Progress.save_tables, Tables.contains_put_iff, claimed.claim_tables] at saved
    exact saved.resolve_left fun here => absurd here.1 (by decide)
  rw [settleThing_singleton] at settled
  obtain ⟨row, found, atPlace⟩ := Returns.moveThing_locations settled
  obtain ⟨-, rfl⟩ := (returns_attachHistory_references refers.histories).1 recorded
  exact ⟨made.contains located, row,
    (Returns.attachDatastreams_things streams refers.datastreams _).trans found, atPlace⟩

end Change

end SensorThings
