import SensorThings.Proofs.Change.Abandon
import SensorThings.Proofs.Change.Bounds
import SensorThings.Proofs.Change.Plain

/-!
Nested drafts and flat ones. A thing that is made in one call, together with its locations and its
datastreams with their observations, leaves the tables as if each entity had been made by a call of
its own, depth first.
-/
namespace SensorThings

/-- A call that creates an entity. -/
inductive CreateCall where
  | thing (link : Link ThingDraft)
  | location (link : Link LocationDraft)
  | sensor (link : Link SensorDraft)
  | observedProperty (link : Link ObservedPropertyDraft)
  | datastream (link : Link DatastreamDraft)
  | observation (link : Link ObservationDraft)

namespace CreateCall

def run : CreateCall → Change EntityId
  | thing link => Change.createThing link
  | location link => Change.createLocation link
  | sensor link => Change.createSensor link
  | observedProperty link => Change.createObservedProperty link
  | datastream link => Change.createDatastream link
  | observation link => Change.createObservation link

def runAll (calls : List CreateCall) : Change Unit :=
  calls.forM fun call => do
    let _ ← call.run

end CreateCall

namespace Link

variable {α : Type}

def body? : Link α → Option α
  | reference _ => none
  | body draft => some draft

def bodies (links : List (Link α)) : List α :=
  links.filterMap body?

@[simp] theorem bodies_nil : bodies ([] : List (Link α)) = [] := rfl

@[simp] theorem bodies_cons (draft : α) (links : List (Link α)) :
    bodies (.body draft :: links) = draft :: bodies links := rfl

end Link

/-- What a datastream is made from, apart from what it is related to. -/
structure DatastreamDraft.Describes (draft : DatastreamDraft) (name description : String)
    (unit : UnitDraft) (type : ObservationType) : Prop where
  name : draft.name = some name
  description : draft.description = some description
  unit : draft.unit = some unit
  type : ∃ uri, draft.observationType = some uri ∧ ObservationType.ofUri uri = .ok type

namespace ObservationDraft

def ofDatastream (datastream : Option EntityId) (draft : ObservationDraft) : ObservationDraft :=
  { draft with datastream := datastream.map .reference }

@[simp] theorem link_ofDatastream (datastream : EntityId) (draft : ObservationDraft) :
    (draft.ofDatastream (some datastream)).link = .body (draft.ofDatastream (some datastream)) := by
  have fields : (draft.ofDatastream (some datastream)).hasFields = true := by
    simp [hasFields, ofDatastream]
  rw [link, fields, Link.make_true]

end ObservationDraft

namespace DatastreamDraft

/-- The draft of a thing's datastream, referring to all that it is related to. -/
def flat (thing : Option EntityId) (draft : DatastreamDraft) : DatastreamDraft :=
  { draft with
    thing := thing.map .reference
    sensor := (draft.sensor.bind (Link.id? SensorDraft.id)).map .reference
    observedProperty :=
      (draft.observedProperty.bind (Link.id? ObservedPropertyDraft.id)).map .reference
    observations := none }

/-- The calls that make a thing's datastream and all that it nests. -/
def flattened (thing : Option EntityId) (draft : DatastreamDraft) : List CreateCall :=
  draft.sensor.toList.map .sensor ++ draft.observedProperty.toList.map .observedProperty ++
    .datastream (draft.flat thing).link ::
    (Link.bodies (draft.observations.getD [])).map fun observation =>
      .observation (observation.ofDatastream draft.id).link

@[simp] theorem link_flat (thing : EntityId) (draft : DatastreamDraft) :
    (draft.flat (some thing)).link = .body (draft.flat (some thing)) := by
  have fields : (draft.flat (some thing)).hasFields = true := by simp [hasFields, flat]
  rw [link, fields, Link.make_true]

end DatastreamDraft

namespace ThingDraft

def flat (draft : ThingDraft) : ThingDraft :=
  { draft with
    locations :=
      some (((draft.locations.getD []).filterMap (Link.id? LocationDraft.id)).map .reference)
    datastreams := none
    historicalLocations := none }

/-- The calls that make a thing and all that it nests, depth first. -/
def flattened (draft : ThingDraft) : List CreateCall :=
  (draft.locations.getD []).map .location ++
    .thing draft.flat.link ::
    (Link.bodies (draft.datastreams.getD [])).flatMap (DatastreamDraft.flattened draft.id)

@[simp] theorem link_flat (draft : ThingDraft) : draft.flat.link = .body draft.flat := by
  have fields : draft.flat.hasFields = true := by simp [hasFields, flat]
  rw [link, fields, Link.make_true]

end ThingDraft

namespace Change

variable {environment : Environment} {before after : Progress} {id : EntityId}

@[simp] theorem returns_runAll_nil :
    (CreateCall.runAll []).Returns environment before () after ↔ before = after :=
  returns_forM_nil

@[simp] theorem returns_runAll_cons {call : CreateCall} {calls : List CreateCall} :
    (CreateCall.runAll (call :: calls)).Returns environment before () after ↔
      ∃ id middle, call.run.Returns environment before id middle ∧
        (CreateCall.runAll calls).Returns environment middle () after := by
  unfold CreateCall.runAll
  rw [returns_forM_cons]
  simp only [returns_bind, returns_pure]
  constructor
  · rintro ⟨_, ⟨id, middle, ran, -, rfl⟩, rest⟩
    exact ⟨id, middle, ran, rest⟩
  · rintro ⟨id, middle, ran, rest⟩
    exact ⟨middle, ⟨id, middle, ran, trivial, rfl⟩, rest⟩

@[simp] theorem returns_runAll_append {calls more : List CreateCall} :
    (CreateCall.runAll (calls ++ more)).Returns environment before () after ↔
      ∃ middle, (CreateCall.runAll calls).Returns environment before () middle ∧
        (CreateCall.runAll more).Returns environment middle () after := by
  induction calls generalizing before with
  | nil => simp [returns_runAll_nil]
  | cons call calls ih =>
    simp only [List.cons_append, returns_runAll_cons, ih]
    constructor
    · rintro ⟨id, first, ran, middle, rest, others⟩
      exact ⟨middle, ⟨id, first, ran, rest⟩, others⟩
    · rintro ⟨middle, ⟨id, first, ran, rest⟩, others⟩
      exact ⟨id, first, ran, middle, rest, others⟩

theorem returns_insertObservation_iff {datastream : EntityId}
    (there : before.tables.contains .datastream datastream = true) (draft : ObservationDraft) :
    (insertObservation (some (.datastream datastream)) draft).Returns environment before id after ↔
      (insertObservation none (draft.ofDatastream (some datastream))).Returns environment before id
        after := by
  obtain ⟨given, phenomenonTime, resultTime, validTime, parameters, result, link, feature⟩ := draft
  unfold ObservationDraft.ofDatastream insertObservation
  refine returns_bind_congr fun _ first checked => ?_
  refine returns_bind_congr fun raw second required => ?_
  refine returns_bind_congr fun id third claimed => ?_
  have there : third.tables.contains .datastream datastream = true := by
    obtain ⟨-, rfl⟩ := returns_requireThat.1 checked
    obtain ⟨-, rfl⟩ := returns_require.1 required
    rwa [claimed.claim_tables]
  unfold ObservationOwner.datastream? ownerDatastream Option.map createDatastream
  rw [pure_bind, returns_existing_bind, and_iff_right there]
  rfl

def AddsDatastream (environment : Environment) (draft : DatastreamDraft) (before : Progress)
    (id thing sensor observedProperty : EntityId) (after : Progress) : Prop :=
  ∃ name description unit type, draft.Describes name description unit type ∧
    (addDatastream id name description unit type draft.properties thing sensor
      observedProperty).Returns environment before () after

theorem AddsDatastream.there {draft : DatastreamDraft} {thing sensor observedProperty : EntityId}
    (adds : AddsDatastream environment draft before id thing sensor observedProperty after) :
    after.tables.contains .datastream id = true := by
  obtain ⟨name, description, unit, type, -, ran⟩ := adds
  unfold addDatastream at ran
  simp only [returns_bind, returns_save] at ran
  obtain ⟨_, _, -, _, _, -, rfl⟩ := ran
  exact Progress.contains_save_self _ _ _

theorem returns_insertDatastream_iff {owner : Option DatastreamOwner} {draft : DatastreamDraft}
    {value : EntityId} (identified : draft.id = some id)
    (thingRelated : ((DatastreamOwner.thing? owner).isSome || draft.thing.isSome) = true)
    (sensorRelated : ((DatastreamOwner.sensor? owner).isSome || draft.sensor.isSome) = true)
    (propertyRelated : ((DatastreamOwner.observedProperty? owner).isSome ||
      draft.observedProperty.isSome) = true) :
    (insertDatastream owner draft).Returns environment before value after ↔
      before.tables.contains .datastream id = false ∧
        ∃ name description unit type, draft.Describes name description unit type ∧ Returns (do
            let thing ← ownerThing .datastream (DatastreamOwner.thing? owner) draft.thing
            let sensor ← ownerSensor (DatastreamOwner.sensor? owner) draft.sensor
            let observedProperty ← ownerObservedProperty
              (DatastreamOwner.observedProperty? owner) draft.observedProperty
            addDatastream id name description unit type draft.properties thing sensor
              observedProperty
            attachListedObservations (.datastream id) draft.observations
            return id)
          environment before value after := by
  obtain ⟨given, name, description, unit, uri, properties, thing, sensor, property, observations⟩ :=
    draft
  subst identified
  unfold insertDatastream
  simp only [returns_bind_of_reads returns_requireThat, returns_bind_of_reads returns_require,
    returns_bind_of_reads returns_ofExcept, returns_bind_of_reads returns_claim_some]
  constructor
  · rintro ⟨_, -, _, -, _, -, name, rfl, description, rfl, unit, rfl, uri, rfl, type, typed, _,
      ⟨rfl, free⟩, made⟩
    exact ⟨free, name, description, unit, type, ⟨rfl, rfl, rfl, uri, rfl, typed⟩, made⟩
  · rintro ⟨free, name, description, unit, type, ⟨rfl, rfl, rfl, uri, rfl, typed⟩, made⟩
    exact ⟨(), thingRelated, (), sensorRelated, (), propertyRelated, name, rfl, description, rfl,
      unit, rfl, uri, rfl, type, typed, id, ⟨rfl, free⟩, made⟩

/-! A datastream of a thing, and its observations. -/

theorem returns_attachObservations_iff {datastream : EntityId}
    (links : List (Link ObservationDraft))
    (bodies : ∀ link ∈ links, link.IsBodyThat ObservationDraft.IsPlain)
    (there : before.tables.contains .datastream datastream = true) :
    (attachObservations (.datastream datastream) links).Returns environment before () after ↔
      (CreateCall.runAll ((Link.bodies links).map fun observation =>
        .observation (observation.ofDatastream (some datastream)).link)).Returns environment before
          () after := by
  induction links generalizing before with
  | nil =>
    unfold attachObservations
    simp [returns_pure, returns_runAll_nil]
  | cons link rest ih =>
    rw [List.forall_mem_cons] at bodies
    cases link with
    | reference id => exact bodies.1.elim
    | body draft =>
      unfold attachObservations
      rw [returns_bind, Link.bodies_cons, List.map_cons, returns_runAll_cons]
      refine exists_congr fun id => exists_congr fun middle => ?_
      rw [CreateCall.run, ObservationDraft.link_ofDatastream, createObservation,
        ← returns_insertObservation_iff there]
      refine and_congr_right fun ran => ih bodies.2 ?_
      have made := made_insertObservation (some (.datastream datastream)) draft ran
        (by rintro key ⟨⟩; exact there)
      exact made.creation.contains there

theorem returns_insertDatastream_flat {draft : DatastreamDraft}
    {thing sensor observedProperty value : EntityId} (identified : draft.id = some id)
    (sensorIs : draft.sensor.bind (Link.id? SensorDraft.id) = some sensor)
    (propertyIs : draft.observedProperty.bind (Link.id? ObservedPropertyDraft.id) =
      some observedProperty)
    (thingThere : before.tables.contains .thing thing = true)
    (sensorThere : before.tables.contains .sensor sensor = true)
    (propertyThere : before.tables.contains .observedProperty observedProperty = true) :
    (insertDatastream none (draft.flat (some thing))).Returns environment before value after ↔
      id = value ∧ before.tables.contains .datastream id = false ∧
        AddsDatastream environment draft before id thing sensor observedProperty after := by
  have given : (draft.flat (some thing)).id = some id := identified
  have thingFlat : (draft.flat (some thing)).thing = some (.reference thing) := rfl
  have sensorFlat : (draft.flat (some thing)).sensor = some (.reference sensor) :=
    congrArg (Option.map Link.reference) sensorIs
  have propertyFlat : (draft.flat (some thing)).observedProperty =
      some (.reference observedProperty) :=
    congrArg (Option.map Link.reference) propertyIs
  have nothing : (draft.flat (some thing)).observations = none := rfl
  rw [returns_insertDatastream_iff given rfl (by rw [sensorFlat]; rfl) (by rw [propertyFlat]; rfl),
    thingFlat, sensorFlat, propertyFlat, nothing]
  unfold DatastreamOwner.thing? DatastreamOwner.sensor? DatastreamOwner.observedProperty?
    ownerThing ownerSensor ownerObservedProperty createThing createSensor createObservedProperty
    attachListedObservations
  constructor
  · rintro ⟨free, name, description, unit, type, ⟨named, described, measured, typed⟩, made⟩
    rw [returns_existing_bind, returns_existing_bind, returns_existing_bind] at made
    simp only [pure_bind, returns_bind, returns_pure] at made
    obtain ⟨-, -, -, _, _, added, rfl, rfl⟩ := made
    exact ⟨rfl, free, name, description, unit, type, ⟨named, described, measured, typed⟩, added⟩
  · rintro ⟨rfl, free, name, description, unit, type, ⟨named, described, measured, typed⟩, added⟩
    refine ⟨free, name, description, unit, type, ⟨named, described, measured, typed⟩, ?_⟩
    rw [returns_existing_bind, returns_existing_bind, returns_existing_bind]
    simp only [pure_bind, returns_bind, returns_pure]
    exact ⟨thingThere, sensorThere, propertyThere, (), after, added, trivial, rfl⟩

theorem exists_insertDatastream_owned {draft : DatastreamDraft} {thing : EntityId}
    {sensor : Link SensorDraft} {observedProperty : Link ObservedPropertyDraft}
    (identified : draft.id = some id) (sensorGiven : draft.sensor = some sensor)
    (propertyGiven : draft.observedProperty = some observedProperty) :
    (∃ value, (insertDatastream (some (.thing thing)) draft).Returns environment before value
      after) ↔
      ∃ sensorId first, (createSensor sensor).Returns environment before sensorId first ∧
        ∃ propertyId second,
          (createObservedProperty observedProperty).Returns environment first propertyId second ∧
          ∃ third, (before.tables.contains .datastream id = false ∧
              AddsDatastream environment draft second id thing sensorId propertyId third) ∧
            (attachListedObservations (.datastream id) draft.observations).Returns environment third
              () after := by
  have related : ((DatastreamOwner.sensor? (some (.thing thing))).isSome ||
      draft.sensor.isSome) = true := by rw [sensorGiven]; rfl
  have relatedToo : ((DatastreamOwner.observedProperty? (some (.thing thing))).isSome ||
      draft.observedProperty.isSome) = true := by rw [propertyGiven]; rfl
  simp only [returns_insertDatastream_iff identified rfl related relatedToo]
  rw [sensorGiven, propertyGiven]
  unfold DatastreamOwner.thing? DatastreamOwner.sensor? DatastreamOwner.observedProperty?
    ownerThing ownerSensor ownerObservedProperty
  simp only [pure_bind, returns_bind, returns_pure]
  constructor
  · rintro ⟨_, free, name, description, unit, type, describes, sensorId, first, sensorRan,
      propertyId, second, propertyRan, _, third, added, _, _, attached, -, rfl⟩
    exact ⟨sensorId, first, sensorRan, propertyId, second, propertyRan, third,
      ⟨free, name, description, unit, type, describes, added⟩, attached⟩
  · rintro ⟨sensorId, first, sensorRan, propertyId, second, propertyRan, third,
      ⟨free, name, description, unit, type, describes, added⟩, attached⟩
    exact ⟨id, free, name, description, unit, type, describes, sensorId, first, sensorRan,
      propertyId, second, propertyRan, (), third, added, (), after, attached, rfl, rfl⟩

theorem exists_insertDatastream_iff {thing : EntityId} {draft : DatastreamDraft}
    (plain : draft.IsPlain) (there : before.tables.contains .thing thing = true) :
    (∃ value, (insertDatastream (some (.thing thing)) draft).Returns environment before value
      after) ↔
      (CreateCall.runAll (draft.flattened (some thing))).Returns environment before () after := by
  obtain ⟨id, given⟩ := Option.isSome_iff_exists.1 plain.identified
  obtain ⟨sensor, sensorGiven, sensorAlone⟩ := plain.sensor
  obtain ⟨property, propertyGiven, propertyAlone⟩ := plain.observedProperty
  have sensors := supplies_createSensor sensorAlone
  have properties := supplies_createObservedProperty propertyAlone
  have calls : draft.flattened (some thing) = .sensor sensor :: .observedProperty property ::
      .datastream (draft.flat (some thing)).link ::
        (Link.bodies (draft.observations.getD [])).map fun observation =>
          .observation (observation.ofDatastream (some id)).link := by
    rw [DatastreamDraft.flattened, sensorGiven, propertyGiven, given]
    rfl
  rw [exists_insertDatastream_owned given sensorGiven propertyGiven, calls]
  simp only [returns_runAll_cons, CreateCall.run, DatastreamDraft.link_flat, createDatastream]
  refine exists_congr fun sensorId => exists_congr fun first => and_congr_right fun sensorRan => ?_
  refine exists_congr fun propertyId => exists_congr fun second => ?_
  refine and_congr_right fun propertyRan => ?_
  -- Neither of the two touches what the datastream depends on.
  have thingThere : second.tables.contains .thing thing = true := by
    rw [properties.contains_eq propertyRan (by decide), sensors.contains_eq sensorRan (by decide)]
    exact there
  have sensorThere : second.tables.contains .sensor sensorId = true := by
    rw [properties.contains_eq propertyRan (by decide)]
    exact sensors.there sensorRan
  have free : second.tables.contains .datastream id = before.tables.contains .datastream id := by
    rw [properties.contains_eq propertyRan (by decide), sensors.contains_eq sensorRan (by decide)]
  have sensorIs : draft.sensor.bind (Link.id? SensorDraft.id) = some sensorId := by
    rw [sensorGiven]
    exact sensors.identity sensorRan
  have propertyIs : draft.observedProperty.bind (Link.id? ObservedPropertyDraft.id) =
      some propertyId := by
    rw [propertyGiven]
    exact properties.identity propertyRan
  simp only [returns_insertDatastream_flat given sensorIs propertyIs thingThere sensorThere
    (properties.there propertyRan), free, and_assoc, exists_and_left, exists_eq_left']
  refine and_congr_right fun _ => exists_congr fun third => and_congr_right fun added => ?_
  rw [attachListedObservations_eq]
  exact returns_attachObservations_iff _ plain.observations added.there

theorem returns_attachDatastreams_iff {thing : EntityId} (links : List (Link DatastreamDraft))
    (bodies : ∀ link ∈ links, link.IsBodyThat DatastreamDraft.IsPlain)
    (there : before.tables.contains .thing thing = true) :
    (attachDatastreams (.thing thing) links).Returns environment before () after ↔
      (CreateCall.runAll ((Link.bodies links).flatMap
        (DatastreamDraft.flattened (some thing)))).Returns environment before () after := by
  induction links generalizing before with
  | nil =>
    unfold attachDatastreams
    simp [returns_pure, returns_runAll_nil]
  | cons link rest ih =>
    rw [List.forall_mem_cons] at bodies
    cases link with
    | reference id => exact bodies.1.elim
    | body draft =>
      unfold attachDatastreams
      rw [returns_bind, exists_comm, Link.bodies_cons, List.flatMap_cons, returns_runAll_append]
      simp only [exists_and_right]
      refine exists_congr fun middle => ?_
      rw [← exists_insertDatastream_iff bodies.1 there]
      apply and_congr_right
      rintro ⟨id, ran⟩
      apply ih bodies.2
      have made := made_insertDatastream (some (.thing thing)) draft ran
        (by rintro key ⟨⟩; exact there)
      exact made.creation.contains there

/-! A thing and its locations. -/

theorem returns_createLocations_iff {ids : List EntityId} (links : List (Link LocationDraft))
    (alone : ∀ link ∈ links, link.IsReferenceOr LocationDraft.StandsAlone) :
    (createLocations links).Returns environment before ids after ↔
      links.filterMap (Link.id? LocationDraft.id) = ids ∧
        (CreateCall.runAll (links.map .location)).Returns environment before () after := by
  induction links generalizing before after ids with
  | nil =>
    unfold createLocations
    rw [returns_pure, List.map_nil, returns_runAll_nil, List.filterMap_nil]
  | cons link rest ih =>
    rw [List.forall_mem_cons] at alone
    unfold createLocations
    simp only [returns_bind, returns_pure, ih alone.2]
    rw [List.map_cons, returns_runAll_cons, CreateCall.run]
    have supplies := supplies_createLocation alone.1
    constructor
    · rintro ⟨id, middle, ran, _, _, ⟨rfl, others⟩, rfl, rfl⟩
      refine ⟨?_, id, middle, ran, others⟩
      rw [List.filterMap_cons_some (supplies.identity ran)]
    · rintro ⟨rfl, id, middle, ran, others⟩
      refine ⟨id, middle, ran, _, _, ⟨rfl, others⟩, ?_, rfl⟩
      rw [List.filterMap_cons_some (supplies.identity ran)]

@[simp] theorem returns_createLocations_references {ids places : List EntityId} :
    (createLocations (ids.map .reference)).Returns environment before places after ↔
      (∀ id ∈ ids, before.tables.contains .location id = true) ∧ ids = places ∧
        before = after := by
  induction ids generalizing after places with
  | nil =>
    rw [List.map_nil, createLocations, returns_pure]
    simp
  | cons id rest ih =>
    rw [List.map_cons, createLocations, createLocation, returns_existing_bind]
    simp only [returns_bind, returns_pure, ih, List.forall_mem_cons]
    constructor
    · rintro ⟨there, _, _, ⟨others, rfl, rfl⟩, rfl, rfl⟩
      exact ⟨⟨there, others⟩, rfl, rfl⟩
    · rintro ⟨⟨there, others⟩, rfl, rfl⟩
      exact ⟨there, rest, before, ⟨others, rfl, rfl⟩, rfl, rfl⟩

theorem returns_insertThing_flat {draft : ThingDraft} {value : EntityId} {places : List EntityId}
    (placesAre : (draft.locations.getD []).filterMap (Link.id? LocationDraft.id) = places)
    (there : ∀ place ∈ places, before.tables.contains .location place = true) :
    (insertThing draft.flat).Returns environment before value after ↔
      ∃ middle,
        (addThing draft.id draft.name draft.description draft.properties).Returns environment
          before value middle ∧ (settleThing value places).Returns environment middle () after := by
  obtain ⟨given, name, description, properties, locations, datastreams, histories⟩ := draft
  unfold ThingDraft.flat
  rw [placesAre, insertThing]
  unfold createListedLocations attachListedDatastreams attachListedHistory
  simp only [pure_bind, returns_bind, returns_pure]
  constructor
  · rintro ⟨_, middle, added, _, _, listed, _, _, settled, rfl, rfl⟩
    obtain ⟨-, rfl, rfl⟩ := returns_createLocations_references.1 listed
    exact ⟨middle, added, settled⟩
  · rintro ⟨middle, added, settled⟩
    have later (place) (member : place ∈ places) := added.addThing.creation.contains
      (there place member)
    exact ⟨value, middle, added, places, middle,
      returns_createLocations_references.2 ⟨later, rfl, rfl⟩, (), after, settled, rfl, rfl⟩

/-- What is left to do for a thing that was added, once its locations are there. -/
def finishThing (draft : ThingDraft) (places : List EntityId) (id : EntityId) :
    Change EntityId := do
  settleThing id places
  attachListedDatastreams (.thing id) draft.datastreams
  return id

theorem insertThing_eq {draft : ThingDraft} (plain : draft.IsPlain) :
    insertThing draft = (do
      let id ← addThing draft.id draft.name draft.description draft.properties
      let places ← createListedLocations draft.locations
      finishThing draft places id) := by
  obtain ⟨given, name, description, properties, locations, datastreams, histories⟩ := draft
  unfold insertThing finishThing
  simp only [attachListedHistory_eq, plain.histories, attachHistory, pure_bind]

theorem exists_finishThing_iff {draft : ThingDraft} (plain : draft.IsPlain)
    {places : List EntityId} (identified : draft.id = some id)
    (thingThere : before.tables.contains .thing id = true)
    (placesThere : ∀ place ∈ places, before.tables.contains .location place = true) :
    (∃ value, (finishThing draft places id).Returns environment before value after) ↔
      ∃ middle, (settleThing id places).Returns environment before () middle ∧
        (CreateCall.runAll ((Link.bodies (draft.datastreams.getD [])).flatMap
          (DatastreamDraft.flattened draft.id))).Returns environment middle () after := by
  unfold finishThing
  rw [attachListedDatastreams_eq, identified]
  simp only [returns_bind, returns_pure]
  constructor
  · rintro ⟨_, _, middle, settled, _, _, attached, rfl, rfl⟩
    have there := (settled.settleThing placesThere).contains thingThere
    exact ⟨middle, settled, (returns_attachDatastreams_iff _ plain.datastreams there).1 attached⟩
  · rintro ⟨middle, settled, made⟩
    have there := (settled.settleThing placesThere).contains thingThere
    exact ⟨id, (), middle, settled, (), after,
      (returns_attachDatastreams_iff _ plain.datastreams there).2 made, rfl, rfl⟩

theorem exists_flattened_iff {draft : ThingDraft} (plain : draft.IsPlain) :
    (∃ value, Returns (do
        let places ← createListedLocations draft.locations
        let id ← addThing draft.id draft.name draft.description draft.properties
        finishThing draft places id) environment before value after) ↔
      (CreateCall.runAll draft.flattened).Returns environment before () after := by
  obtain ⟨given, identified⟩ := Option.isSome_iff_exists.1 plain.identified
  have adds := supplies_addThing given draft.name draft.description draft.properties
  rw [← identified] at adds
  unfold ThingDraft.flattened
  rw [returns_runAll_append, createListedLocations_eq]
  simp only [returns_bind, returns_createLocations_iff _ plain.locations, returns_runAll_cons,
    CreateCall.run, ThingDraft.link_flat, createThing]
  have placesThere {middle}
      (listed : (CreateCall.runAll ((draft.locations.getD []).map .location)).Returns environment
        before () middle) :=
    (made_createLocations _
      ((returns_createLocations_iff _ plain.locations).2 ⟨rfl, listed⟩)).2.1
  constructor
  · rintro ⟨value, _, middle, ⟨rfl, listed⟩, id, third, added, finished⟩
    have later (place) (member) :=
      added.addThing.creation.contains (placesThere listed place member)
    obtain ⟨last, settled, made⟩ := (exists_finishThing_iff plain (adds.identity added)
      (adds.there added) later).1 ⟨value, finished⟩
    have flat := (returns_insertThing_flat rfl (placesThere listed)).2 ⟨third, added, settled⟩
    exact ⟨middle, listed, id, last, flat, made⟩
  · rintro ⟨middle, listed, id, last, flat, made⟩
    obtain ⟨third, added, settled⟩ := (returns_insertThing_flat rfl (placesThere listed)).1 flat
    have later (place) (member) :=
      added.addThing.creation.contains (placesThere listed place member)
    obtain ⟨value, finished⟩ := (exists_finishThing_iff plain (adds.identity added)
      (adds.there added) later).2 ⟨last, settled, made⟩
    exact ⟨value, _, middle, ⟨rfl, listed⟩, id, third, added, finished⟩

theorem composed_finishThing (draft : ThingDraft) (places : List EntityId) (id : EntityId) :
    (finishThing draft places id).Composed :=
  (composed_settleThing id places).bind fun _ =>
    (composed_attachListedDatastreams _ _).bind fun _ => .pure id

theorem insertThing_flattens {draft : ThingDraft} (plain : draft.IsPlain) :
    ((∃ value, (insertThing draft).Returns environment before value after) →
      ∃ later, (CreateCall.runAll draft.flattened).Returns environment before () later ∧
        after.tables = later.tables) ∧
    ((CreateCall.runAll draft.flattened).Returns environment before () after →
      ∃ value later, (insertThing draft).Returns environment before value later ∧
        after.tables = later.tables) := by
  obtain ⟨given, identified⟩ := Option.isSome_iff_exists.1 plain.identified
  have thing : (addThing draft.id draft.name draft.description draft.properties).Within
      (Region.RowsOf .thing) := by
    rw [identified]
    exact within_addThing (Region.rowsOf_rows .thing) given _ _ _
  have places : (createListedLocations draft.locations).Within (Region.RowsOf .location) := by
    rw [createListedLocations_eq]
    exact within_createLocations (Region.rowsOf_rows .location) _ plain.locations
  rw [insertThing_eq plain]
  constructor
  · rintro ⟨value, ran⟩
    obtain ⟨later, swapped, same⟩ := ran.swap thing places
      (fun id ids => (composed_finishThing draft ids id).within) (by rintro _ rfl ⟨⟩)
    exact ⟨later, (exists_flattened_iff plain).1 ⟨value, swapped⟩, same⟩
  · intro ran
    obtain ⟨value, swapped⟩ := (exists_flattened_iff plain).2 ran
    obtain ⟨later, nested, same⟩ := swapped.swap places thing
      (fun ids id => (composed_finishThing draft ids id).within) (by rintro _ rfl ⟨⟩)
    exact ⟨value, later, nested, same⟩

end Change

theorem CreateCall.composed_run (call : CreateCall) : call.run.Composed := by
  cases call with
  | thing link => exact Change.composed_createThing link
  | location link => exact Change.composed_createLocation link
  | sensor link => exact Change.composed_createSensor link
  | observedProperty link => exact Change.composed_createObservedProperty link
  | datastream link => exact Change.composed_createDatastream link
  | observation link => exact Change.composed_createObservation link

theorem CreateCall.composed_runAll (calls : List CreateCall) : (runAll calls).Composed :=
  Change.composed_forM fun call => (composed_run call).bind fun _ => .pure ()

namespace Store

/-- Made from any store, in one call or by the flat sequence of calls for it, a plain thing is made
alike or not at all. -/
theorem createThing_flattened {draft : ThingDraft} (plain : draft.IsPlain) (store : Store)
    (environment : Environment) :
    ((store.change environment (Change.createThing (.body draft))).1.isOk =
      (store.change environment (CreateCall.runAll draft.flattened)).1.isOk) ∧
    (store.change environment (Change.createThing (.body draft))).2.tables =
      (store.change environment (CreateCall.runAll draft.flattened)).2.tables := by
  have recorded := (Change.composed_insertThing draft).records
  have recordedFlat := (CreateCall.composed_runAll draft.flattened).records
  rw [Change.createThing]
  cases nested : (store.change environment (Change.insertThing draft)).1 with
  | ok value =>
    obtain ⟨after, ran, tables⟩ := change_ok nested
    obtain ⟨later, flat, same⟩ := (Change.insertThing_flattens plain).1 ⟨value, ran⟩
    obtain ⟨succeeded, result⟩ := change_of_returns flat
    rw [succeeded, tables, result]
    exact ⟨rfl, same⟩
  | error failure =>
    rw [change_of_error recorded nested]
    cases flat : (store.change environment (CreateCall.runAll draft.flattened)).1 with
    | ok value =>
      obtain ⟨after, ran, -⟩ := change_ok flat
      obtain ⟨value, later, ran, -⟩ := (Change.insertThing_flattens plain).2 ran
      rw [(change_of_returns ran).1] at nested
      contradiction
    | error failure =>
      rw [change_of_error recordedFlat flat]
      exact ⟨rfl, rfl⟩

end Store

/-! A thing at one location, observed once, in one body. -/
namespace ObservedThing

def locationDraft : LocationDraft :=
  ⟨some ⟨"l"⟩, some "n", some "d", some "e", some (.bare (.multiPoint [])), none, none, none⟩

def sensorDraft : SensorDraft :=
  ⟨some ⟨"s"⟩, some "n", some "d", some "e", some "m", none, none⟩

def propertyDraft : ObservedPropertyDraft :=
  ⟨some ⟨"p"⟩, some "n", some "u", some "d", none, none⟩

def observationDraft : ObservationDraft :=
  ⟨some ⟨"o"⟩, none, none, none, none, some (.string "r"), none, none⟩

def datastreamDraft : DatastreamDraft :=
  ⟨some ⟨"d"⟩, some "n", some "d", some ⟨none, none, none⟩, some ObservationType.text.uri, none,
    none, some (.body sensorDraft), some (.body propertyDraft), some [.body observationDraft]⟩

def draft : ThingDraft :=
  ⟨some ⟨"t"⟩, some "n", some "d", none, some [.body locationDraft], some [.body datastreamDraft],
    none⟩

theorem isPlain_datastream : datastreamDraft.IsPlain where
  identified := rfl
  sensor := ⟨.body sensorDraft, rfl, rfl, rfl⟩
  observedProperty := ⟨.body propertyDraft, rfl, rfl, rfl⟩
  observations := List.forall_mem_singleton.2 ⟨rfl, nofun⟩

theorem isPlain : draft.IsPlain where
  identified := rfl
  locations := List.forall_mem_singleton.2 ⟨rfl, rfl, rfl⟩
  datastreams := List.forall_mem_singleton.2 isPlain_datastream
  histories := rfl

theorem created : (Store.change ⟨{}, 0⟩ FirstObservation.environment
    (Change.createThing (.body draft))).1 = .ok ⟨"t"⟩ := rfl

theorem observed : (Store.change ⟨{}, 0⟩ FirstObservation.environment
    (Change.createThing (.body draft))).2.tables.contains .observation ⟨"o"⟩ = true := rfl

end ObservedThing

namespace Store

open ObservedThing in
/-- The six calls for the observed thing succeed and observe it, as the one call does. -/
theorem createThing_flattened_observed_thing :
    draft.IsPlain ∧ draft.flattened.length = 6 ∧
      (Store.change ⟨{}, 0⟩ FirstObservation.environment
        (CreateCall.runAll draft.flattened)).1.isOk = true ∧
      (Store.change ⟨{}, 0⟩ FirstObservation.environment
        (CreateCall.runAll draft.flattened)).2.tables.contains .observation ⟨"o"⟩ = true := by
  obtain ⟨alike, same⟩ := createThing_flattened isPlain ⟨{}, 0⟩ FirstObservation.environment
  rw [created] at alike
  exact ⟨isPlain, rfl, alike.symm, same ▸ observed⟩

end Store

end SensorThings
