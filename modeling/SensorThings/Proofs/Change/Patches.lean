import SensorThings.Proofs.Change.Moves
import SensorThings.Proofs.Change.Provision
import SensorThings.Proofs.Change.Reachable

/-!
What a revision comes to, member by member and row by row. The entity takes what the patch gives and
keeps what it leaves out; apart from it, a revision of a thing can add a historical location, one of
a datastream a unit and a format, and one of an observation changes summaries.
-/
namespace SensorThings

/-- What a patch gives for a member is read as the new value; a member that it leaves out keeps the
old one. -/
structure Takes {α β : Type} (reads : β → α → Prop) (given : Option β) (old new : α) : Prop where
  present : ∀ value, given = some value → reads value new
  absent : given = none → new = old

namespace Takes

variable {α β : Type} {reads : β → α → Prop}

theorem given {value : β} {old new : α} (read : reads value new) :
    Takes reads (some value) old new where
  present _ same := Option.some.inj same ▸ read
  absent nothing := absurd nothing (Option.some_ne_none value)

theorem left_out (old : α) : Takes reads none old old where
  present value same := absurd same.symm (Option.some_ne_none value)
  absent _ := rfl

theorem getD (sent : Option α) (old : α) : Takes Eq sent old (sent.getD old) := by
  cases sent with
  | none => exact left_out old
  | some value => exact given rfl

theorem map_getD (f : β → α) (sent : Option β) (old : α) :
    Takes (fun value new => f value = new) sent old ((sent.map f).getD old) := by
  cases sent with
  | none => exact left_out old
  | some value => exact given rfl

theorem or (sent old : Option α) :
    Takes (fun value new => some value = new) sent old (sent.or old) := by
  cases sent with
  | none => exact left_out old
  | some value => exact given rfl

end Takes

/-! What each kind of entity takes from a patch; all that is not taken stays. -/

structure ThingDraft.Patches (draft : ThingDraft) (old new : Thing) : Prop where
  id : new.id = old.id
  name : Takes Eq draft.name old.name new.name
  description : Takes Eq draft.description old.description new.description
  properties : Takes (some · = ·) draft.properties old.properties new.properties
  locations : Takes (fun links places => places = (Link.references links).eraseDups)
    draft.locations old.locations new.locations

structure LocationDraft.Patches (draft : LocationDraft) (old new : Location) : Prop where
  id : new.id = old.id
  name : Takes Eq draft.name old.name new.name
  description : Takes Eq draft.description old.description new.description
  encodingType : Takes Eq draft.encodingType old.encodingType new.encodingType
  location : Takes (SentGeometry.geometry · = ·) draft.location old.location new.location
  properties : Takes (some · = ·) draft.properties old.properties new.properties
  historicalLocations : new.historicalLocations = old.historicalLocations

structure HistoricalLocationDraft.Patches (draft : HistoricalLocationDraft)
    (old new : HistoricalLocation) : Prop where
  id : new.id = old.id
  time : Takes Eq draft.time old.time new.time
  thing : new.thing = old.thing
  locations : new.locations = old.locations

structure SensorDraft.Patches (draft : SensorDraft) (old new : Sensor) : Prop where
  id : new.id = old.id
  name : Takes Eq draft.name old.name new.name
  description : Takes Eq draft.description old.description new.description
  encodingType : Takes Eq draft.encodingType old.encodingType new.encodingType
  metadata : Takes Eq draft.metadata old.metadata new.metadata
  properties : Takes (some · = ·) draft.properties old.properties new.properties

structure ObservedPropertyDraft.Patches (draft : ObservedPropertyDraft)
    (old new : ObservedProperty) : Prop where
  id : new.id = old.id
  name : Takes Eq draft.name old.name new.name
  definition : Takes Eq draft.definition old.definition new.definition
  description : Takes Eq draft.description old.description new.description
  properties : Takes (some · = ·) draft.properties old.properties new.properties

/-- A unit measures for a draft where it was there with the symbol of the draft, or is just the
draft. -/
inductive UnitDraft.Measures (draft : UnitDraft) (stored : Tables) (unit : UnitOfMeasurement) :
    Prop where
  | used (there : stored.find? .unitOfMeasurement unit.id = some unit) (suits : draft.Suits unit)
  | made (same : unit = draft.asUnit unit.id)

/-- A unit is taken as one that measures for it, and a type together with its format. -/
structure DatastreamDraft.Patches (draft : DatastreamDraft) (before after : Tables)
    (old new : Datastream) : Prop where
  id : new.id = old.id
  name : Takes Eq draft.name old.name new.name
  description : Takes Eq draft.description old.description new.description
  properties : Takes (some · = ·) draft.properties old.properties new.properties
  observationType : Takes (fun uri type => ObservationType.ofUri uri = .ok type)
    draft.observationType old.observationType new.observationType
  format : new.observationType = old.observationType ∧ new.format = old.format ∨
    after.FormatHolds new.observationType new.format
  unit : Takes (fun (unit : UnitDraft) id => ∃ row : UnitOfMeasurement,
      after.find? .unitOfMeasurement id = some row ∧ unit.Measures before row)
    draft.unit old.unit new.unit
  owners : new.thing = old.thing ∧ new.sensor = old.sensor ∧
    new.observedProperty = old.observedProperty
  bounds : new.phenomenonTime = old.phenomenonTime ∧ new.resultTime = old.resultTime

structure FeatureDraft.Patches (draft : FeatureDraft) (old new : FeatureOfInterest) : Prop where
  id : new.id = old.id
  name : Takes Eq draft.name old.name new.name
  description : Takes Eq draft.description old.description new.description
  featureType : Takes Eq draft.encodingType old.featureType new.featureType
  feature : Takes (SentGeometry.geometry · = ·) draft.feature old.feature new.feature
  properties : Takes (some · = ·) draft.properties old.properties new.properties
  autoGenerated : new.autoGenerated = old.autoGenerated

/-- A result is read with the type of the datastream, and another dataset is taken only together
with another feature. -/
structure ObservationDraft.Patches (draft : ObservationDraft) (type : ObservationType)
    (old new : Observation) : Prop where
  id : new.id = old.id
  datastream : new.datastream = old.datastream
  phenomenonTime : Takes Eq draft.phenomenonTime old.phenomenonTime new.phenomenonTime
  resultTime : Takes Eq draft.resultTime old.resultTime new.resultTime
  validTime : Takes (some · = ·) draft.validTime old.validTime new.validTime
  parameters : Takes (some · = ·) draft.parameters old.parameters new.parameters
  result : Takes (fun raw result => type.result raw = .ok result) draft.result old.result new.result
  feature : Takes (fun link feature => link = .reference feature) draft.feature old.feature
    new.feature
  dataset : new.feature = old.feature → new.dataset = old.dataset

def Datastream.withoutBounds (datastream : Datastream) : Datastream :=
  { datastream with phenomenonTime := none, resultTime := none }

namespace Tables

/-- At most one entity of a kind is added, under an identifier that was free, and only where it is
asked for. -/
def Gains (before : Tables) (kind : EntityKind) (asked : Prop) (after : Tables) : Prop :=
  after = before ∨ asked ∧ ∃ entity, before.find? kind (kind.idOf entity) = none ∧
    after = before.put kind entity

/-- An observation is written, the pointers of some datasets and the bounds of its datastream may
change, and no other row does. -/
structure Resummarizes (before : Tables) (observation : Observation) (datasets : List EntityId)
    (after : Tables) : Prop where
  written : after.find? .observation observation.id = some observation
  pointers : ∀ id ∈ datasets, (after.find? .dataset id).map Dataset.withoutPointers =
    (before.find? .dataset id).map Dataset.withoutPointers
  bounds : (after.find? .datastream observation.datastream).map Datastream.withoutBounds =
    (before.find? .datastream observation.datastream).map Datastream.withoutBounds
  others : ∀ key : Key, key ≠ ⟨.observation, observation.id⟩ →
    (∀ id ∈ datasets, key ≠ ⟨.dataset, id⟩) → key ≠ ⟨.datastream, observation.datastream⟩ →
    after.find? key.kind key.id = before.find? key.kind key.id

/-- An entity is patched by a body. What else changes is said for each kind. -/
inductive Patched (environment : Environment) (id : EntityId) (body : Json)
    (before after : Tables) : EntityKind → Prop where
  | thing (draft : ThingDraft) (read : ThingDraft.ofJson? body = some draft) (old new : Thing)
      (found : before.find? .thing id = some old) (patches : draft.Patches old new)
      (rest : (new.locations = old.locations ∨ new.locations = []) ∧
          after = before.put .thing new ∨
        draft.locations.isSome ∧ new.locations ≠ old.locations ∧ new.locations ≠ [] ∧ ∃ recordId,
          (before.put .thing new).AddsRecord
            ⟨recordId, environment.now, id, IdSet.ofIds new.locations⟩ after) :
      Patched environment id body before after .thing
  | location (draft : LocationDraft) (read : LocationDraft.ofJson? body = some draft)
      (old new : Location) (found : before.find? .location id = some old)
      (patches : draft.Patches old new) (rest : after = before.put .location new) :
      Patched environment id body before after .location
  | historicalLocation (draft : HistoricalLocationDraft)
      (read : HistoricalLocationDraft.ofJson? body = some draft) (old new : HistoricalLocation)
      (found : before.find? .historicalLocation id = some old) (patches : draft.Patches old new)
      (rest : after = before.put .historicalLocation new) :
      Patched environment id body before after .historicalLocation
  | sensor (draft : SensorDraft) (read : SensorDraft.ofJson? body = some draft)
      (old new : Sensor) (found : before.find? .sensor id = some old)
      (patches : draft.Patches old new) (rest : after = before.put .sensor new) :
      Patched environment id body before after .sensor
  | observedProperty (draft : ObservedPropertyDraft)
      (read : ObservedPropertyDraft.ofJson? body = some draft) (old new : ObservedProperty)
      (found : before.find? .observedProperty id = some old) (patches : draft.Patches old new)
      (rest : after = before.put .observedProperty new) :
      Patched environment id body before after .observedProperty
  | datastream (draft : DatastreamDraft) (read : DatastreamDraft.ofJson? body = some draft)
      (old new : Datastream) (found : before.find? .datastream id = some old)
      (patches : draft.Patches before after old new) (first middle : Tables)
      (units : before.Gains .unitOfMeasurement draft.unit.isSome first)
      (formats : first.Gains .format draft.observationType.isSome middle)
      (rest : after = middle.put .datastream new) :
      Patched environment id body before after .datastream
  | featureOfInterest (draft : FeatureDraft) (read : FeatureDraft.ofJson? body = some draft)
      (old new : FeatureOfInterest) (found : before.find? .featureOfInterest id = some old)
      (patches : draft.Patches old new) (rest : after = before.put .featureOfInterest new) :
      Patched environment id body before after .featureOfInterest
  | observation (draft : ObservationDraft) (read : ObservationDraft.ofJson? body = some draft)
      (old new : Observation) (found : before.find? .observation id = some old)
      (stream : Datastream) (streamed : before.find? .datastream old.datastream = some stream)
      (patches : draft.Patches stream.observationType old new) (first : Tables)
      (datasets : before.Gains .dataset draft.feature.isSome first)
      (rest : first.Resummarizes new [old.dataset, new.dataset] after) :
      Patched environment id body before after .observation

theorem Gains.others {before after : Tables} {kind other : EntityKind} {asked : Prop}
    (gains : before.Gains kind asked after) (different : other ≠ kind) (place : EntityId) :
    after.find? other place = before.find? other place := by
  obtain rfl | ⟨-, entity, -, rfl⟩ := gains
  · rfl
  · exact find?_put_of_ne _ _ _ different

theorem Gains.find?_of_some {before after : Tables} {kind other : EntityKind} {asked : Prop}
    (gains : before.Gains kind asked after) {place : EntityId} {row : other.Entity}
    (found : before.find? other place = some row) : after.find? other place = some row := by
  obtain rfl | ⟨-, entity, free, rfl⟩ := gains
  · exact found
  · exact find?_put_of_some free found

theorem Provides.gains {before after : Tables} {kind : EntityKind} {suits : kind.Entity → Prop}
    {make : EntityId → kind.Entity} {id : EntityId} {asked : Prop}
    (provides : before.Provides kind suits make id after) (identified : kind.idOf (make id) = id)
    (isAsked : asked) : before.Gains kind asked after := by
  cases provides with
  | used _ unchanged => exact .inl unchanged
  | made _ free added => exact .inr ⟨isAsked, make id, identified.symm ▸ free, added⟩

end Tables

namespace UnitDraft

variable {draft : UnitDraft} {tables after : Tables} {unit : UnitOfMeasurement} {id : EntityId}

theorem Measures.symbol (measures : draft.Measures tables unit) : unit.symbol = draft.symbol := by
  cases measures with
  | used _ suits =>
    obtain ⟨symbol, given, named⟩ := suits
    rw [named, given]
  | made same => rw [same, asUnit]

theorem measures_of_provides
    (provides : tables.Provides .unitOfMeasurement draft.Suits draft.asUnit id after) :
    ∃ row : UnitOfMeasurement, after.find? .unitOfMeasurement id = some row ∧
      draft.Measures tables row := by
  cases provides with
  | used first unchanged =>
    obtain ⟨row, found, suits⟩ := first.here
    exact ⟨row, unchanged ▸ found, .used (Tables.find?_idOf found) suits⟩
  | made _ _ added => exact ⟨draft.asUnit id, added ▸ Tables.find?_put_self _ _ rfl, .made rfl⟩

end UnitDraft

namespace Change

variable {environment : Environment} {before after : Progress} {keys : List Key} {id : EntityId}

theorem returns_checks {kind : EntityKind} {hasBodies given : Bool} {relation : FixedRelation}
    {next : kind.Entity → Change Unit} :
    (do
      let row ← fetch kind id
      refuseBodies kind hasBodies
      refuse relation given
      next row).Returns environment before () after ↔
      ∃ row, before.tables.find? kind id = some row ∧ hasBodies = false ∧ given = false ∧
        (next row).Returns environment before () after := by
  simp only [returns_bind, returns_fetch kind, returns_refuseBodies, returns_refuse]
  constructor
  · rintro ⟨row, _, ⟨found, rfl⟩, _, _, ⟨plain, rfl⟩, _, _, ⟨absent, rfl⟩, ran⟩
    exact ⟨row, found, plain, absent, ran⟩
  · rintro ⟨row, found, plain, absent, ran⟩
    exact ⟨row, _, ⟨found, rfl⟩, (), _, ⟨plain, rfl⟩, (), _, ⟨absent, rfl⟩, ran⟩

theorem Returns.reviseLocation_patches {draft : LocationDraft}
    (ran : (Change.reviseLocation id draft).Returns environment before () after) :
    ∃ old new : Location, before.tables.find? .location id = some old ∧ draft.Patches old new ∧
      after.tables = before.tables.put .location new := by
  obtain ⟨old, found, -, -, ran⟩ := returns_checks.1 ran
  obtain rfl := returns_save.1 ran
  refine ⟨old, _, found, ?_, Progress.save_tables ..⟩
  exact ⟨rfl, .getD _ _, .getD _ _, .getD _ _, .map_getD _ _ _, .or _ _, rfl⟩

theorem Returns.reviseHistoricalLocation_patches {draft : HistoricalLocationDraft}
    (ran : (Change.reviseHistoricalLocation id draft).Returns environment before () after) :
    ∃ old new : HistoricalLocation, before.tables.find? .historicalLocation id = some old ∧
      draft.Patches old new ∧ after.tables = before.tables.put .historicalLocation new := by
  obtain ⟨old, found, -, -, ran⟩ := returns_checks.1 ran
  obtain rfl := returns_save.1 ran
  refine ⟨old, _, found, ?_, Progress.save_tables ..⟩
  exact ⟨rfl, .getD _ _, rfl, rfl⟩

theorem Returns.reviseSensor_patches {draft : SensorDraft}
    (ran : (Change.reviseSensor id draft).Returns environment before () after) :
    ∃ old new : Sensor, before.tables.find? .sensor id = some old ∧ draft.Patches old new ∧
      after.tables = before.tables.put .sensor new := by
  obtain ⟨old, found, -, -, ran⟩ := returns_checks.1 ran
  obtain rfl := returns_save.1 ran
  refine ⟨old, _, found, ?_, Progress.save_tables ..⟩
  exact ⟨rfl, .getD _ _, .getD _ _, .getD _ _, .getD _ _, .or _ _⟩

theorem Returns.reviseObservedProperty_patches {draft : ObservedPropertyDraft}
    (ran : (Change.reviseObservedProperty id draft).Returns environment before () after) :
    ∃ old new : ObservedProperty, before.tables.find? .observedProperty id = some old ∧
      draft.Patches old new ∧ after.tables = before.tables.put .observedProperty new := by
  obtain ⟨old, found, -, -, ran⟩ := returns_checks.1 ran
  obtain rfl := returns_save.1 ran
  refine ⟨old, _, found, ?_, Progress.save_tables ..⟩
  exact ⟨rfl, .getD _ _, .getD _ _, .getD _ _, .or _ _⟩

theorem Returns.reviseFeature_patches {draft : FeatureDraft}
    (ran : (Change.reviseFeature id draft).Returns environment before () after) :
    ∃ old new : FeatureOfInterest, before.tables.find? .featureOfInterest id = some old ∧
      draft.Patches old new ∧ after.tables = before.tables.put .featureOfInterest new := by
  obtain ⟨old, found, -, -, ran⟩ := returns_checks.1 ran
  obtain rfl := returns_save.1 ran
  refine ⟨old, _, found, ?_, Progress.save_tables ..⟩
  exact ⟨rfl, .getD _ _, .getD _ _, .getD _ _, .map_getD _ _ _, .or _ _, rfl⟩

theorem Returns.reviseThing_patches {draft : ThingDraft}
    (ran : (Change.reviseThing id draft).Returns environment before () after)
    (fresh : environment.Fresh keys before) :
    ∃ old new : Thing, before.tables.find? .thing id = some old ∧ draft.Patches old new ∧
      ((new.locations = old.locations ∨ new.locations = []) ∧
          after.tables = before.tables.put .thing new ∨
        draft.locations.isSome ∧ new.locations ≠ old.locations ∧ new.locations ≠ [] ∧ ∃ recordId,
          (before.tables.put .thing new).AddsRecord
            ⟨recordId, environment.now, id, IdSet.ofIds new.locations⟩ after.tables) := by
  obtain ⟨old, found, -, -, ran⟩ := returns_checks.1 ran
  obtain ⟨_, middle, saved, ran⟩ := returns_bind.1 ran
  obtain rfl := returns_save.1 saved
  let plain : Thing := { old with
    name := draft.name.getD old.name, description := draft.description.getD old.description
    properties := draft.properties.or old.properties }
  cases given : draft.locations with
  | none =>
    rw [given] at ran
    obtain ⟨-, rfl⟩ := returns_pure.1 ran
    refine ⟨old, plain, found, ?_, .inl ⟨.inl rfl, Progress.save_tables ..⟩⟩
    exact ⟨rfl, .getD _ _, .getD _ _, .or _ _, given ▸ .left_out _⟩
  | some links =>
    rw [given] at ran
    obtain ⟨places, _, located, ran⟩ := returns_bind.1 ran
    obtain ⟨rfl, rfl, there⟩ := returns_mapM_existing located
    have identified : plain.id = id := Tables.idOf_of_find? found
    have relocates := ran.relocates (fresh.resave found rfl)
    rw [Progress.save_tables] at relocates
    refine ⟨old, { plain with locations := (Link.references links).eraseDups }, found, ?_, ?_⟩
    · exact ⟨rfl, .getD _ _, .getD _ _, .or _ _, given ▸ .given rfl⟩
    · exact (relocates.rest identified).imp_right fun recorded => ⟨rfl, recorded⟩

theorem Returns.revisedUnit_patches {current : EntityId} {draft : Option UnitDraft}
    (ran : (Change.revisedUnit current draft).Returns environment before id after)
    (fresh : environment.Fresh keys before) :
    before.tables.Gains .unitOfMeasurement draft.isSome after.tables ∧
      Takes (fun (unit : UnitDraft) id => ∃ row : UnitOfMeasurement,
        after.tables.find? .unitOfMeasurement id = some row ∧ unit.Measures before.tables row)
        draft current id := by
  cases draft with
  | none =>
    obtain ⟨rfl, rfl⟩ := returns_pure.1 ran
    exact ⟨.inl rfl, .left_out _⟩
  | some unit =>
    have provides := Returns.unitFor_provides ran fresh
    exact ⟨provides.gains rfl rfl, .given (UnitDraft.measures_of_provides provides)⟩

theorem Returns.retyped_patches {stream revised : Datastream} {uri : Option String}
    (ran : (Change.retyped stream uri).Returns environment before revised after)
    (fresh : environment.Fresh keys before) :
    before.tables.Gains .format uri.isSome after.tables ∧ ∃ type format,
      revised = { stream with observationType := type, format } ∧
      Takes (fun uri type => ObservationType.ofUri uri = .ok type) uri stream.observationType type ∧
      (type = stream.observationType ∧ format = stream.format ∨
        after.tables.FormatHolds type format) := by
  unfold Change.retyped at ran
  cases uri with
  | none =>
    obtain ⟨rfl, rfl⟩ := returns_pure.1 ran
    exact ⟨.inl rfl, _, _, rfl, .left_out _, .inl ⟨rfl, rfl⟩⟩
  | some uri =>
    simp only [returns_bind, returns_ofExcept, returns_ite, returns_refuseObserved,
      returns_pure] at ran
    obtain ⟨type, _, ⟨read, rfl⟩, ⟨same, rfl, rfl⟩ | ⟨-, _, _, ⟨-, rfl⟩, format, _, formatted, rfl,
      rfl⟩⟩ := ran
    · exact ⟨.inl rfl, _, _, rfl, .given (same ▸ read), .inl ⟨rfl, rfl⟩⟩
    · exact ⟨(formatted.formatFor_provides fresh).gains rfl rfl, type, format, rfl, .given read,
        .inr formatted.formatFor.2.1⟩

theorem Returns.reviseDatastream_patches {draft : DatastreamDraft}
    (ran : (Change.reviseDatastream id draft).Returns environment before () after)
    (fresh : environment.Fresh [] before) :
    ∃ (old new : Datastream) (first middle : Tables),
      before.tables.find? .datastream id = some old ∧
      draft.Patches before.tables after.tables old new ∧
      before.tables.Gains .unitOfMeasurement draft.unit.isSome first ∧
      first.Gains .format draft.observationType.isSome middle ∧
      after.tables = middle.put .datastream new := by
  unfold Change.reviseDatastream at ran
  simp only [returns_bind, returns_fetch .datastream, returns_refuseBodies, returns_refuse,
    returns_save] at ran
  obtain ⟨old, _, ⟨found, rfl⟩, _, _, ⟨-, rfl⟩, _, _, thing, _, _, sensor, _, _, property, _, _,
    ⟨-, rfl⟩, unit, first, unitRan, revised, middle, typeRan, rfl⟩ := ran
  obtain rfl := thing.keeps
  obtain rfl := sensor.keeps
  obtain rfl := property.keeps
  have freshLater : environment.Fresh [] first := unitRan.revisedUnit.1.fresh fresh
  obtain ⟨units, unitTaken⟩ := unitRan.revisedUnit_patches fresh
  obtain ⟨formats, type, format, rfl, typeTaken, formatted⟩ := typeRan.retyped_patches freshLater
  refine ⟨old, _, first.tables, middle.tables, found, ?_, units, formats,
    Progress.save_tables ..⟩
  have others (stream : Datastream) (place : EntityId) :
      (middle.save .datastream stream).tables.find? .unitOfMeasurement place =
        first.tables.find? .unitOfMeasurement place := by
    rw [Progress.find?_save_of_ne _ _ _ (by decide), formats.others (by decide)]
  constructor
  case id => rfl
  case name => exact .getD _ _
  case description => exact .getD _ _
  case properties => exact .or _ _
  case observationType => exact typeTaken
  case format =>
    apply formatted.imp_right
    rintro ⟨row, found, uri⟩
    refine ⟨row, ?_, uri⟩
    rwa [Progress.find?_save_of_ne _ _ _ (by decide)]
  case unit =>
    refine ⟨fun given same => ?_, unitTaken.absent⟩
    obtain ⟨row, found, measures⟩ := unitTaken.present given same
    exact ⟨row, (others _ unit).trans found, measures⟩
  case owners => exact ⟨rfl, rfl, rfl⟩
  case bounds => exact ⟨rfl, rfl⟩

theorem Returns.refocused_patches {observation placed : Observation} {stream : Datastream}
    {link : Option (Link FeatureDraft)}
    (ran : (Change.refocused observation stream link).Returns environment before placed after)
    (referred : ∀ draft, link ≠ some (.body draft)) (fresh : environment.Fresh keys before) :
    before.tables.Gains .dataset link.isSome after.tables ∧ ∃ feature dataset,
      placed = { observation with feature, dataset } ∧
      Takes (fun link feature => link = .reference feature) link observation.feature feature ∧
      (feature = observation.feature → dataset = observation.dataset) := by
  unfold Change.refocused at ran
  split at ran
  next feature =>
    simp only [returns_bind, returns_existing, returns_ite, returns_pure] at ran
    obtain ⟨_, _, ⟨-, rfl, rfl⟩, ⟨same, rfl, rfl⟩ | ⟨other, dataset, _, grouped, rfl, rfl⟩⟩ := ran
    · exact ⟨.inl rfl, _, _, rfl, .given (congrArg Link.reference same), fun _ => rfl⟩
    · exact ⟨(grouped.datasetFor_provides fresh).gains rfl rfl, feature, dataset, rfl, .given rfl,
        fun same => absurd same other⟩
  next unreferred =>
    obtain ⟨rfl, rfl⟩ := returns_pure.1 ran
    cases link with
    | none => exact ⟨.inl rfl, _, _, rfl, .left_out _, fun _ => rfl⟩
    | some link =>
      cases link with
      | reference feature => exact absurd rfl (unreferred feature)
      | body draft => exact absurd rfl (referred draft)

theorem Returns.revisedResult_takes {type : ObservationType} {current result : ObservedValue}
    {raw : Option Json}
    (ran : (Change.revisedResult type current raw).Returns environment before result after) :
    before = after ∧ Takes (fun raw result => type.result raw = .ok result) raw current result := by
  cases raw with
  | none =>
    obtain ⟨rfl, rfl⟩ := returns_pure.1 ran
    exact ⟨rfl, .left_out _⟩
  | some raw =>
    obtain ⟨read, rfl⟩ := returns_ofExcept.1 ran
    exact ⟨rfl, .given read⟩

theorem Returns.resummarizes {previous : EntityId} {observation : Observation}
    (ran : (Change.observationEdited previous observation).Returns environment
      (before.save .observation observation) () after) :
    before.tables.Resummarizes observation [previous, observation.dataset] after.tables := by
  obtain ⟨middle, repoints, rebounds⟩ := ran.observationEdited
  constructor
  case written =>
    rw [rebounds.others _ (by decide), repoints.others _ (by decide), Progress.save_tables]
    exact Tables.find?_put_self _ _ rfl
  case pointers =>
    intro id member
    rw [rebounds.others _ (by decide), repoints.find?,
      Progress.find?_save_of_ne _ _ _ (by decide), Option.map_map]
    congr 1
    funext row
    simp [member, Tables.repointed, Dataset.summarize_eq, Dataset.withoutPointers]
  case bounds =>
    rw [rebounds.find?, repoints.others _ (by decide),
      Progress.find?_save_of_ne _ _ _ (by decide), Option.map_map]
    congr 1
    funext row
    simp [Tables.rebounded, Datastream.summarize_eq, Datastream.withoutBounds]
  case others =>
    rintro ⟨kind, id⟩ notObservation notDataset notStream
    rw [rebounds.find?_of_apart (by simpa using notStream), repoints.find?_of_apart notDataset,
      Progress.save_tables]
    by_cases same : kind = .observation
    · subst same
      rw [Tables.find?_put, if_neg]
      rintro rfl
      exact notObservation rfl
    · exact Tables.find?_put_of_ne _ _ _ same

theorem Returns.reviseObservation_patches {draft : ObservationDraft}
    (ran : (Change.reviseObservation id draft).Returns environment before () after)
    (fresh : environment.Fresh keys before) :
    ∃ (old new : Observation) (stream : Datastream) (first : Tables),
      before.tables.find? .observation id = some old ∧
      before.tables.find? .datastream old.datastream = some stream ∧
      draft.Patches stream.observationType old new ∧
      before.tables.Gains .dataset draft.feature.isSome first ∧
      first.Resummarizes new [old.dataset, new.dataset] after.tables := by
  unfold Change.reviseObservation at ran
  simp only [returns_bind, returns_fetch .observation, returns_fetch .datastream,
    returns_refuseBodies, returns_save] at ran
  obtain ⟨old, _, ⟨found, rfl⟩, _, _, ⟨plain, rfl⟩, _, _, kept, stream, _, ⟨streamed, rfl⟩, placed,
    first, placedRan, result, _, resultRan, _, _, rfl, edited⟩ := ran
  obtain rfl := kept.keeps
  obtain ⟨rfl, resultTaken⟩ := resultRan.revisedResult_takes
  have referred : ∀ inner, draft.feature ≠ some (.body inner) := by
    intro inner given
    have both := (Bool.or_eq_false_iff.1 plain).2
    rw [given] at both
    contradiction
  obtain ⟨datasets, feature, dataset, rfl, featureTaken, grouped⟩ :=
    placedRan.refocused_patches referred fresh
  refine ⟨old, _, stream, first.tables, found, streamed, ?_, datasets, edited.resummarizes⟩
  exact ⟨rfl, rfl, .getD _ _, .getD _ _, .or _ _, .or _ _, resultTaken, featureTaken, grouped⟩

end Change

theorem Change.Returns.patched {environment : Environment} {before after : Progress}
    {kind : EntityKind} {id : EntityId} {body : Json}
    (ran : (Change.revise kind id body).Returns environment before () after)
    (fresh : environment.Fresh [] before) :
    before.tables.Patched environment id body after.tables kind := by
  unfold Change.revise at ran
  cases kind
  all_goals simp only [returns_bind, returns_draft, returns_throw] at ran
  case thing =>
    obtain ⟨draft, _, ⟨read, rfl⟩, ran⟩ := ran
    obtain ⟨old, new, found, patches, rest⟩ := ran.reviseThing_patches fresh
    exact .thing draft read old new found patches rest
  case location =>
    obtain ⟨draft, _, ⟨read, rfl⟩, ran⟩ := ran
    obtain ⟨old, new, found, patches, rest⟩ := ran.reviseLocation_patches
    exact .location draft read old new found patches rest
  case historicalLocation =>
    obtain ⟨draft, _, ⟨read, rfl⟩, ran⟩ := ran
    obtain ⟨old, new, found, patches, rest⟩ := ran.reviseHistoricalLocation_patches
    exact .historicalLocation draft read old new found patches rest
  case sensor =>
    obtain ⟨draft, _, ⟨read, rfl⟩, ran⟩ := ran
    obtain ⟨old, new, found, patches, rest⟩ := ran.reviseSensor_patches
    exact .sensor draft read old new found patches rest
  case observedProperty =>
    obtain ⟨draft, _, ⟨read, rfl⟩, ran⟩ := ran
    obtain ⟨old, new, found, patches, rest⟩ := ran.reviseObservedProperty_patches
    exact .observedProperty draft read old new found patches rest
  case datastream =>
    obtain ⟨draft, _, ⟨read, rfl⟩, ran⟩ := ran
    obtain ⟨old, new, first, middle, found, patches, units, formats, rest⟩ :=
      ran.reviseDatastream_patches fresh
    exact .datastream draft read old new found patches first middle units formats rest
  case featureOfInterest =>
    obtain ⟨draft, _, ⟨read, rfl⟩, ran⟩ := ran
    obtain ⟨old, new, found, patches, rest⟩ := ran.reviseFeature_patches
    exact .featureOfInterest draft read old new found patches rest
  case observation =>
    obtain ⟨draft, _, ⟨read, rfl⟩, ran⟩ := ran
    obtain ⟨old, new, stream, first, found, streamed, patches, datasets, rest⟩ :=
      ran.reviseObservation_patches fresh
    exact .observation draft read old new found stream streamed patches first datasets rest

namespace Store

end Store

namespace FirstObservation

def patchBody : Json :=
  .object [("result", .string "s")]

theorem read_patch : ObservationDraft.ofJson? patchBody =
    some ⟨none, none, none, none, none, some (.string "s"), none, none⟩ := by
  rw [ObservationDraft.ofJson?]
  rfl

theorem succeeds_patch : (store.change later
    (Change.ofRequest (.revise .observation (environment.fresh 7) patchBody))).1 = .ok none := by
  unfold store Store.change Change.start request
  simp only [Change.ofRequest, Change.create, Change.revise, Change.draft, read_body, read_patch]
  rfl

end FirstObservation

namespace Store

end Store

end SensorThings
