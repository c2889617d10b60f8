import SensorThings.Proofs.Change.Lasting
import SensorThings.Proofs.Change.Licensed
import SensorThings.Proofs.Change.Patches
import SensorThings.Proofs.Change.SharedKeys
import SensorThings.Proofs.Draft.Represented

/-!
Units of measurement. A datastream that is created or patched with a unit shares the unit that has
its symbol, if there is one; else it has a unit of its own that is just as it was sent. No other
datastream gets another unit by it, and no unit is written again.
-/
namespace SensorThings

/-- A unit stands in a body that is made before the datastream itself: in its thing, its sensor or
its observed property. -/
def DatastreamDraft.MeasuresFirst (draft : DatastreamDraft) (unit : UnitDraft) : Prop :=
  ∃ owner ∈ AnyDraft.bodies .thing draft.thing.toList ++
      AnyDraft.bodies .sensor draft.sensor.toList ++
      AnyDraft.bodies .observedProperty draft.observedProperty.toList,
    ∃ nested, owner.Nests nested ∧ nested.unit? = some unit

namespace Tables

def UnitsFrom (origin : Tables) (made : UnitDraft → Prop) (tables : Tables) : Prop :=
  ∀ id unit, tables.find? .unitOfMeasurement id = some unit →
    origin.find? .unitOfMeasurement id = some unit ∨ ∃ draft, made draft ∧ unit = draft.asUnit id

theorem UnitsFrom.refl (tables : Tables) (made : UnitDraft → Prop) :
    tables.UnitsFrom made tables :=
  fun _ _ found => .inl found

theorem unitsFrom_survivesCreation (environment : Environment) (origin : Tables)
    (made : UnitDraft → Prop) :
    SurvivesCreation environment ⟨made, fun _ => True, fun _ => True⟩ (origin.UnitsFrom made) := by
  have other (kind : EntityKind) (different : kind ≠ .unitOfMeasurement) (tables : Tables)
      (entity : kind.Entity) (kept : origin.UnitsFrom made tables) :
      origin.UnitsFrom made (tables.put kind entity) := by
    intro id unit found
    rw [find?_put_of_ne _ _ _ different.symm] at found
    exact kept id unit found
  constructor
  case free => exact fun _ _ _ _ _ => trivial
  case drawn => exact fun _ _ => trivial
  case ignores =>
    intro kind plain
    exact other kind (by rintro rfl; simp at plain)
  case unit =>
    intro tables draft id isMade kept place unit found
    rw [find?_put] at found
    split at found
    next same =>
      obtain rfl := Option.some.inj found
      exact .inr ⟨draft, isMade, same ▸ rfl⟩
    next => exact kept place unit found
  case thing => exact fun tables thing _ => other .thing (by decide) tables thing
  case record =>
    exact fun tables record _ _ => other .historicalLocation (by decide) tables record
  case lengthen =>
    exact fun tables _ record _ _ _ => other .historicalLocation (by decide) tables _

end Tables

/-- A unit for a datastream has the symbol that its draft gives, and is the one with this symbol
that was there, if there was one. It was there, or it is just what the draft gives, or it is made
from another unit in the same body that has the symbol. -/
structure DatastreamDraft.Obtains (draft : DatastreamDraft) (unit : UnitDraft) (before : Tables)
    (row : UnitOfMeasurement) : Prop where
  symbol : row.symbol = unit.symbol
  shared : ∀ id other, before.find? .unitOfMeasurement id = some other → unit.Suits other →
    row = other
  source : unit.Measures before row ∨
    ∃ other, draft.MeasuresFirst other ∧ unit.Suits row ∧ row = other.asUnit row.id

namespace Tables

variable {before after : Tables} {draft : DatastreamDraft} {unit : UnitDraft} {id : EntityId}

/-- A datastream has the unit that its draft gives or shares one, also where clients see it, and the
other datastreams have the units that they had. -/
structure Measured (before : Tables) (draft : DatastreamDraft) (unit : UnitDraft) (id : EntityId)
    (after : Tables) : Prop where
  measured : ∃ (stream : Datastream) (row : UnitOfMeasurement),
    after.find? .datastream id = some stream ∧
    after.find? .unitOfMeasurement stream.unit = some row ∧
    (∀ base, (after.represent base .datastream stream).member? "unitOfMeasurement" =
      some (UnitOfMeasurement.represent (some row))) ∧
    draft.Obtains unit before row
  others : ∀ other (old : Datastream), other ≠ id → before.find? .datastream other = some old →
    ∃ new : Datastream, after.find? .datastream other = some new ∧ new.unit = old.unit ∧
      after.find? .unitOfMeasurement old.unit = before.find? .unitOfMeasurement old.unit

theorem unit_represent (tables : Tables) (base : String) (stream : Datastream) :
    (tables.represent base .datastream stream).member? "unitOfMeasurement" =
      some (UnitOfMeasurement.represent (tables.find? .unitOfMeasurement stream.unit)) := by
  simp [represent, ownMembers, EntityKind.relations, EntityKind.idOf, Json.free,
    List.lookup_append, Json.lookup_cons]

theorem Measured.of_source {stream : Datastream} {row : UnitOfMeasurement}
    (linked : before.Linked) (keyed : after.Keyed)
    (kept : ∀ place other, before.find? .unitOfMeasurement place = some other →
      after.find? .unitOfMeasurement place = some other)
    (streams : ∀ other (old : Datastream), other ≠ id →
      before.find? .datastream other = some old →
      ∃ new : Datastream, after.find? .datastream other = some new ∧ new.unit = old.unit)
    (found : after.find? .datastream id = some stream)
    (rowFound : after.find? .unitOfMeasurement stream.unit = some row)
    (source : unit.Measures before row ∨
      ∃ other, draft.MeasuresFirst other ∧ unit.Suits row ∧ row = other.asUnit row.id) :
    before.Measured draft unit id after where
  measured := by
    have symbol : row.symbol = unit.symbol := by
      obtain measures | ⟨-, -, ⟨symbol, given, named⟩, -⟩ := source
      · exact measures.symbol
      · rw [named, given]
    refine ⟨stream, row, found, rowFound, fun base => ?_, symbol, ?_, source⟩
    · rw [unit_represent, rowFound]
    · rintro place other there ⟨text, given, named⟩
      have later := kept place other there
      obtain rfl : stream.unit = place :=
        keyed .unitOfMeasurement _ _ row other rowFound later ⟨text, symbol.trans given, named⟩
      exact Option.some.inj (rowFound.symm.trans later)
  others := by
    intro other old different there
    obtain ⟨new, here, same⟩ := streams other old different there
    obtain ⟨unitRow, unitFound⟩ := contains_iff.1 (linked .datastream other old there).unit
    exact ⟨new, here, same, (kept _ unitRow unitFound).trans unitFound.symm⟩

theorem Measured.of_written {middle written : Tables} {stream : Datastream}
    {row : UnitOfMeasurement} (linked : before.Linked) (keyed : after.Keyed)
    (owners : before.Leaves middle)
    (unitsKept : ∀ place other, middle.find? .unitOfMeasurement place = some other →
      written.find? .unitOfMeasurement place = some other)
    (streamsKept : ∀ other, other ≠ id →
      written.find? .datastream other = middle.find? .datastream other)
    (observations : written.Leaves after)
    (found : written.find? .datastream id = some stream)
    (rowFound : written.find? .unitOfMeasurement stream.unit = some row)
    (source : unit.Measures before row ∨
      ∃ other, draft.MeasuresFirst other ∧ unit.Suits row ∧ row = other.asUnit row.id) :
    before.Measured draft unit id after := by
  obtain ⟨last, lastFound, lasts⟩ := observations .datastream _ stream found
  obtain ⟨_, rowLast, rfl⟩ := observations .unitOfMeasurement _ row rowFound
  refine .of_source linked keyed ?_ ?_ lastFound (lasts.unit ▸ rowLast) source
  · intro place other there
    obtain ⟨_, here, rfl⟩ := owners .unitOfMeasurement place other there
    obtain ⟨_, last, rfl⟩ := observations .unitOfMeasurement place _ (unitsKept place _ here)
    exact last
  · intro other old different there
    obtain ⟨between, here, lasts⟩ := owners .datastream other old there
    rw [← streamsKept other different] at here
    obtain ⟨new, there, lastsLater⟩ := observations .datastream other between here
    exact ⟨new, there, lastsLater.unit.trans lasts.unit⟩

theorem Patched.measured {environment : Environment} {body : Json}
    (patched : before.Patched environment id body after .datastream)
    (read : DatastreamDraft.ofJson? body = some draft) (given : draft.unit = some unit)
    (linked : before.Linked) (keyed : after.Keyed) : before.Measured draft unit id after := by
  obtain @⟨first, middle, old, new, found, patches, units, formats, rest⟩ :
      ∃ first middle old new, before.find? .datastream id = some old ∧
        draft.Patches before after old new ∧
        before.Gains .unitOfMeasurement draft.unit.isSome first ∧
        first.Gains .format draft.observationType.isSome middle ∧
        after = middle.put .datastream new := by
    cases patched with
    | datastream other readHere old new found patches first middle units formats rest =>
      obtain rfl := Option.some.inj (read.symm.trans readHere)
      exact ⟨first, middle, old, new, found, patches, units, formats, rest⟩
  obtain ⟨row, rowFound, measures⟩ := patches.unit.present unit given
  have identified : new.id = id := patches.id.trans (idOf_of_find? found)
  refine .of_source linked keyed ?_ ?_ (rest ▸ find?_put_self _ _ identified) rowFound
    (.inl measures)
  · intro place other there
    rw [rest, find?_put_of_ne _ _ _ (by decide)]
    exact formats.find?_of_some (units.find?_of_some there)
  · intro other old different there
    refine ⟨old, ?_, rfl⟩
    have later := formats.find?_of_some (units.find?_of_some there)
    rw [rest, find?_put]
    exact (if_neg fun same => different (same.symm.trans identified)).trans later

end Tables

theorem DatastreamDraft.covers_owners (draft : DatastreamDraft) :
    let licence : Licence := ⟨draft.MeasuresFirst, fun _ => True, fun _ => True⟩
    licence.CoversAll .thing draft.thing.toList ∧ licence.CoversAll .sensor draft.sensor.toList ∧
      licence.CoversAll .observedProperty draft.observedProperty.toList := by
  intro licence
  have covered : ∀ owner ∈ AnyDraft.bodies .thing draft.thing.toList ++
      AnyDraft.bodies .sensor draft.sensor.toList ++
      AnyDraft.bodies .observedProperty draft.observedProperty.toList,
      licence.Throughout owner := by
    intro owner member nested nests
    exact ⟨fun unit given => ⟨owner, member, nested, nests, given⟩, fun _ _ => trivial,
      fun _ _ => trivial⟩
  simp only [List.forall_mem_append] at covered
  exact ⟨covered.1.1, covered.1.2, covered.2⟩

theorem UnitDraft.Measures.earlier {draft : UnitDraft} {before middle : Tables}
    {unit : UnitOfMeasurement} {made : UnitDraft → Prop} (measures : draft.Measures middle unit)
    (units : before.UnitsFrom made middle) : draft.Measures before unit ∨
      ∃ other, made other ∧ draft.Suits unit ∧ unit = other.asUnit unit.id := by
  cases measures with
  | used there suits =>
    obtain stored | ⟨other, isMade, same⟩ := units _ unit there
    · exact .inl (.used stored suits)
    · exact .inr ⟨other, isMade, suits, same⟩
  | made same => exact .inl (.made same)

namespace Change

variable {environment : Environment} {before after : Progress} {id : EntityId} {unit : UnitDraft}

theorem Returns.addDatastream_measures {name description : String} {type : ObservationType}
    {properties : Option Json} {thing sensor property : EntityId} {keys : List Key}
    (ran : (Change.addDatastream id name description unit type properties thing sensor
      property).Returns environment before () after)
    (fresh : environment.Fresh keys before) :
    ∃ (stream : Datastream) (row : UnitOfMeasurement),
      after.tables.find? .datastream id = some stream ∧
      after.tables.find? .unitOfMeasurement stream.unit = some row ∧
      unit.Measures before.tables row ∧
      (∀ place other, before.tables.find? .unitOfMeasurement place = some other →
        after.tables.find? .unitOfMeasurement place = some other) ∧
      ∀ other, other ≠ id →
        after.tables.find? .datastream other = before.tables.find? .datastream other := by
  unfold Change.addDatastream at ran
  simp only [returns_bind, returns_save] at ran
  obtain ⟨unitId, first, unitRan, formatId, second, formatRan, rfl⟩ := ran
  have units := unitRan.unitFor_provides fresh
  have freshThen : environment.Fresh [] first :=
    unitRan.unitFor.1.creation.fresh (fresh.mono (by simp [Outline.keys]))
  have formats := formatRan.formatFor_provides freshThen
  obtain ⟨row, rowFound, measures⟩ := UnitDraft.measures_of_provides units
  let stream : Datastream := ⟨id, name, description, type, unitId, formatId, thing, sensor, property,
    none, none, properties⟩
  have kept : ∀ {place other}, first.tables.find? .unitOfMeasurement place = some other →
      (second.save .datastream stream).tables.find? .unitOfMeasurement place = some other := by
    intro place other there
    simpa using formats.find?_of_some rfl there
  refine ⟨stream, row, ?_, kept rowFound, measures, ?_, ?_⟩
  · rw [Progress.save_tables]
    exact Tables.find?_put_self _ _ rfl
  · exact fun place other there => kept (units.find?_of_some rfl there)
  · intro other different
    rw [Progress.save_tables, Tables.find?_put]
    refine (if_neg different.symm).trans ?_
    rw [formats.others (by decide), units.others (by decide)]

theorem Returns.insertDatastream_measured {draft : DatastreamDraft}
    (ran : (insertDatastream none draft).Returns environment before id after)
    (fresh : environment.Fresh (Outline.ofDatastreamDraft none draft).keys before)
    (given : draft.unit = some unit) (linked : before.tables.Linked)
    (keyed : after.tables.Keyed) : before.tables.Measured draft unit id after.tables := by
  obtain ⟨coveredThing, coveredSensor, coveredProperty⟩ := draft.covers_owners
  have survives := Tables.unitsFrom_survivesCreation environment before.tables draft.MeasuresFirst
  obtain ⟨sent, name, description, _, uri, properties, thing, sensor, property, observations⟩ :=
    draft
  unfold insertDatastream at ran
  rw [DatastreamOwner.thing?_eq, DatastreamOwner.sensor?_eq,
    DatastreamOwner.observedProperty?_eq] at ran
  simp only [returns_bind, returns_require, returns_requireThat, returns_ofExcept,
    returns_pure] at ran
  obtain ⟨_, _, ⟨-, rfl⟩, _, _, ⟨-, rfl⟩, _, _, ⟨-, rfl⟩, name, _, ⟨-, rfl⟩, description, _,
    ⟨-, rfl⟩, _, _, ⟨rfl, rfl⟩, uri, _, ⟨-, rfl⟩, type, _, ⟨-, rfl⟩, ran⟩ := ran
  obtain ⟨_, first, claimed, thingId, _, thingRan, sensorId, _, sensorRan, propertyId, middle,
    propertyRan, _, last, streamRan, _, _, observationsRan, rfl, rfl⟩ := ran
  cases given
  have thingMade := made_ownerThing _ none (.none _) thing thingRan
  have sensorMade := made_ownerSensor none (.none _) sensor sensorRan
  have propertyMade := made_ownerObservedProperty none (.none _) property propertyRan
  have inner := thingMade.creation.append (sensorMade.creation.append propertyMade.creation)
  obtain ⟨datastream, written, rfl, supplied, links, isNew, rfl⟩ := streamRan.addDatastream
    (propertyMade.creation.contains (sensorMade.creation.contains thingMade.there))
    (propertyMade.creation.contains sensorMade.there) propertyMade.there
  have added := Creation.datastream datastream claimed (inner.settle supplied) links isNew
  have observed := made_attachListedObservations (.datastream _) observations observationsRan
    (Progress.contains_save_self _ _ _)
  unfold Outline.ofDatastreamDraft at fresh
  rw [← Outline.named_append] at fresh
  have inside := fresh.left.claim claimed
  have freshThen : environment.Fresh [] middle := inner.fresh (by simpa using inside)
  obtain ⟨stream, row, found, rowFound, measures, unitsKept, streamsKept⟩ :=
    streamRan.addDatastream_measures freshThen
  have madeFirst := inner.leaves inside
  rw [claimed.claim_tables] at madeFirst
  have thingKept := (maintains_ownerThing survives _ _ thing coveredThing thingRan
    (claimed.claim_tables ▸ .refl _ _)).1
  have sensorKept := (maintains_ownerSensor survives _ sensor coveredSensor sensorRan
    thingKept).1
  have propertyKept := (maintains_ownerObservedProperty survives _ property coveredProperty
    propertyRan sensorKept).1
  exact .of_written linked keyed madeFirst unitsKept streamsKept
    (observed.leaves (fresh.right added)) found rowFound (measures.earlier propertyKept)

end Change

/-- A request sends a body for an entity, which is created or patched by it. -/
inductive ChangeRequest.Sends (kind : EntityKind) (body : Json) (id : EntityId) :
    ChangeRequest → Option EntityId → Prop where
  | created : Sends kind body id (.create kind body) (some id)
  | patched : Sends kind body id (.revise kind id body) none

namespace Store

/-- A datastream that is created or patched with a unit has one with the symbol of the unit. It is
just the unit that was sent where no unit with the symbol was there, nor stands in its owners. No
other datastream gets another unit. -/
theorem datastream_measured {allowed : ChangeRequest → Prop} {store after : Store}
    {environment : Environment} {request : ChangeRequest} {body : Json} {id : EntityId}
    {result : Option EntityId} {draft : DatastreamDraft} {unit : UnitDraft}
    (reachable : store.Reachable allowed)
    (fresh : environment.Fresh request.keys (.start store.tables))
    (sends : request.Sends .datastream body id result)
    (read : DatastreamDraft.ofJson? body = some draft) (given : draft.unit = some unit)
    (succeeded : store.change environment (Change.ofRequest request) = (.ok result, after)) :
    store.tables.Measured draft unit id after.tables := by
  obtain ⟨last, ran, tables⟩ := returns_of_change succeeded
  have keyed := (Change.preserves_keyed request ran reachable.attained.keyed).1
  rw [tables]
  cases sends with
  | created =>
    have whole : draft.link = .body draft := by
      have fields : draft.hasFields = true := by simp [DatastreamDraft.hasFields, given]
      rw [DatastreamDraft.link, fields, Link.make_true]
    simp only [ChangeRequest.keys, Outline.ofJson, read, Option.map_some, Option.getD_some, whole,
      Outline.ofDatastream] at fresh
    obtain ⟨_, created, ⟨⟩⟩ := Change.returns_ofRequest_create.1 ran
    simp only [Change.create, Change.returns_bind, Change.returns_draft] at created
    obtain ⟨_, _, ⟨readHere, rfl⟩, inserted⟩ := created
    obtain rfl := Option.some.inj (read.symm.trans readHere)
    rw [whole, Change.createDatastream] at inserted
    exact inserted.insertDatastream_measured fresh given reachable.linked keyed
  | patched =>
    obtain ⟨revised, -⟩ := Change.returns_ofRequest_revise.1 ran
    exact (revised.patched (fresh.mono (by simp))).measured read given reachable.linked keyed

end Store

/-! A datastream with a unit, patched with another unit of the same symbol. -/
namespace SharedUnit

open FirstObservation

def unitBody (name definition : String) : Json :=
  .object [("name", .string name), ("symbol", .string "s"), ("definition", .string definition)]

def body : Json :=
  described [("unitOfMeasurement", unitBody "a" "x"),
    ("observationType", .string ObservationType.text.uri), ("Thing", described []),
    ("Sensor", sensorBody), ("ObservedProperty", propertyBody)]

def draft : DatastreamDraft :=
  ⟨none, some "n", some "d", some ⟨some "a", some "s", some "x"⟩, some ObservationType.text.uri,
    none, some (.body ⟨none, some "n", some "d", none, none, none, none⟩),
    some (.body ⟨none, some "n", some "d", some "e", some "m", none, none⟩),
    some (.body ⟨none, some "n", some "u", some "d", none, none⟩), none⟩

theorem read_body : DatastreamDraft.ofJson? body = some draft := by
  have thing : body.inner? DatastreamDraft.names "Thing" = some ⟨described [], by decide⟩ := rfl
  have sensor : body.inner? DatastreamDraft.names "Sensor" = some ⟨sensorBody, by decide⟩ := rfl
  have property : body.inner? DatastreamDraft.names "ObservedProperty" =
      some ⟨propertyBody, by decide⟩ := rfl
  have observations : body.inners? DatastreamDraft.names "Observations" = some none := rfl
  rw [DatastreamDraft.ofJson?, thing, sensor, property, observations]
  simp only [Option.bind_eq_bind, Option.bind_some, Option.mapM_some, Option.mapM_none, read_thing,
    read_sensor, read_property]
  rfl

def store : Store :=
  (Store.change ⟨{}, 0⟩ environment (Change.ofRequest (.create .datastream body))).2

theorem reachable : store.Reachable fun _ => True := by
  have none : (ChangeRequest.create .datastream body).keys = [] := by
    simp only [ChangeRequest.keys, Outline.ofJson, read_body]
    rfl
  refine .change environment (.create .datastream body) .empty trivial (fresh_empty ?_)
  simp [none]

def patchBody : Json :=
  .object [("unitOfMeasurement", unitBody "b" "y")]

def patchDraft : DatastreamDraft :=
  ⟨none, none, none, some ⟨some "b", some "s", some "y"⟩, none, none, none, none, none, none⟩

theorem read_patch : DatastreamDraft.ofJson? patchBody = some patchDraft := by
  rw [DatastreamDraft.ofJson?]
  rfl

def patch : ChangeRequest :=
  .revise .datastream (environment.fresh 1) patchBody

theorem succeeds_patch : (store.change later (Change.ofRequest patch)).1 = .ok none := by
  unfold store Store.change Change.start patch
  simp only [Change.ofRequest, Change.create, Change.revise, Change.draft, read_body, read_patch]
  rfl

def stream : Datastream :=
  ⟨environment.fresh 1, "n", "d", .text, environment.fresh 5, environment.fresh 6,
    environment.fresh 2, environment.fresh 3, environment.fresh 4, none, none, none⟩

theorem found_patched : (store.change later (Change.ofRequest patch)).2.tables.find? .datastream
    (environment.fresh 1) = some stream := by
  unfold store Store.change Change.start patch
  simp only [Change.ofRequest, Change.create, Change.revise, Change.draft, read_body, read_patch]
  rfl

theorem unit_patched : (store.change later (Change.ofRequest patch)).2.tables.find?
    .unitOfMeasurement stream.unit = some ⟨stream.unit, some "a", some "s", some "x"⟩ := by
  unfold store Store.change Change.start patch
  simp only [Change.ofRequest, Change.create, Change.revise, Change.draft, read_body, read_patch]
  rfl

theorem unstarred : (EntityKind.all.all fun kind => (store.tables.entities kind).all fun entity =>
    (kind.idOf entity).text.toList.all (· != '*')) = true := by
  unfold store Store.change Change.start
  simp only [Change.ofRequest, Change.create, Change.draft, read_body]
  decide +kernel

end SharedUnit

namespace Store

open SharedUnit
open FirstObservation (environment later later_fresh)

/-- A patch with a unit that has the symbol of the present one leaves the datastream with the
present one, which has another name and another definition. -/
theorem patched_unit_is_shared :
    store.Reachable (fun _ => True) ∧ later.Fresh patch.keys (.start store.tables) ∧
      DatastreamDraft.ofJson? patchBody = some patchDraft ∧
      patchDraft.unit = some ⟨some "b", some "s", some "y"⟩ ∧
      ∃ (after : Store) (row : UnitOfMeasurement),
        store.change later (Change.ofRequest patch) = (.ok none, after) ∧
        after.tables.find? .datastream (environment.fresh 1) = some stream ∧
        after.tables.find? .unitOfMeasurement stream.unit = some row ∧
        (after.tables.represent "" .datastream stream).member? "unitOfMeasurement" =
          some (UnitOfMeasurement.represent (some row)) ∧
        row.name = some "a" ∧ row.definition = some "x" := by
  refine ⟨reachable, later_fresh unstarred, read_patch, rfl, _, _, Prod.ext succeeds_patch rfl,
    found_patched, unit_patched, ?_, rfl, rfl⟩
  rw [Tables.unit_represent, unit_patched]

/-- The patched datastream is measured in the symbol that it was measured in. -/
theorem datastream_measured_patched : ∃ after : Store,
    store.change later (Change.ofRequest patch) = (.ok none, after) ∧
      store.tables.Measured patchDraft ⟨some "b", some "s", some "y"⟩ (environment.fresh 1)
        after.tables := by
  have succeeded : store.change later (Change.ofRequest patch) = (.ok none, _) :=
    Prod.ext succeeds_patch rfl
  exact ⟨_, succeeded, datastream_measured reachable (later_fresh unstarred) .patched read_patch rfl
    succeeded⟩

end Store

end SensorThings
