import SensorThings.Proofs.Change.Flattening
import SensorThings.Proofs.Change.Provision
import SensorThings.Proofs.Change.Writing

/-!
What stands in a draft, at whatever depth, and what making the draft may write because of it. Units
are made from the units that stand in it; things that exist are moved or get into records only where
it refers to them, and records that exist get another location only where it refers to those.
-/
namespace SensorThings

/-- A draft of any kind. -/
inductive AnyDraft where
  | thing (draft : ThingDraft)
  | location (draft : LocationDraft)
  | historicalLocation (draft : HistoricalLocationDraft)
  | sensor (draft : SensorDraft)
  | observedProperty (draft : ObservedPropertyDraft)
  | datastream (draft : DatastreamDraft)
  | feature (draft : FeatureDraft)
  | observation (draft : ObservationDraft)

namespace AnyDraft

section

variable {α : Type} (wrap : α → AnyDraft)

def bodies (links : List (Link α)) : List AnyDraft :=
  (Link.bodies links).map wrap

@[simp] theorem bodies_nil : bodies wrap [] = [] := rfl

@[simp] theorem bodies_reference (id : EntityId) (rest : List (Link α)) :
    bodies wrap (.reference id :: rest) = bodies wrap rest := rfl

@[simp] theorem bodies_body (draft : α) (rest : List (Link α)) :
    bodies wrap (.body draft :: rest) = wrap draft :: bodies wrap rest := rfl

end

def inner : AnyDraft → List AnyDraft
  | thing draft =>
    bodies location (draft.locations.getD []) ++ bodies datastream (draft.datastreams.getD []) ++
      bodies historicalLocation (draft.historicalLocations.getD [])
  | location draft =>
    bodies thing (draft.things.getD []) ++
      bodies historicalLocation (draft.historicalLocations.getD [])
  | historicalLocation draft =>
    bodies thing draft.thing.toList ++ bodies location (draft.locations.getD [])
  | sensor draft => bodies datastream (draft.datastreams.getD [])
  | observedProperty draft => bodies datastream (draft.datastreams.getD [])
  | datastream draft =>
    bodies thing draft.thing.toList ++ bodies sensor draft.sensor.toList ++
      bodies observedProperty draft.observedProperty.toList ++
      bodies observation (draft.observations.getD [])
  | feature draft => bodies observation (draft.observations.getD [])
  | observation draft =>
    bodies datastream draft.datastream.toList ++ bodies feature draft.feature.toList

/-- A draft stands in another one, at some depth, or is it. -/
inductive Nests : AnyDraft → AnyDraft → Prop where
  | self (draft : AnyDraft) : Nests draft draft
  | inside {outer middle draft : AnyDraft} (member : middle ∈ outer.inner)
      (nests : Nests middle draft) : Nests outer draft

def unit? : AnyDraft → Option UnitDraft
  | datastream draft => draft.unit
  | _ => none

/-- The things that a draft refers to in order to move them, or to record where they were. -/
def things : AnyDraft → List EntityId
  | location draft => Link.references (draft.things.getD [])
  | historicalLocation draft => Link.references draft.thing.toList
  | _ => []

/-- The historical locations that a draft refers to in order to give them another location. -/
def records : AnyDraft → List EntityId
  | location draft => Link.references (draft.historicalLocations.getD [])
  | _ => []

end AnyDraft

/-- What making a draft may do: the units that it may make, the things and the historical locations
that it may write as it likes, and the historical locations that it may give another location. -/
structure Licence where
  measures : UnitDraft → Prop
  writes : Key → Prop
  lengthens : EntityId → Prop

namespace Licence

variable (licence : Licence)

/-- A draft itself asks for nothing else. -/
structure Covers (draft : AnyDraft) : Prop where
  unit : ∀ unit, draft.unit? = some unit → licence.measures unit
  things : ∀ id ∈ draft.things, licence.writes ⟨.thing, id⟩
  records : ∀ id ∈ draft.records, licence.lengthens id

def Throughout (draft : AnyDraft) : Prop :=
  ∀ nested, draft.Nests nested → licence.Covers nested

def CoversAll {α : Type} (wrap : α → AnyDraft) (links : List (Link α)) : Prop :=
  ∀ draft ∈ AnyDraft.bodies wrap links, licence.Throughout draft

variable {licence}

theorem Throughout.here {draft : AnyDraft} (covered : licence.Throughout draft) :
    licence.Covers draft :=
  covered draft (.self draft)

theorem Throughout.inner {draft : AnyDraft} (covered : licence.Throughout draft) :
    ∀ middle ∈ draft.inner, licence.Throughout middle :=
  fun _ member nested nests => covered nested (.inside member nests)

section

variable {α : Type} {wrap : α → AnyDraft}

theorem coversAll_cons {link : Link α} {rest : List (Link α)} :
    licence.CoversAll wrap (link :: rest) ↔
      licence.CoversAll wrap [link] ∧ licence.CoversAll wrap rest := by
  cases link <;> simp [CoversAll]

theorem coversAll_body {draft : α} :
    licence.CoversAll wrap [.body draft] ↔ licence.Throughout (wrap draft) := by
  simp [CoversAll]

end

/-! What stands right in a draft of each kind is covered throughout. -/

theorem Throughout.thing {draft : ThingDraft} (covered : licence.Throughout (.thing draft)) :
    licence.CoversAll .location (draft.locations.getD []) ∧
      licence.CoversAll .datastream (draft.datastreams.getD []) ∧
      licence.CoversAll .historicalLocation (draft.historicalLocations.getD []) := by
  have inside := covered.inner
  simp only [AnyDraft.inner, List.forall_mem_append] at inside
  exact ⟨inside.1.1, inside.1.2, inside.2⟩

theorem Throughout.location {draft : LocationDraft}
    (covered : licence.Throughout (.location draft)) :
    licence.CoversAll .thing (draft.things.getD []) ∧
      licence.CoversAll .historicalLocation (draft.historicalLocations.getD []) :=
  List.forall_mem_append.1 covered.inner

theorem Throughout.historicalLocation {draft : HistoricalLocationDraft}
    (covered : licence.Throughout (.historicalLocation draft)) :
    licence.CoversAll .thing draft.thing.toList ∧
      licence.CoversAll .location (draft.locations.getD []) :=
  List.forall_mem_append.1 covered.inner

theorem Throughout.datastream {draft : DatastreamDraft}
    (covered : licence.Throughout (.datastream draft)) :
    licence.CoversAll .thing draft.thing.toList ∧
      licence.CoversAll .sensor draft.sensor.toList ∧
      licence.CoversAll .observedProperty draft.observedProperty.toList ∧
      licence.CoversAll .observation (draft.observations.getD []) := by
  have inside := covered.inner
  simp only [AnyDraft.inner, List.forall_mem_append] at inside
  exact ⟨inside.1.1.1, inside.1.1.2, inside.1.2, inside.2⟩

theorem Throughout.observation {draft : ObservationDraft}
    (covered : licence.Throughout (.observation draft)) :
    licence.CoversAll .datastream draft.datastream.toList ∧
      licence.CoversAll .feature draft.feature.toList :=
  List.forall_mem_append.1 covered.inner

end Licence

namespace Change

variable {α β : Type} {environment : Environment} {holds : Tables → Prop} {good : α → Prop}
  {better : β → Prop}

/-- Where a change succeeds with an environment from tables for which something holds, it holds
afterwards too, and the result is good. -/
def Maintains (environment : Environment) (holds : Tables → Prop) (change : Change α)
    (good : α → Prop) : Prop :=
  ∀ ⦃before value after⦄, change.Returns environment before value after →
    holds before.tables → holds after.tables ∧ good value

theorem Preserves.maintains {change : Change α} (preserves : change.Preserves holds good) :
    change.Maintains environment holds good :=
  @preserves environment

theorem maintains_pure {value : α} (isGood : good value) :
    (pure value : Change α).Maintains environment holds good :=
  (preserves_pure isGood).maintains

theorem Maintains.bind {change : Change α} {next : α → Change β}
    (first : change.Maintains environment holds good)
    (second : ∀ value, good value → (next value).Maintains environment holds better) :
    (change >>= next).Maintains environment holds better := by
  intro before value after ran kept
  obtain ⟨found, middle, firstRan, secondRan⟩ := returns_bind.1 ran
  obtain ⟨keptThen, isGood⟩ := first firstRan kept
  exact second found isGood secondRan keptThen

end Change

/-- Everything that making drafts does within a licence maintains a property. What is claimed may be
written. -/
structure SurvivesCreation (environment : Environment) (licence : Licence)
    (holds : Tables → Prop) : Prop where
  free : ∀ tables kind id, holds tables → tables.contains kind id = false →
    licence.writes ⟨kind, id⟩
  drawn : ∀ kind number, licence.writes ⟨kind, environment.fresh (number + 1)⟩
  ignores : ∀ {kind}, kind ∉ [EntityKind.thing, .historicalLocation, .unitOfMeasurement] →
    Change.Ignores holds kind
  unit : ∀ tables draft id, licence.measures draft → holds tables →
    holds (tables.put .unitOfMeasurement (draft.asUnit id))
  thing : ∀ tables (thing : Thing), licence.writes ⟨.thing, thing.id⟩ → holds tables →
    holds (tables.put .thing thing)
  record : ∀ tables (record : HistoricalLocation), licence.writes ⟨.historicalLocation, record.id⟩ →
    licence.writes ⟨.thing, record.thing⟩ → holds tables →
    holds (tables.put .historicalLocation record)
  lengthen : ∀ tables id (record : HistoricalLocation) location, licence.lengthens id →
    tables.find? .historicalLocation id = some record → holds tables →
    holds (tables.put .historicalLocation (record.joining location))

namespace SurvivesCreation

open Change

variable {environment : Environment} {licence : Licence} {holds : Tables → Prop}
  (survives : SurvivesCreation environment licence holds)

include survives

theorem claim (kind : EntityKind) (given : Option EntityId) :
    (Change.claim kind given).Maintains environment holds fun id => licence.writes ⟨kind, id⟩ := by
  intro before id after ran kept
  obtain ⟨-, rfl, rfl⟩ | ⟨-, free, rfl⟩ := returns_claim.1 ran
  · exact ⟨kept, survives.drawn kind _⟩
  · exact ⟨kept, survives.free _ kind id kept free⟩

theorem unitFor {draft : UnitDraft} (licensed : licence.measures draft) :
    (Change.unitFor draft).Maintains environment holds fun _ => True := by
  have search : (unitOfSymbol? draft.symbol).Preserves holds fun _ => True := by
    cases draft.symbol with
    | none => exact preserves_pure trivial
    | some symbol => exact preserves_idWhere? _ _
  unfold Change.unitFor
  apply search.maintains.bind
  intro found _
  cases found with
  | some found => exact maintains_pure trivial
  | none =>
    refine Preserves.maintains <| preserves_draw.bind fun id _ => ?_
    exact (preserves_save fun tables => survives.unit tables draft id licensed).bind fun _ _ =>
      preserves_pure trivial

theorem recorded (record : HistoricalLocation)
    (licensed : licence.writes ⟨.historicalLocation, record.id⟩)
    (thing : licence.writes ⟨.thing, record.thing⟩) :
    (Change.record record).Maintains environment holds fun _ => True := by
  have saved : (save .historicalLocation record).Preserves holds fun _ => True :=
    preserves_save fun tables => survives.record tables record licensed thing
  refine Preserves.maintains <| saved.bind fun _ _ => preserves_forM fun location _ => ?_
  exact preserves_backlink (survives.ignores (by decide)) _ _

theorem moveThing {id : EntityId} (licensed : licence.writes ⟨.thing, id⟩)
    (places : List EntityId) :
    (Change.moveThing id places).Maintains environment holds fun _ => True := by
  have row : (fetch .thing id).Preserves holds fun thing : Thing => thing.id = id := by
    intro environment before thing after ran kept
    obtain ⟨found, rfl⟩ := (returns_fetch .thing).1 ran
    exact ⟨kept, Tables.idOf_of_find? found⟩
  unfold Change.moveThing
  refine row.maintains.bind ?_
  rintro thing rfl
  split
  · exact maintains_pure trivial
  have saved : (save .thing { thing with locations := places }).Preserves holds fun _ => True :=
    preserves_save fun tables => survives.thing tables _ licensed
  refine saved.maintains.bind fun _ _ => ?_
  split
  · have drawn : draw.Maintains environment holds
        fun id => licence.writes ⟨.historicalLocation, id⟩ := survives.claim _ none
    exact drawn.bind fun recordId recordLicensed => preserves_now.maintains.bind fun now _ =>
      survives.recorded ⟨recordId, now, thing.id, _⟩ recordLicensed licensed
  · exact maintains_pure trivial

theorem settleThing {id : EntityId} (licensed : licence.writes ⟨.thing, id⟩)
    (places : List EntityId) :
    (Change.settleThing id places).Maintains environment holds fun _ => True := by
  unfold Change.settleThing
  split
  · exact survives.moveThing licensed _
  · exact maintains_pure trivial

theorem addThing (id : Option EntityId) (name description : Option String)
    (properties : Option Json) :
    (Change.addThing id name description properties).Maintains environment holds
      fun id => licence.writes ⟨.thing, id⟩ := by
  refine (preserves_member _ _ _).maintains.bind fun name _ =>
    (preserves_member _ _ _).maintains.bind fun description _ =>
    (survives.claim .thing id).bind fun id licensed => ?_
  have saved : (save .thing ⟨id, name, description, properties, []⟩).Preserves holds
      fun _ => True :=
    preserves_save fun tables => survives.thing tables _ licensed
  exact saved.maintains.bind fun _ _ => maintains_pure licensed

theorem linkHistory {id : EntityId} {owner : HistoryOwner}
    (licensed : HistoryOwner.thing? (some owner) = none → licence.lengthens id) :
    (Change.linkHistory id owner).Maintains environment holds fun _ => True := by
  cases owner with
  | thing thing => exact (preserves_throw _).maintains
  | location location =>
    intro before value after ran kept
    unfold Change.linkHistory Change.extendRecord at ran
    simp only [returns_bind, returns_fetch .historicalLocation, returns_save] at ran
    obtain ⟨record, _, ⟨found, rfl⟩, _, _, rfl, linked⟩ := ran
    have lengthened := survives.lengthen _ id record location (licensed rfl) found kept
    refine preserves_backlink (survives.ignores (by decide)) _ _ linked ?_
    rw [Progress.save_tables]
    exact lengthened

theorem addDatastream {unit : UnitDraft} (licensed : licence.measures unit) (id : EntityId)
    (name description : String) (type : ObservationType) (properties : Option Json)
    (thing sensor property : EntityId) :
    (Change.addDatastream id name description unit type properties thing sensor
      property).Maintains environment holds fun _ => True := by
  refine (survives.unitFor licensed).bind fun unit _ => Preserves.maintains ?_
  refine (preserves_formatFor ?_ _).bind fun format _ => Ignores.save ?_ _
  all_goals exact survives.ignores (by decide)

end SurvivesCreation

end SensorThings
