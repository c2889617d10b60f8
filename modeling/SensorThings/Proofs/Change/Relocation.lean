import SensorThings.Proofs.Change.Lasting
import SensorThings.Proofs.Change.Licensed
import SensorThings.Proofs.Change.Patches

/-!
Moves of a thing by reference. A thing that is put at other locations, by a patch or by a location
that lists it, gets just one historical location for the move, unless it is left nowhere. What is
made on the way records nothing about it.
-/
namespace SensorThings

/-- Making things does not move a thing that exists, nor records where it was. -/
def Link.Spare (links : List (Link ThingDraft)) (thing : EntityId) : Prop :=
  thing ∉ Link.references links ∧
    ∀ outer ∈ AnyDraft.bodies .thing links, ∀ nested, outer.Nests nested → thing ∉ nested.things

/-- A draft of a location lists a thing that exists, once, and some others. It lists no historical
location, and what it nests refers to none that is yet to be drawn. -/
structure LocationDraft.ListsOnce (draft : LocationDraft) (environment : Environment)
    (thing : EntityId) (others : List (Link ThingDraft)) : Prop where
  listed : ∃ earlier later, draft.things = some (earlier ++ .reference thing :: later) ∧
    others = earlier ++ later
  once : Link.Spare others thing
  unrecorded : draft.historicalLocations.getD [] = []
  undrawn : ∀ outer ∈ AnyDraft.bodies .thing others, ∀ nested, outer.Nests nested →
    ∀ record ∈ nested.records, ∀ number, environment.fresh number ≠ record

namespace Tables

def IsRecord (tables : Tables) (meant : EntityId → Prop) (id : EntityId) : Prop :=
  ∃ record : HistoricalLocation, tables.find? .historicalLocation id = some record ∧
    meant record.thing

/-- A thing that was found as it is here is at the given locations now. If it was elsewhere, or in
another order, and is not nowhere now, just one historical location tells so, among those of the
things that are meant; else none is added. The order matters only where locations are several. -/
structure Tracks (environment : Environment) (id : EntityId) (places : List EntityId)
    (meant : EntityId → Prop) (old : Thing) (before after : Tables) : Prop where
  moved : ∃ new : Thing, after.find? .thing id = some new ∧ new.locations = places
  recorded : places ≠ old.locations → places ≠ [] → ∃ record,
    before.find? .historicalLocation record = none ∧
    after.find? .historicalLocation record =
      some ⟨record, environment.now, id, IdSet.ofIds places⟩ ∧
    (∀ place ∈ places, ∃ location : Location, after.find? .location place = some location ∧
      record ∈ location.historicalLocations.items) ∧
    ∀ other, after.IsRecord meant other ↔ other = record ∨ before.IsRecord meant other
  unrecorded : places = old.locations ∨ places = [] →
    ∀ other, after.IsRecord meant other ↔ before.IsRecord meant other
  reordered : places ≠ old.locations →
    (∀ place, place ∈ places ↔ place ∈ old.locations) → 1 < places.length

theorem AddsRecord.isRecord {before after : Tables} {historical : HistoricalLocation}
    {meant : EntityId → Prop} (adds : before.AddsRecord historical after)
    (isMeant : meant historical.thing) (id : EntityId) :
    after.IsRecord meant id ↔ id = historical.id ∨ before.IsRecord meant id := by
  constructor
  · rintro ⟨record, found, recordMeant⟩
    rw [adds.records] at found
    split at found
    next same => exact .inl same.symm
    next => exact .inr ⟨record, found, recordMeant⟩
  · rintro (rfl | ⟨record, found, recordMeant⟩)
    · exact ⟨historical, adds.find?_self, isMeant⟩
    · exact ⟨record, adds.find?_of_some found, recordMeant⟩

@[simp] theorem isRecord_put_thing (tables : Tables) (thing : Thing) (meant : EntityId → Prop)
    (id : EntityId) : (tables.put .thing thing).IsRecord meant id ↔ tables.IsRecord meant id := by
  unfold IsRecord
  simp

theorem several_of_reordered {old places : List EntityId} (distinct : old.Nodup)
    (moved : places ≠ old) (same : ∀ place, place ∈ places ↔ place ∈ old) : 1 < places.length := by
  match places with
  | [] => exact absurd (List.eq_nil_iff_forall_not_mem.2 fun place => by simp [← same]).symm moved
  | [place] =>
    have permuted : [place].Perm old :=
      (List.perm_ext_iff_of_nodup (by simp) distinct).2 same
    exact absurd (List.perm_singleton.1 permuted.symm).symm moved
  | _ :: _ :: _ => simp

theorem Patched.tracks {environment : Environment} {id : EntityId} {body : Json}
    {before after : Tables} {draft : ThingDraft} {links : List (Link LocationDraft)} {old : Thing}
    (patched : before.Patched environment id body after .thing)
    (read : ThingDraft.ofJson? body = some draft) (given : draft.locations = some links)
    (found : before.find? .thing id = some old) (distinct : old.locations.Nodup) :
    before.Tracks environment id (Link.references links).eraseDups (fun _ => True) old after := by
  cases patched with
  | thing other readHere older new olderFound patches rest =>
    obtain rfl := Option.some.inj (read.symm.trans readHere)
    obtain rfl := Option.some.inj (found.symm.trans olderFound)
    have places := patches.locations.present links given
    have identified : new.id = id := patches.id.trans (idOf_of_find? found)
    rw [← places]
    obtain ⟨stayed, rfl⟩ | ⟨-, moved, somewhere, record, adds⟩ := rest
    · refine ⟨⟨new, find?_put_self _ _ identified, rfl⟩, ?_, ?_, several_of_reordered distinct⟩
      · intro moved somewhere
        exact (stayed.elim moved somewhere).elim
      · exact fun _ => isRecord_put_thing before new _
    · constructor
      case moved =>
        refine ⟨new, ?_, rfl⟩
        rw [adds.others id (by decide) (by decide)]
        exact find?_put_self _ _ identified
      case recorded =>
        intro _ _
        have free := adds.free
        rw [find?_put_of_ne _ _ _ (by decide)] at free
        refine ⟨record, free, adds.find?_self, ?_, ?_⟩
        · exact fun place member => adds.listed (IdSet.mem_ofIds_iff.2 member)
        · intro other
          rw [adds.isRecord trivial, isRecord_put_thing]
      case unrecorded =>
        intro stayed
        exact (stayed.elim moved somewhere).elim
      case reordered => exact several_of_reordered distinct

/-- Things that are meant are as they were, and their historical locations were there. None of these
that was drawn is changed. -/
structure Untouched (environment : Environment) (meant : EntityId → Prop) (origin tables : Tables) :
    Prop where
  things : ∀ id, meant id → tables.find? .thing id = origin.find? .thing id
  records : ∀ id (record : HistoricalLocation),
    tables.find? .historicalLocation id = some record → meant record.thing →
      ∃ old, origin.find? .historicalLocation id = some old ∧
        (record = old ∨ ∀ number, environment.fresh number ≠ id)

end Tables

/-- Nothing may be written about the things that are meant, and no historical location that is drawn
gets another location. -/
def Licence.sparing (environment : Environment) (meant : EntityId → Prop) : Licence where
  measures := fun _ => True
  writes := fun key => key.kind = .thing → ¬meant key.id
  lengthens := fun id => ∀ number, environment.fresh number ≠ id

namespace Tables

variable {environment : Environment} {meant : EntityId → Prop} {origin tables : Tables}

theorem Untouched.refl (environment : Environment) (meant : EntityId → Prop) (tables : Tables) :
    tables.Untouched environment meant tables :=
  ⟨fun _ _ => rfl, fun _ record found _ => ⟨record, found, .inl rfl⟩⟩

theorem Untouched.things_put (untouched : origin.Untouched environment meant tables)
    {kind : EntityKind} (different : kind ≠ .thing) (entity : kind.Entity) (id : EntityId)
    (isMeant : meant id) :
    (tables.put kind entity).find? .thing id = origin.find? .thing id := by
  simpa [different.symm] using untouched.things id isMeant

theorem Untouched.records_put (untouched : origin.Untouched environment meant tables)
    {kind : EntityKind} (different : kind ≠ .historicalLocation) (entity : kind.Entity)
    (id : EntityId) (record : HistoricalLocation)
    (found : (tables.put kind entity).find? .historicalLocation id = some record)
    (isMeant : meant record.thing) : ∃ old, origin.find? .historicalLocation id = some old ∧
      (record = old ∨ ∀ number, environment.fresh number ≠ id) := by
  rw [find?_put_of_ne _ _ _ different.symm] at found
  exact untouched.records id record found isMeant

theorem untouched_survivesCreation (there : ∀ id, meant id → origin.contains .thing id = true)
    (undrawn : ∀ id, meant id → ∀ number, environment.fresh (number + 1) ≠ id) :
    SurvivesCreation environment (.sparing environment meant)
      (origin.Untouched environment meant) := by
  constructor
  case free =>
    rintro tables kind id untouched free rfl isMeant
    rw [contains, untouched.things id isMeant, ← contains, there id isMeant] at free
    contradiction
  case drawn =>
    intro kind number _ isMeant
    exact undrawn _ isMeant number rfl
  case ignores =>
    intro kind plain tables entity untouched
    simp only [List.mem_cons, not_or] at plain
    exact ⟨untouched.things_put plain.1 entity, untouched.records_put plain.2.1 entity⟩
  case unit =>
    intro tables draft id _ untouched
    exact ⟨untouched.things_put (by decide) _, untouched.records_put (by decide) _⟩
  case thing =>
    intro tables thing licensed untouched
    refine ⟨fun id isMeant => ?_, untouched.records_put (by decide) _⟩
    rw [find?_put, if_neg]
    · exact untouched.things id isMeant
    · rintro rfl
      exact licensed rfl isMeant
  case record =>
    intro tables record _ licensed untouched
    refine ⟨untouched.things_put (by decide) _, fun id row found isMeant => ?_⟩
    rw [find?_put] at found
    split at found
    next =>
      obtain rfl := Option.some.inj found
      exact absurd isMeant (licensed rfl)
    next => exact untouched.records id row found isMeant
  case lengthen =>
    intro tables id record location licensed found untouched
    refine ⟨untouched.things_put (by decide) _, fun place row rowFound isMeant => ?_⟩
    rw [find?_put] at rowFound
    split at rowFound
    next same =>
      obtain rfl := Option.some.inj rowFound
      obtain rfl : id = place := (idOf_of_find? found).symm.trans same
      obtain ⟨old, oldFound, -⟩ := untouched.records id record found isMeant
      exact ⟨old, oldFound, .inr licensed⟩
    next => exact untouched.records place row rowFound isMeant

namespace Untouched

theorem isRecord (untouched : origin.Untouched environment meant tables)
    (leaves : origin.Leaves tables) (id : EntityId) :
    tables.IsRecord meant id ↔ origin.IsRecord meant id := by
  constructor
  · rintro ⟨record, found, isMeant⟩
    obtain ⟨old, oldFound, -⟩ := untouched.records id record found isMeant
    obtain ⟨new, newFound, lasts⟩ := leaves .historicalLocation id old oldFound
    obtain rfl := Option.some.inj (found.symm.trans newFound)
    exact ⟨old, oldFound, lasts.record ▸ isMeant⟩
  · rintro ⟨old, oldFound, isMeant⟩
    obtain ⟨new, newFound, lasts⟩ := leaves .historicalLocation id old oldFound
    exact ⟨new, newFound, lasts.record.symm ▸ isMeant⟩

theorem drawn (untouched : origin.Untouched environment meant tables)
    (leaves : origin.Leaves tables) {number : Nat} {record : HistoricalLocation}
    (found : origin.find? .historicalLocation (environment.fresh number) = some record)
    (isMeant : meant record.thing) :
    tables.find? .historicalLocation (environment.fresh number) = some record := by
  obtain ⟨new, newFound, lasts⟩ := leaves .historicalLocation _ record found
  obtain ⟨old, oldFound, same | undrawn⟩ :=
    untouched.records _ new newFound (lasts.record.symm ▸ isMeant)
  · obtain rfl := Option.some.inj (found.symm.trans oldFound)
    exact same ▸ newFound
  · exact absurd rfl (undrawn number)

end Untouched

theorem Relocates.tracks {id : EntityId} {places : List EntityId} {old : Thing}
    {before first second after : Tables} (relocates : first.Relocates environment id places second)
    (earlier : before.Untouched environment meant first) (left : before.Leaves first)
    (later : second.Untouched environment meant after) (leftLater : second.Leaves after)
    (growth : second.Extends after) (found : before.find? .thing id = some old)
    (isMeant : meant id) (distinct : old.locations.Nodup) :
    before.Tracks environment id places meant old after := by
  have here : first.find? .thing id = some old := (earlier.things id isMeant).trans found
  have records : ∀ other, first.IsRecord meant other ↔ before.IsRecord meant other :=
    earlier.isRecord left
  have recordsLater : ∀ other, after.IsRecord meant other ↔ second.IsRecord meant other :=
    later.isRecord leftLater
  constructor
  case moved =>
    obtain ⟨thing, -, moved⟩ := relocates.moved
    exact ⟨_, (later.things id isMeant).trans moved, rfl⟩
  case recorded =>
    intro moved somewhere
    cases relocates with
    | stays thing thingFound same =>
      obtain rfl := Option.some.inj (here.symm.trans thingFound)
      exact absurd same.symm moved
    | leaves _ _ _ nowhere => exact absurd nowhere somewhere
    | arrives thing thingFound _ _ number adds =>
      have free := adds.free
      rw [find?_put_of_ne _ _ _ (by decide)] at free
      refine ⟨environment.fresh number, left.free_before free, ?_, ?_, ?_⟩
      · exact later.drawn leftLater adds.find?_self isMeant
      · intro place member
        obtain ⟨location, locationFound, lists⟩ := adds.listed (IdSet.mem_ofIds_iff.2 member)
        obtain ⟨new, newFound, kept⟩ := growth ⟨.location, place⟩ location locationFound
        exact ⟨new, newFound, kept _ lists⟩
      · intro other
        rw [recordsLater, adds.isRecord isMeant, isRecord_put_thing, records]
  case unrecorded =>
    intro stayed other
    rw [recordsLater, ← records]
    cases relocates with
    | stays _ _ _ unchanged => rw [unchanged]
    | leaves thing _ _ _ left => rw [left, isRecord_put_thing]
    | arrives thing thingFound elsewhere somewhere =>
      obtain rfl := Option.some.inj (here.symm.trans thingFound)
      exact (stayed.elim elsewhere.symm somewhere).elim
  case reordered => exact several_of_reordered distinct

end Tables

@[simp]
theorem AnyDraft.bodies_append {α : Type} (wrap : α → AnyDraft) (first second : List (Link α)) :
    bodies wrap (first ++ second) = bodies wrap first ++ bodies wrap second := by
  simp [bodies, Link.bodies]

namespace Outline

@[simp] theorem keys_ofThings_append (first second : List (Link ThingDraft)) :
    (ofThings (first ++ second)).keys = (ofThings first).keys ++ (ofThings second).keys := by
  induction first with
  | nil => simp [ofThings, keys]
  | cons link rest ih => simp [ofThings, ih]

end Outline

namespace Change

variable {environment : Environment} {before after : Progress} {location id : EntityId}

@[simp] theorem returns_createThingsAt_append {first second : List (Link ThingDraft)} :
    (createThingsAt location (first ++ second)).Returns environment before () after ↔
      ∃ middle, (createThingsAt location first).Returns environment before () middle ∧
        (createThingsAt location second).Returns environment middle () after := by
  induction first generalizing before with
  | nil => simp [createThingsAt, returns_pure]
  | cons link rest ih =>
    simp only [List.cons_append, createThingsAt, returns_bind, ih]
    constructor
    · rintro ⟨thing, _, made, _, _, moved, middle, restRan, ran⟩
      exact ⟨middle, ⟨thing, _, made, _, _, moved, restRan⟩, ran⟩
    · rintro ⟨middle, ⟨thing, _, made, _, _, moved, restRan⟩, ran⟩
      exact ⟨thing, _, made, _, _, moved, middle, restRan, ran⟩

theorem returns_attachListedHistory_nil {owner : HistoryOwner}
    {links : Option (List (Link HistoricalLocationDraft))} (none : links.getD [] = [])
    (ran : (attachListedHistory owner links).Returns environment before () after) :
    before = after := by
  cases links with
  | none => exact (returns_pure.1 ran).2
  | some links =>
    obtain rfl : links = [] := none
    exact (returns_pure.1 ran).2

theorem Returns.createThingsAt_tracks {origin : Tables} {meant : EntityId → Prop}
    {earlier later : List (Link ThingDraft)} {thing : EntityId} {old : Thing}
    (ran : (createThingsAt location (earlier ++ .reference thing :: later)).Returns environment
      before () after)
    (fresh : environment.Fresh (Outline.ofThings (earlier ++ .reference thing :: later)).keys before)
    (untouched : origin.Untouched environment meant before.tables)
    (left : origin.Leaves before.tables)
    (there : ∀ id, meant id → origin.contains .thing id = true)
    (undrawn : ∀ id, meant id → ∀ number, environment.fresh (number + 1) ≠ id)
    (place : before.tables.contains .location location = true)
    (covered : (Licence.sparing environment meant).CoversAll .thing (earlier ++ later))
    (unreferred : ∀ id ∈ Link.references (earlier ++ later), ¬meant id)
    (found : origin.find? .thing thing = some old) (isMeant : meant thing)
    (distinct : old.locations.Nodup) :
    origin.Tracks environment thing [location] meant old after.tables := by
  obtain ⟨first, earlierRan, ran⟩ := returns_createThingsAt_append.1 ran
  simp only [createThingsAt, createThing, returns_bind, returns_existing] at ran
  obtain ⟨_, _, ⟨-, rfl, rfl⟩, _, second, moveRan, laterRan⟩ := ran
  rw [Licence.CoversAll, AnyDraft.bodies_append, List.forall_mem_append] at covered
  rw [Link.references, List.filterMap_append, List.forall_mem_append] at unreferred
  rw [Outline.keys_ofThings_append] at fresh
  have earlierMade := made_createThingsAt location earlier earlierRan place
  have earlierPlace := earlierMade.contains place
  have moved := moveRan.moveThing (by simp) (by simpa using earlierPlace)
  have laterMade := made_createThingsAt location later laterRan (moved.contains earlierPlace)
  have freshEarlier := fresh.mono fun _ member => List.mem_append_left _ member
  have freshMove := earlierMade.fresh fresh
  have freshLater : environment.Fresh (Outline.ofThings later).keys second :=
    moved.fresh (by simpa [Outline.ofThings, Outline.ofThing, Outline.keys] using freshMove)
  have leftFirst := left.trans (earlierMade.leaves freshEarlier)
  have leftSecond := leftFirst.trans (moved.leaves (freshMove.mono (by simp [Outline.keys])))
  have survives := Tables.untouched_survivesCreation there undrawn
  have survivesLater : SurvivesCreation environment (.sparing environment meant) _ :=
    Tables.untouched_survivesCreation (fun id isMeant => leftSecond.contains (there id isMeant))
      undrawn
  have untouchedFirst := (maintains_createThingsAt survives location earlier covered.1
    (fun id member _ => unreferred.1 id member) earlierRan untouched).1
  have untouchedLast := (maintains_createThingsAt survivesLater location later covered.2
    (fun id member _ => unreferred.2 id member) laterRan (.refl ..)).1
  exact (moveRan.relocates freshMove).tracks untouchedFirst leftFirst untouchedLast
    (laterMade.leaves freshLater) (laterMade.growth freshLater) found isMeant distinct

theorem Returns.insertLocation_tracks {tables : Tables} {draft : LocationDraft}
    {thing : EntityId} {others : List (Link ThingDraft)} {old : Thing}
    (ran : (insertLocation draft).Returns environment (.start tables) id after)
    (fresh : environment.Fresh (Outline.ofLocationDraft draft).keys (.start tables))
    (lists : draft.ListsOnce environment thing others)
    (found : tables.find? .thing thing = some old) (distinct : old.locations.Nodup) :
    tables.Tracks environment thing [id]
      (fun other => tables.contains .thing other = true ∧ Link.Spare others other) old
      after.tables := by
  obtain ⟨⟨earlier, later, listed, rfl⟩, once, unrecorded, unlengthened⟩ := lists
  obtain ⟨given, name, description, type, geometry, properties, things, histories⟩ := draft
  obtain rfl : things = some (earlier ++ .reference thing :: later) := listed
  generalize meantIs : (fun other => tables.contains .thing other = true ∧
    Link.Spare (earlier ++ later) other) = meant
  have isMeant : ∀ {other}, meant other ↔ tables.contains .thing other = true ∧
      Link.Spare (earlier ++ later) other := by simp [← meantIs]
  have undrawn : ∀ other, meant other → ∀ number, environment.fresh (number + 1) ≠ other := by
    rintro other meantOther number rfl
    have unused := fresh.unused (number + 1) (Nat.succ_pos number) .thing
    exact Bool.noConfusion (unused.symm.trans (isMeant.1 meantOther).1)
  have survives := Tables.untouched_survivesCreation (fun _ meantOther => (isMeant.1 meantOther).1)
    undrawn
  unfold insertLocation createListedThingsAt at ran
  simp only [returns_bind, returns_pure] at ran
  obtain ⟨_, first, locationRan, _, last, thingsRan, _, _, historiesRan, rfl, rfl⟩ := ran
  obtain rfl := returns_attachListedHistory_nil unrecorded historiesRan
  have location := locationRan.addLocation
  unfold Outline.ofLocationDraft at fresh
  rw [← Outline.named_append] at fresh
  have freshThings := (fresh.right location.creation).left
  have untouched := preserves_addLocation (survives.ignores (by decide)) _ _ _ _ _ _ locationRan
    (.refl ..)
  refine thingsRan.createThingsAt_tracks freshThings untouched.1
    (location.creation.leaves fresh.left) (fun _ meantOther => (isMeant.1 meantOther).1) undrawn
    location.there ?_ ?_ found (isMeant.2 ⟨Tables.contains_of_find? found, once⟩) distinct
  · intro outer member nested nests
    refine ⟨fun _ _ => trivial, ?_, unlengthened outer member nested nests⟩
    intro id listed _ meantId
    exact (isMeant.1 meantId).2.2 outer member nested nests listed
  · exact fun id member meantId => (isMeant.1 meantId).2.1 member

end Change

/-- A request puts a thing at some locations by reference: a patch that lists them, or a new
location that lists the thing. Those that are meant are the things about which the request records
nothing besides. -/
inductive ChangeRequest.Moves (environment : Environment) (tables : Tables) (thing : EntityId) :
    ChangeRequest → Option EntityId → List EntityId → (EntityId → Prop) → Prop where
  | patch {body : Json} {draft : ThingDraft} {links : List (Link LocationDraft)}
      (read : ThingDraft.ofJson? body = some draft) (given : draft.locations = some links) :
      Moves environment tables thing (.revise .thing thing body) none
        (Link.references links).eraseDups fun _ => True
  | location {body : Json} {draft : LocationDraft} {others : List (Link ThingDraft)} {id : EntityId}
      (read : LocationDraft.ofJson? body = some draft)
      (lists : draft.ListsOnce environment thing others) :
      Moves environment tables thing (.create .location body) (some id) [id] fun other =>
        tables.contains .thing other = true ∧ Link.Spare others other

namespace Store

/-- A request that puts a thing at other locations by reference adds just one historical location
for it, with the time of the request and all the new locations, and each of these lists it. Where
the thing stays, or is nowhere in the end, none is added. -/
theorem relocation_tracked {allowed : ChangeRequest → Prop} {store after : Store}
    {environment : Environment} {request : ChangeRequest} {result : Option EntityId}
    {thing : EntityId} {places : List EntityId} {meant : EntityId → Prop} {old : Thing}
    (reachable : store.Reachable allowed)
    (fresh : environment.Fresh request.keys (.start store.tables))
    (moves : request.Moves environment store.tables thing result places meant)
    (found : store.tables.find? .thing thing = some old)
    (succeeded : store.change environment (Change.ofRequest request) = (.ok result, after)) :
    store.tables.Tracks environment thing places meant old after.tables := by
  have distinct : old.locations.Nodup := (reachable.linked .thing thing old found).1
  obtain ⟨last, ran, tables⟩ := returns_of_change succeeded
  rw [tables]
  cases moves with
  | patch read given =>
    obtain ⟨revised, -⟩ := Change.returns_ofRequest_revise.1 ran
    exact (revised.patched (fresh.mono (by simp))).tracks read given found distinct
  | @location body draft others id read lists =>
    obtain ⟨earlier, later, listed, -⟩ := lists.listed
    have whole : draft.link = .body draft := by
      have fields : draft.hasFields = true := by simp [LocationDraft.hasFields, listed]
      rw [LocationDraft.link, fields, Link.make_true]
    simp only [ChangeRequest.keys, Outline.ofJson, read, Option.map_some, Option.getD_some, whole,
      Outline.ofLocation] at fresh
    obtain ⟨_, created, ⟨⟩⟩ := Change.returns_ofRequest_create.1 ran
    simp only [Change.create, Change.returns_bind, Change.returns_draft] at created
    obtain ⟨_, _, ⟨readHere, rfl⟩, inserted⟩ := created
    obtain rfl := Option.some.inj (read.symm.trans readHere)
    rw [whole, Change.createLocation] at inserted
    exact inserted.insertLocation_tracks fresh lists found distinct

end Store

/-! A location that lists the thing of the first observation, which is nowhere yet. -/
namespace ListedThing

open FirstObservation

def reference : Json :=
  .object [("@iot.id", .string "++")]

def body : Json :=
  described [("encodingType", .string "e"),
    ("location", .object [("type", .string "MultiPoint"), ("coordinates", .array [])]),
    ("Things", .array [reference])]

def draft : LocationDraft :=
  ⟨none, some "n", some "d", some "e", some (.bare (.multiPoint [])), none,
    some [.reference (environment.fresh 2)], none⟩

theorem read_body : LocationDraft.ofJson? body = some draft := by
  have things : body.inners? LocationDraft.names "Things" =
      some (some [⟨reference, by decide⟩]) := rfl
  have named : ThingDraft.ofJson? reference = some (.ofId (environment.fresh 2)) := by
    rw [ThingDraft.ofJson?]
    rfl
  rw [LocationDraft.ofJson?, things]
  simp only [Option.bind_eq_bind, Option.bind_some, Option.mapM_some, List.mapM_cons,
    List.mapM_nil, named]
  rfl

theorem listsOnce : draft.ListsOnce later (environment.fresh 2) [] where
  listed := ⟨[], [], rfl, rfl⟩
  once := ⟨by simp [Link.references], by simp⟩
  unrecorded := rfl
  undrawn := by simp

theorem found : store.tables.find? .thing (environment.fresh 2) =
    some ⟨environment.fresh 2, "n", "d", none, []⟩ := by
  unfold store Store.change Change.start request
  simp only [Change.ofRequest, Change.create, Change.draft, FirstObservation.read_body]
  rfl

theorem succeeds : (store.change later (Change.ofRequest (.create .location body))).1 =
    .ok (some (later.fresh 1)) := by
  unfold store Store.change Change.start request
  simp only [Change.ofRequest, Change.create, Change.draft, FirstObservation.read_body, read_body]
  rfl

theorem fresh : later.Fresh (ChangeRequest.create .location body).keys (.start store.tables) := by
  have nothing : (ChangeRequest.create .location body).keys = [] := by
    simp only [ChangeRequest.keys, Outline.ofJson, read_body]
    rfl
  rw [nothing]
  exact later_fresh unstarred

end ListedThing

namespace Store

open FirstObservation (environment later store)
open ListedThing

/-- The move of the thing to its first location is recorded. -/
theorem relocation_tracked_first_location : ∃ after : Store,
    store.change later (Change.ofRequest (.create .location body)) =
        (.ok (some (later.fresh 1)), after) ∧
      store.tables.Tracks later (environment.fresh 2) [later.fresh 1]
        (fun other => store.tables.contains .thing other = true ∧ Link.Spare [] other)
        ⟨environment.fresh 2, "n", "d", none, []⟩ after.tables := by
  have succeeded : store.change later (Change.ofRequest (.create .location body)) =
      (.ok (some (later.fresh 1)), _) := Prod.ext succeeds rfl
  have reached : store.Reachable fun _ => True := FirstObservation.reachable trivial
  exact ⟨_, succeeded, relocation_tracked reached fresh (.location read_body listsOnce) found
    succeeded⟩

end Store

end SensorThings
