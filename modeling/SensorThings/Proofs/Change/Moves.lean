import SensorThings.Proofs.Change.Freshness

/-!
What a move of a thing writes, row by row. The thing gets its new list of locations; if that is
another list than before and not empty, one historical location is added and listed with each of
them.
-/
namespace SensorThings

theorem Updates.find?_of_apart {kind other : EntityKind} {f : kind.Entity → kind.Entity}
    {ids : List EntityId} {before after : Progress} {id : EntityId}
    (updates : Updates kind f ids before after)
    (apart : ∀ member ∈ ids, (⟨other, id⟩ : Key) ≠ ⟨kind, member⟩) :
    after.tables.find? other id = before.tables.find? other id := by
  by_cases same : other = kind
  · subst same
    have absent : id ∉ ids := fun member => apart id member rfl
    rw [updates.find?]
    simp [absent]
  · exact updates.others id same

namespace Tables

/-- A historical location is added under an identifier that was free, and each of its locations, all
of them there, comes to list it. Nothing else changes. -/
structure AddsRecord (before : Tables) (historical : HistoricalLocation) (after : Tables) :
    Prop where
  free : before.find? .historicalLocation historical.id = none
  records : ∀ id, after.find? .historicalLocation id =
    if historical.id = id then some historical else before.find? .historicalLocation id
  locations : ∀ id, after.find? .location id = (before.find? .location id).map fun row =>
    if id ∈ historical.locations.items then Location.listing historical.id row else row
  there : ∀ id ∈ historical.locations.items, before.contains .location id = true
  others : ∀ {kind} id, kind ≠ .historicalLocation → kind ≠ .location →
    after.find? kind id = before.find? kind id

/-- A thing is put at some locations, which is recorded unless they are those it was at, in the same
order, or there are none. -/
inductive Relocates (environment : Environment) (id : EntityId) (places : List EntityId)
    (before after : Tables) : Prop where
  | stays (thing : Thing) (found : before.find? .thing id = some thing)
      (same : thing.locations = places) (unchanged : after = before)
  | leaves (thing : Thing) (found : before.find? .thing id = some thing)
      (somewhere : thing.locations ≠ []) (nowhere : places = [])
      (left : after = before.put .thing { thing with locations := places })
  | arrives (thing : Thing) (found : before.find? .thing id = some thing)
      (elsewhere : thing.locations ≠ places) (somewhere : places ≠ []) (number : Nat)
      (adds : (before.put .thing { thing with locations := places }).AddsRecord
        ⟨environment.fresh number, environment.now, id, IdSet.ofIds places⟩ after)

@[simp] theorem put_put (tables : Tables) {kind : EntityKind} {first second : kind.Entity}
    (same : kind.idOf second = kind.idOf first) :
    (tables.put kind first).put kind second = tables.put kind second := by
  apply ext_find?
  intro other id
  by_cases here : other = kind
  · subst here
    simp only [find?_put, same]
    split <;> rfl
  · simp only [find?_put_of_ne _ _ _ here]

namespace AddsRecord

variable {before after : Tables} {historical : HistoricalLocation}

theorem find?_self (adds : before.AddsRecord historical after) :
    after.find? .historicalLocation historical.id = some historical := by
  rw [adds.records, if_pos rfl]

theorem find?_of_some (adds : before.AddsRecord historical after) {id : EntityId}
    {row : HistoricalLocation} (found : before.find? .historicalLocation id = some row) :
    after.find? .historicalLocation id = some row := by
  rw [adds.records, if_neg, found]
  rintro rfl
  rw [adds.free] at found
  contradiction

theorem listed (adds : before.AddsRecord historical after) {id : EntityId}
    (member : id ∈ historical.locations.items) :
    ∃ location : Location, after.find? .location id = some location ∧
      historical.id ∈ location.historicalLocations.items := by
  obtain ⟨row, found⟩ := contains_iff.1 (adds.there id member)
  refine ⟨Location.listing historical.id row, ?_, IdSet.mem_insert_iff.2 (.inl rfl)⟩
  rw [adds.locations, found, Option.map_some, if_pos member]

end AddsRecord

namespace Relocates

variable {environment : Environment} {id : EntityId} {places : List EntityId}
  {before after : Tables}

theorem moved (relocates : before.Relocates environment id places after) :
    ∃ thing : Thing, before.find? .thing id = some thing ∧
      after.find? .thing id = some { thing with locations := places } := by
  cases relocates with
  | stays thing found same unchanged =>
    subst same unchanged
    exact ⟨thing, found, found⟩
  | leaves thing found _ _ left =>
    have identified : thing.id = id := idOf_of_find? found
    subst left
    exact ⟨thing, found, find?_put_self _ _ identified⟩
  | arrives thing found _ _ number adds =>
    have identified : thing.id = id := idOf_of_find? found
    refine ⟨thing, found, ?_⟩
    rw [adds.others id (by decide) (by decide)]
    exact find?_put_self _ _ identified

theorem rest {tables : Tables} {thing : Thing}
    (relocates : (tables.put .thing thing).Relocates environment id places after)
    (identified : thing.id = id) :
    (places = thing.locations ∨ places = []) ∧
        after = tables.put .thing { thing with locations := places } ∨
      places ≠ thing.locations ∧ places ≠ [] ∧ ∃ recordId,
        (tables.put .thing { thing with locations := places }).AddsRecord
          ⟨recordId, environment.now, id, IdSet.ofIds places⟩ after := by
  have here : (tables.put .thing thing).find? .thing id = some thing :=
    find?_put_self _ _ identified
  cases relocates with
  | stays row found same unchanged =>
    obtain rfl : row = thing := Option.some.inj (found.symm.trans here)
    subst same
    exact .inl ⟨.inl rfl, unchanged⟩
  | leaves row found _ nowhere left =>
    obtain rfl : row = thing := Option.some.inj (found.symm.trans here)
    exact .inl ⟨.inr nowhere, left.trans (put_put _ rfl)⟩
  | arrives row found elsewhere somewhere number adds =>
    obtain rfl : row = thing := Option.some.inj (found.symm.trans here)
    have written : (tables.put .thing row).put .thing { row with locations := places } =
      tables.put .thing { row with locations := places } := put_put _ rfl
    exact .inr ⟨elsewhere.symm, somewhere, _, written ▸ adds⟩

end Relocates

end Tables

namespace Change

variable {environment : Environment} {before after : Progress} {keys : List Key}

theorem Returns.record_adds {historical : HistoricalLocation}
    (ran : (Change.record historical).Returns environment before () after)
    (free : before.tables.find? .historicalLocation historical.id = none) :
    before.tables.AddsRecord historical after.tables := by
  obtain ⟨updates, there⟩ := ran.record
  constructor
  case free => exact free
  case records =>
    intro id
    rw [updates.others id (by decide), Progress.save_tables, Tables.find?_put]
    rfl
  case locations =>
    intro id
    rw [updates.find?, Progress.find?_save_of_ne _ _ _ (by decide)]
  case there =>
    intro id member
    have later := there id member
    rwa [Progress.save_tables, Tables.contains, Tables.find?_put_of_ne _ _ _ (by decide)] at later
  case others =>
    intro kind id notRecord notLocation
    rw [updates.others id notLocation, Progress.find?_save_of_ne _ _ _ notRecord]

theorem Returns.relocates {id : EntityId} {places : List EntityId}
    (ran : (Change.moveThing id places).Returns environment before () after)
    (fresh : environment.Fresh keys before) :
    before.tables.Relocates environment id places after.tables := by
  unfold Change.moveThing at ran
  simp only [returns_bind, returns_fetch .thing, returns_ite, returns_save, returns_draw,
    returns_now, returns_pure] at ran
  obtain ⟨thing, _, ⟨found, rfl⟩, ⟨same, -, rfl⟩ | ⟨elsewhere, _, _, rfl, ran⟩⟩ := ran
  · exact .stays thing found same rfl
  obtain ⟨somewhere, _, _, ⟨rfl, rfl⟩, _, _, ⟨rfl, rfl⟩, recorded⟩ | ⟨nowhere, -, rfl⟩ := ran
  · have free := fresh.free .historicalLocation
    have adds := recorded.record_adds (by
      rwa [Progress.draw_tables, Progress.find?_save_of_ne _ _ _ (by decide)])
    rw [Progress.draw_tables, Progress.save_tables] at adds
    exact .arrives thing found elsewhere (by simpa using somewhere) _ adds
  · obtain rfl : places = [] := by simpa using nowhere
    exact .leaves thing found elsewhere rfl (Progress.save_tables ..)

end Change

end SensorThings
