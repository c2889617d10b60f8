import SensorThings.Proofs.Change.Run

/-!
What loops over entities write, and with it what movements write: a record is listed with each of
its locations, and nothing else about them changes.
-/
namespace SensorThings

/-- Some entities of one kind are rewritten by a function, or go where it gives none, and all else
stays. -/
structure Rewrites (kind : EntityKind) (f : kind.Entity → Option kind.Entity) (ids : List EntityId)
    (before after : Progress) : Prop where
  rows : ∀ id, after.tables.find? kind id =
    (before.tables.find? kind id).bind fun row => if id ∈ ids then f row else some row
  others : ∀ {other} id, other ≠ kind →
    after.tables.find? other id = before.tables.find? other id
  drawn : after.drawn = before.drawn

namespace Rewrites

variable {kind : EntityKind} {f : kind.Entity → Option kind.Entity} {ids : List EntityId}
  {before middle after : Progress}

theorem nil (progress : Progress) : Rewrites kind f [] progress progress where
  rows := by simp
  others := fun _ _ => rfl
  drawn := rfl

theorem absent {id : EntityId} (missing : before.tables.find? kind id = none) :
    Rewrites kind f [id] before before where
  rows := by
    intro other
    by_cases same : other = id
    · subst same
      rw [missing, Option.bind_none]
    · simp [same]
  others := fun _ _ => rfl
  drawn := rfl

theorem congr {others : List EntityId} (rewrites : Rewrites kind f ids before after)
    (same : ∀ id, id ∈ others ↔ id ∈ ids) : Rewrites kind f others before after where
  rows := by
    intro id
    simp only [rewrites.rows, same]
  others := rewrites.others
  drawn := rewrites.drawn

theorem save {id : EntityId} {row new : kind.Entity}
    (found : before.tables.find? kind id = some row) (given : f row = some new)
    (identified : kind.idOf new = kind.idOf row) :
    Rewrites kind f [id] before (before.save kind new) where
  rows := by
    intro other
    rw [Progress.save_tables, Tables.find?_put, identified, Tables.idOf_of_find? found]
    by_cases same : id = other
    · subst same
      simp [found, given]
    · simp [same, Ne.symm same]
  others := by
    intro other place different
    rw [Progress.find?_save_of_ne _ _ _ different]
  drawn := rfl

theorem delete {environment : Environment} {id : EntityId} {row : kind.Entity}
    (ran : (Change.delete kind id).Returns environment before row after) (given : f row = none) :
    Rewrites kind f [id] before after := by
  obtain ⟨found, removed, drawn⟩ := ran.delete
  constructor
  case rows =>
    intro other
    rw [removed, Tables.find?_remove]
    by_cases same : other = id
    · subst same
      simp [found, given]
    · simp [same]
  case others =>
    intro other place different
    rw [removed, Tables.find?_remove_of_ne _ _ _ different]
  case drawn => exact drawn

theorem cons {id : EntityId} (idempotent : ∀ row new, f row = some new → f new = some new)
    (first : Rewrites kind f [id] before middle) (rest : Rewrites kind f ids middle after) :
    Rewrites kind f (id :: ids) before after where
  rows := by
    intro other
    rw [rest.rows, first.rows, Option.bind_assoc]
    congr 1
    funext row
    by_cases here : other = id
    · subst here
      by_cases later : other ∈ ids
      · cases given : f row with
        | none => simp
        | some new => simp [later, idempotent row new given]
      · simp [later]
    · simp [here]
  others := fun place different =>
    (rest.others place different).trans (first.others place different)
  drawn := rest.drawn.trans first.drawn

theorem forM {environment : Environment} {action : EntityId → Change Unit}
    (idempotent : ∀ row new, f row = some new → f new = some new)
    (step : ∀ id first last, (action id).Returns environment first () last →
      Rewrites kind f [id] first last)
    (ran : (ids.forM action).Returns environment before () after) :
    Rewrites kind f ids before after := by
  induction ids generalizing before with
  | nil =>
    obtain rfl := Change.returns_forM_nil.1 ran
    exact nil before
  | cons id rest ih =>
    obtain ⟨middle, first, ran⟩ := Change.returns_forM_cons.1 ran
    exact cons idempotent (step id before middle first) (ih ran)

end Rewrites

/-- Some entities of one kind are rewritten by a function that lets none go. -/
abbrev Updates (kind : EntityKind) (f : kind.Entity → kind.Entity) (ids : List EntityId)
    (before after : Progress) : Prop :=
  Rewrites kind (fun row => some (f row)) ids before after

namespace Updates

variable {kind : EntityKind} {f : kind.Entity → kind.Entity} {ids : List EntityId}
  {before middle after : Progress}

theorem find? (updates : Updates kind f ids before after) (id : EntityId) :
    after.tables.find? kind id =
      (before.tables.find? kind id).map fun row => if id ∈ ids then f row else row := by
  rw [updates.rows]
  cases before.tables.find? kind id with
  | none => rfl
  | some row => by_cases member : id ∈ ids <;> simp [member]

theorem contains (updates : Updates kind f ids before after) (other : EntityKind)
    (id : EntityId) : after.tables.contains other id = before.tables.contains other id := by
  by_cases same : other = kind
  · subst same
    rw [Tables.contains, updates.find?, Option.isSome_map, Tables.contains]
  · rw [Tables.contains, updates.others id same, Tables.contains]

theorem save {id : EntityId} {row : kind.Entity} (found : before.tables.find? kind id = some row)
    (identified : kind.idOf (f row) = kind.idOf row) :
    Updates kind f [id] before (before.save kind (f row)) :=
  Rewrites.save found rfl identified

theorem cons {id : EntityId} (idempotent : ∀ row, f (f row) = f row)
    (first : Updates kind f [id] before middle) (rest : Updates kind f ids middle after) :
    Updates kind f (id :: ids) before after := by
  apply Rewrites.cons _ first rest
  rintro row _ ⟨⟩
  rw [idempotent]

theorem forM {environment : Environment} {action : EntityId → Change Unit}
    (idempotent : ∀ row, f (f row) = f row)
    (step : ∀ id first last, (action id).Returns environment first () last →
      Updates kind f [id] first last)
    (ran : (ids.forM action).Returns environment before () after) :
    Updates kind f ids before after := by
  apply Rewrites.forM _ step ran
  rintro row _ ⟨⟩
  rw [idempotent]

end Updates

/-- A location that lists a historical location besides those it listed. -/
def Location.listing (historical : EntityId) (location : Location) : Location :=
  { location with historicalLocations := location.historicalLocations.insert historical }

def HistoricalLocation.joining (location : EntityId) (historical : HistoricalLocation) :
    HistoricalLocation :=
  { historical with locations := historical.locations.insert location }

@[simp] theorem Location.listing_of_mem {location : Location} {historical : EntityId}
    (member : historical ∈ location.historicalLocations.items) :
    location.listing historical = location := by
  rw [listing, IdSet.insert_of_mem member]

@[simp] theorem Location.listing_listing (historical : EntityId) (location : Location) :
    (location.listing historical).listing historical = location.listing historical :=
  listing_of_mem (IdSet.mem_insert_iff.2 (.inl rfl))

/-- Some locations, all of them there, come to list a historical location. -/
structure Lists (historical : EntityId) (locations : List EntityId) (before after : Progress) :
    Prop where
  updates : Updates .location (Location.listing historical) locations before after
  there : ∀ id ∈ locations, before.tables.contains .location id = true

namespace Change

variable {environment : Environment} {before after : Progress}

theorem Returns.backlink {historical location : EntityId}
    (ran : (backlink historical location).Returns environment before () after) :
    Lists historical [location] before after := by
  unfold Change.backlink at ran
  simp only [returns_bind, returns_fetch .location, returns_ite, returns_save, returns_pure] at ran
  obtain ⟨found, _, ⟨here, rfl⟩, written⟩ := ran
  have there : ∀ id ∈ [location], before.tables.contains .location id = true := by
    intro id member
    rw [List.mem_singleton.1 member]
    exact Tables.contains_of_find? here
  have saved : Updates .location (Location.listing historical) [location] before
      (before.save .location (found.listing historical)) := .save here rfl
  obtain ⟨-, rfl⟩ | ⟨listed, -, rfl⟩ := written
  · exact ⟨saved, there⟩
  · have member : historical ∈ found.historicalLocations.items :=
      IdSet.contains_iff.1 (by simpa using listed)
    have same : (before.save .location (found.listing historical)).tables = before.tables := by
      rw [Location.listing_of_mem member, Progress.save_tables, Tables.put_self here]
    exact ⟨⟨fun id => same ▸ saved.rows id, fun _ _ => rfl, rfl⟩, there⟩

theorem Returns.backlinks {historical : EntityId} {locations : List EntityId}
    (ran : (locations.forM fun location => Change.backlink historical location).Returns environment
      before () after) : Lists historical locations before after := by
  have updates := Updates.forM (Location.listing_listing historical)
    (fun _ _ _ first => first.backlink.updates) ran
  refine ⟨updates, ?_⟩
  induction locations generalizing before with
  | nil => simp
  | cons location rest ih =>
    obtain ⟨middle, first, ran⟩ := returns_forM_cons.1 ran
    have later := ih ran (Updates.forM (Location.listing_listing historical)
      (fun _ _ _ first => first.backlink.updates) ran)
    intro id member
    rcases List.mem_cons.1 member with rfl | inRest
    · exact first.backlink.there id List.mem_cons_self
    · rw [← first.backlink.updates.contains]
      exact later id inRest

theorem Returns.record {historical : HistoricalLocation}
    (ran : (record historical).Returns environment before () after) :
    Lists historical.id historical.locations.items (before.save .historicalLocation historical)
      after := by
  unfold Change.record at ran
  simp only [returns_bind, returns_save] at ran
  obtain ⟨_, _, rfl, ran⟩ := ran
  exact ran.backlinks

theorem Returns.extendRecord {historical location : EntityId}
    (ran : (extendRecord historical location).Returns environment before () after) :
    ∃ found : HistoricalLocation,
      before.tables.find? .historicalLocation historical = some found ∧
      Lists (found.joining location).id [location]
        (before.save .historicalLocation (found.joining location)) after := by
  unfold Change.extendRecord at ran
  simp only [returns_bind, returns_fetch .historicalLocation, returns_save] at ran
  obtain ⟨found, _, ⟨here, rfl⟩, _, _, rfl, ran⟩ := ran
  obtain rfl : found.id = historical := Tables.idOf_of_find? here
  exact ⟨found, here, ran.backlink⟩

end Change

end SensorThings
