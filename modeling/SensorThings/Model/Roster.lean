import SensorThings.Model.EntityId

/-!
Items sorted by identifier, each identifier once. `find?` is the view: it says what every operation
does, and two rosters with equal views are equal.
-/
namespace SensorThings

structure Roster (α : Type) (key : α → EntityId) where
  items : List α
  sorted : items.Pairwise fun left right => key left < key right

namespace Roster

variable {α : Type} {key : α → EntityId}

def empty : Roster α key :=
  ⟨[], .nil⟩

instance : Inhabited (Roster α key) := ⟨empty⟩

def find? (roster : Roster α key) (id : EntityId) : Option α :=
  roster.items.find? (key · == id)

def contains (roster : Roster α key) (id : EntityId) : Bool :=
  (roster.find? id).isSome

def ids (roster : Roster α key) : List EntityId :=
  roster.items.map key

/-- Put an item in its place, over an item with the same identifier. -/
def place (key : α → EntityId) (item : α) : List α → List α
  | [] => [item]
  | other :: rest =>
    if key item < key other then item :: other :: rest
    else if key item = key other then item :: rest
    else other :: place key item rest

theorem mem_place {item member : α} {items : List α} (found : member ∈ place key item items) :
    member = item ∨ member ∈ items := by
  induction items with
  | nil => simpa [place] using found
  | cons other rest ih =>
    simp only [place] at found
    split at found
    · simpa using found
    · split at found
      · rcases List.mem_cons.1 found with same | inRest
        · exact .inl same
        · exact .inr (List.mem_cons_of_mem _ inRest)
      · rcases List.mem_cons.1 found with same | inRest
        · exact .inr (same ▸ List.mem_cons_self)
        · exact (ih inRest).imp id (List.mem_cons_of_mem _)

theorem place_sorted (item : α) {items : List α}
    (sorted : items.Pairwise fun left right => key left < key right) :
    (place key item items).Pairwise fun left right => key left < key right := by
  induction items with
  | nil => simp [place]
  | cons other rest ih =>
    obtain ⟨before, rest_sorted⟩ := List.pairwise_cons.1 sorted
    simp only [place]
    split
    next less =>
      refine List.pairwise_cons.2 ⟨fun member found => ?_, sorted⟩
      rcases List.mem_cons.1 found with same | inRest
      · exact same ▸ less
      · exact EntityId.lt_trans less (before member inRest)
    next notLess =>
      split
      next same =>
        exact List.pairwise_cons.2 ⟨fun member found => same ▸ before member found, rest_sorted⟩
      next other_key =>
        refine List.pairwise_cons.2 ⟨fun member found => ?_, ih rest_sorted⟩
        rcases mem_place found with same | inRest
        · subst same
          exact Decidable.byContradiction fun notGreater =>
            other_key (EntityId.eq_of_not_lt notLess notGreater)
        · exact before member inRest

def insert (roster : Roster α key) (item : α) : Roster α key :=
  ⟨place key item roster.items, place_sorted item roster.sorted⟩

def erase (roster : Roster α key) (id : EntityId) : Roster α key :=
  ⟨roster.items.filter (key · != id), roster.sorted.filter _⟩

def ofList (items : List α) : Roster α key :=
  items.foldl insert empty

@[simp] theorem find?_empty (id : EntityId) : (empty : Roster α key).find? id = none := rfl

theorem key_of_find? {roster : Roster α key} {id : EntityId} {item : α}
    (found : roster.find? id = some item) : key item = id := by
  simpa using List.find?_some found

theorem mem_of_find? {roster : Roster α key} {id : EntityId} {item : α}
    (found : roster.find? id = some item) : item ∈ roster.items :=
  List.mem_of_find?_eq_some found

private theorem find?_place (item : α) (id : EntityId) (items : List α) :
    (place key item items).find? (key · == id) =
      if key item = id then some item else items.find? (key · == id) := by
  induction items with
  | nil =>
    by_cases same : key item = id <;> simp [place, same]
  | cons other rest ih =>
    simp only [place]
    split
    next => by_cases same : key item = id <;> simp [same]
    next =>
      split
      next equal => by_cases same : key item = id <;> simp_all
      next different =>
        by_cases same : key item = id
        · have : key other ≠ id := fun otherKey => different (same.trans otherKey.symm)
          simp_all
        · by_cases otherKey : key other = id <;> simp_all

theorem find?_insert (roster : Roster α key) (item : α) (id : EntityId) :
    (roster.insert item).find? id = if key item = id then some item else roster.find? id :=
  find?_place item id roster.items

@[simp] theorem find?_insert_self (roster : Roster α key) (item : α) :
    (roster.insert item).find? (key item) = some item := by
  simp [find?_insert]

theorem find?_erase (roster : Roster α key) (erased id : EntityId) :
    (roster.erase erased).find? id = if id = erased then none else roster.find? id := by
  simp only [find?, erase, List.find?_filter]
  split
  next same =>
    subst same
    simp
  next different =>
    congr 1
    funext item
    by_cases here : key item = id
    · simp [here, different]
    · simp [here]

theorem find?_of_mem {roster : Roster α key} {item : α} (found : item ∈ roster.items) :
    roster.find? (key item) = some item := by
  obtain ⟨items, sorted⟩ := roster
  simp only [find?] at *
  induction items with
  | nil => simp at found
  | cons other rest ih =>
    obtain ⟨before, rest_sorted⟩ := List.pairwise_cons.1 sorted
    rcases List.mem_cons.1 found with same | inRest
    · simp [same]
    · have different : key other ≠ key item := fun same =>
        EntityId.lt_irrefl _ (same ▸ before item inRest)
      simp [different, ih rest_sorted inRest]

end Roster

/-- A set of identifiers. -/
abbrev IdSet := Roster EntityId id

namespace IdSet

def ofIds (ids : List EntityId) : IdSet :=
  Roster.ofList ids

def toJson (ids : IdSet) : Json :=
  .array (ids.items.map EntityId.toJson)

def ofJson? : Json → Option IdSet
  | .array items => (items.mapM EntityId.ofJson?).map ofIds
  | _ => none

end IdSet

end SensorThings
