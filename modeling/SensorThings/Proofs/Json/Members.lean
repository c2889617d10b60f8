import SensorThings.Model.Member

/-!
Members of objects that are written. Of the members listed for an object the last one of a key
counts, and what a writer leaves out reads back as missing.
-/
namespace SensorThings.Json

variable {α : Type} {json value : Json} {key other : String} {write : α → Json}
  {read? : Json → Option α}

theorem lookup_cons (members : List (String × Json)) :
    ((key, value) :: members).lookup other =
      if other = key then some value else members.lookup other := by
  by_cases same : other = key
  · rw [same, List.lookup_cons_self, if_pos rfl]
  · rw [List.lookup_cons, beq_false_of_ne same, if_neg same]

theorem lookup_insertMember (members : List (String × Json)) :
    (insertMember key value members).lookup other =
      if other = key then some value else members.lookup other := by
  induction members with
  | nil => rw [insertMember, lookup_cons]
  | cons member rest ih =>
    obtain ⟨first, old⟩ := member
    rw [insertMember]
    split
    next => rw [lookup_cons]
    split
    next same =>
      subst same
      rw [lookup_cons, lookup_cons]
      split <;> rfl
    next different =>
      rw [lookup_cons, lookup_cons, ih]
      split
      next here => rw [if_neg fun same => different (same.symm.trans here)]
      next => rfl

@[simp] theorem member?_ofMembers (members : List (String × Json)) :
    (ofMembers members).member? key = members.reverse.lookup key := by
  have step : ∀ sorted : List (String × Json),
      (members.foldl (fun sorted member => insertMember member.1 member.2 sorted) sorted).lookup
        key = (members.reverse.lookup key).or (sorted.lookup key) := by
    induction members with
    | nil => simp
    | cons member rest ih =>
      intro sorted
      obtain ⟨first, value⟩ := member
      rw [List.foldl_cons, ih, lookup_insertMember, List.reverse_cons, List.lookup_append,
        Option.or_assoc, lookup_cons]
      split <;> simp
  simp [ofMembers_eq, member?, step]

@[simp] theorem lookup_present (given : Option α) :
    (present key write given).reverse.lookup other =
      if other = key then given.map write else none := by
  cases given with
  | none => simp [present]
  | some value =>
    rw [present, List.reverse_singleton, lookup_cons, List.lookup_nil, Option.map_some]

theorem optional?_eq {given : Option α} (found : json.member? key = given.map write)
    (inverse : ∀ value, given = some value →
      write value ≠ .null ∧ read? (write value) = some value) :
    json.optional? key read? = some given := by
  cases given with
  | none => simp [optional?, found]
  | some value =>
    obtain ⟨notNull, read⟩ := inverse value rfl
    rw [Option.map_some] at found
    unfold optional?
    split
    next missing => simp [found] at missing
    next null => exact absurd (Option.some.inj (found.symm.trans null)) notNull
    next other there =>
      obtain rfl := Option.some.inj (found.symm.trans there)
      rw [read, Option.map_some]

theorem mapM_map {items : List α} (inverse : ∀ item ∈ items, read? (write item) = some item) :
    (items.map write).mapM read? = some items := by
  induction items with
  | nil => rfl
  | cons item rest ih =>
    rw [List.forall_mem_cons] at inverse
    rw [List.map_cons, List.mapM_cons, inverse.1, ih inverse.2]
    rfl

theorem list?_array {items : List α} (inverse : ∀ item ∈ items, read? (write item) = some item) :
    list? read? (.array (items.map write)) = some items :=
  mapM_map inverse

end SensorThings.Json
