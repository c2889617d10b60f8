import SensorThings.Text.Split

/-!
Cutting texts where a separator stands, against putting them together with it.
-/
namespace SensorThings.Text

variable {separator : Char} {characters before after : List Char}

@[simp] theorem splitFirst_append (free : separator ∉ before) :
    splitFirst separator (before ++ separator :: after) = some (before, after) := by
  induction before with
  | nil => simp [splitFirst]
  | cons character rest ih =>
    rw [List.mem_cons, not_or] at free
    rw [List.cons_append, splitFirst, if_neg fun same => free.1 same.symm, ih free.2,
      Option.map_some]

theorem splitFirst_eq_some_iff : splitFirst separator characters = some (before, after) ↔
    characters = before ++ separator :: after ∧ separator ∉ before := by
  constructor
  · intro found
    refine ⟨splitFirst_eq_some found, ?_⟩
    induction characters generalizing before with
    | nil => contradiction
    | cons character rest ih =>
      rw [splitFirst] at found
      split at found
      next => cases found; exact List.not_mem_nil
      next other =>
        obtain ⟨⟨piece, later⟩, found, ⟨⟩⟩ := Option.map_eq_some_iff.1 found
        exact List.not_mem_cons_of_ne_of_not_mem (Ne.symm other) (ih found)
  · rintro ⟨rfl, free⟩
    exact splitFirst_append free

@[simp] theorem splitAt_of_not_mem (free : separator ∉ characters) :
    splitAt separator characters = [characters] := by
  induction characters with
  | nil => rfl
  | cons character rest ih =>
    rw [List.mem_cons, not_or] at free
    rw [splitAt, if_neg fun same => free.1 same.symm, ih free.2]

@[simp] theorem splitAt_append (free : separator ∉ before) :
    splitAt separator (before ++ separator :: after) = before :: splitAt separator after := by
  induction before with
  | nil => simp [splitAt]
  | cons character rest ih =>
    rw [List.mem_cons, not_or] at free
    rw [List.cons_append, splitAt, if_neg fun same => free.1 same.symm, ih free.2]

theorem length_splitAt (separator : Char) (characters : List Char) :
    (splitAt separator characters).length = characters.count separator + 1 := by
  induction characters with
  | nil => rfl
  | cons character rest ih =>
    rw [splitAt]
    split
    next same => rw [List.length_cons, ih, same, List.count_cons_self]
    next other =>
      rw [List.count_cons_of_ne other, ← ih]
      split
      next nothing => exact absurd nothing (splitAt_ne_nil separator rest)
      next pieces => rw [pieces, List.length_cons, List.length_cons]

theorem splitAt_join {pieces : List (List Char)} (inhabited : pieces ≠ [])
    (free : ∀ piece ∈ pieces, separator ∉ piece) :
    splitAt separator (join [separator] pieces) = pieces := by
  induction pieces with
  | nil => contradiction
  | cons piece rest ih =>
    rw [List.forall_mem_cons] at free
    cases rest with
    | nil => exact splitAt_of_not_mem free.1
    | cons next others =>
      rw [join, List.append_assoc, List.singleton_append, splitAt_append free.1,
        ih (List.cons_ne_nil _ _) free.2]

theorem join_eq_intercalate (separator : List Char) (pieces : List (List Char)) :
    join separator pieces = separator.intercalate pieces := by
  induction pieces with
  | nil => rfl
  | cons piece rest ih =>
    cases rest with
    | nil => simp [join]
    | cons next others => rw [join, ih, List.intercalate_cons_cons, List.append_assoc]

theorem mem_join {separator : List Char} {character : Char} {pieces : List (List Char)}
    (member : character ∈ join separator pieces) :
    character ∈ separator ∨ ∃ piece ∈ pieces, character ∈ piece := by
  induction pieces with
  | nil => contradiction
  | cons piece rest ih =>
    cases rest with
    | nil => exact .inr ⟨piece, List.mem_cons_self, member⟩
    | cons next others =>
      rw [join, List.mem_append, List.mem_append] at member
      rcases member with (first | between) | later
      · exact .inr ⟨piece, List.mem_cons_self, first⟩
      · exact .inl between
      · refine (ih later).imp_right ?_
        rintro ⟨other, listed, inside⟩
        exact ⟨other, List.mem_cons_of_mem _ listed, inside⟩

end SensorThings.Text
