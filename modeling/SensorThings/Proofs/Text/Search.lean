import SensorThings.Proofs.Text.Octets

/-!
Searching a text. The octets of a text stand in the octets of another just where the text stands in
the other, since the first octet of a character is no later octet of any; so a search of octets
finds the place that a search of characters would find.
-/
namespace SensorThings.Text

@[simp] theorem indexOf?_nil {α : Type} [BEq α] (list : List α) : indexOf? [] list = some 0 := by
  cases list <;> rfl

section

variable {α : Type} [BEq α] [LawfulBEq α] {needle list : List α} {position : Nat}

theorem indexOf?_eq_some_iff :
    indexOf? needle list = some position ↔
      position ≤ list.length ∧ needle <+: list.drop position ∧
        ∀ earlier < position, ¬needle <+: list.drop earlier := by
  induction list generalizing position with
  | nil =>
    rw [indexOf?]
    split
    next empty =>
      obtain rfl := List.isEmpty_iff.1 empty
      constructor
      · rintro ⟨⟩
        exact ⟨Nat.le_refl _, List.nil_prefix, fun _ => nofun⟩
      · rintro ⟨inside, -⟩
        rw [Nat.le_zero.1 inside]
    next inhabited =>
      rw [List.isEmpty_iff] at inhabited
      simp [inhabited]
  | cons first rest ih =>
    rw [indexOf?]
    split
    next here =>
      rw [List.isPrefixOf_iff_prefix] at here
      constructor
      · rintro ⟨⟩
        exact ⟨Nat.zero_le _, here, fun _ => nofun⟩
      · rintro ⟨-, -, least⟩
        cases position with
        | zero => rfl
        | succ => exact absurd here (least 0 (Nat.succ_pos _))
    next elsewhere =>
      rw [List.isPrefixOf_iff_prefix] at elsewhere
      cases position with
      | zero => simp [elsewhere]
      | succ position =>
        rw [Option.map_eq_some_iff]
        constructor
        · rintro ⟨_, found, ⟨⟩⟩
          obtain ⟨inside, stands, least⟩ := ih.1 found
          refine ⟨Nat.succ_le_succ inside, stands, fun earlier before => ?_⟩
          cases earlier with
          | zero => exact elsewhere
          | succ earlier => exact least earlier (Nat.lt_of_succ_lt_succ before)
        · rintro ⟨inside, stands, least⟩
          exact ⟨position, ih.2 ⟨Nat.le_of_succ_le_succ inside, stands,
            fun earlier before => least (earlier + 1) (Nat.succ_lt_succ before)⟩, rfl⟩

end

section

variable {needle text : List Char} {first : UInt8} {others skipped rest : List UInt8}

@[simp] theorem encoded_cons (character : Char) (text : List Char) :
    encoded (character :: text) = String.utf8EncodeChar character ++ encoded text :=
  List.flatMap_cons

@[simp] theorem encoded_append (left right : List Char) :
    encoded (left ++ right) = encoded left ++ encoded right :=
  List.flatMap_append

theorem encoded_injective (same : encoded needle = encoded text) : needle = text := by
  rw [← ofOctets_encoded needle, ← encoded, same, encoded, ofOctets_encoded]

theorem exists_encoded_cons (character : Char) :
    ∃ first others, first.IsUTF8FirstByte ∧ (∀ octet ∈ others, ¬octet.IsUTF8FirstByte) ∧
      ∀ text, encoded (character :: text) = first :: (others ++ encoded text) := by
  cases shape : String.utf8EncodeChar character with
  | nil => exact absurd shape String.utf8EncodeChar_ne_nil
  | cons first others =>
    have isFirst {index : Nat} (inside : index < (first :: others).length) :
        (first :: others)[index].IsUTF8FirstByte ↔ index = 0 := by
      simp only [← shape] at inside ⊢
      exact UInt8.isUTF8FirstByte_getElem_utf8EncodeChar
    refine ⟨first, others, (isFirst (Nat.succ_pos _)).2 rfl, fun octet member => ?_, fun text => ?_⟩
    · obtain ⟨index, inside, rfl⟩ := List.getElem_of_mem member
      exact fun first => Nat.succ_ne_zero _ ((isFirst (Nat.succ_lt_succ inside)).1 first)
    · rw [encoded_cons, shape, List.cons_append]

@[simp] theorem countCharacters_encoded (text : List Char) :
    countCharacters (encoded text) = text.length := by
  induction text with
  | nil => rfl
  | cons character rest ih =>
    obtain ⟨first, others, isFirst, notFirst, octets⟩ := exists_encoded_cons character
    rw [countCharacters] at ih
    have none : others.countP (fun octet => octet.IsUTF8FirstByte) = 0 := by
      simpa [List.countP_eq_zero] using notFirst
    simp [octets, countCharacters, isFirst, none, ih]

@[simp] theorem encoded_prefix_iff : encoded needle <+: encoded text ↔ needle <+: text := by
  constructor
  · rintro ⟨tail, octets⟩
    refine List.isPrefix_of_utf8Encode_append_eq_utf8Encode tail.toByteArray ?_
    rw [List.utf8Encode, List.utf8Encode, ← List.toByteArray_append]
    exact congrArg List.toByteArray octets
  · rintro ⟨tail, rfl⟩
    rw [encoded_append]
    exact List.prefix_append ..

theorem indexOf?_append_of_skipped (isFirst : first.IsUTF8FirstByte)
    (notFirst : ∀ octet ∈ skipped, ¬octet.IsUTF8FirstByte) :
    indexOf? (first :: others) (skipped ++ rest) =
      (indexOf? (first :: others) rest).map (· + skipped.length) := by
  induction skipped with
  | nil => simp
  | cons octet skipped ih =>
    have differs : first ≠ octet := fun same => notFirst octet List.mem_cons_self (same ▸ isFirst)
    rw [List.cons_append, indexOf?, if_neg (by simp [List.isPrefixOf, differs]),
      ih fun octet member => notFirst octet (List.mem_cons_of_mem _ member), Option.map_map]
    rfl

theorem indexOf?_encoded (needle text : List Char) :
    indexOf? (encoded needle) (encoded text) =
      (indexOf? needle text).map fun position => (encoded (text.take position)).length := by
  cases needle with
  | nil => rw [indexOf?_nil, encoded, List.flatMap_nil, indexOf?_nil]; rfl
  | cons character needle =>
    obtain ⟨first, others, isFirst, -, sought⟩ := exists_encoded_cons character
    induction text with
    | nil => rw [sought]; rfl
    | cons next text ih =>
      obtain ⟨_, nextOthers, -, notFirst, octets⟩ := exists_encoded_cons next
      have same : (encoded (character :: needle)).isPrefixOf (encoded (next :: text)) =
          (character :: needle).isPrefixOf (next :: text) := by
        rw [Bool.eq_iff_iff, List.isPrefixOf_iff_prefix, List.isPrefixOf_iff_prefix,
          encoded_prefix_iff]
      rw [octets] at same
      rw [octets, indexOf?, same, indexOf?]
      split
      next => rfl
      next =>
        rw [sought, indexOf?_append_of_skipped isFirst notFirst, ← sought, ih]
        simp only [Option.map_map]
        congr 1
        funext position
        simp [octets]
        omega

theorem suffix_of_suffix_skipped (isFirst : first.IsUTF8FirstByte)
    (notFirst : ∀ octet ∈ skipped, ¬octet.IsUTF8FirstByte)
    (suffix : first :: others <:+ skipped ++ rest) : first :: others <:+ rest := by
  induction skipped with
  | nil => exact suffix
  | cons octet skipped ih =>
    rcases List.suffix_cons_iff.1 suffix with same | later
    · exact absurd ((List.cons.inj same).1 ▸ isFirst) (notFirst octet List.mem_cons_self)
    · exact ih (fun octet member => notFirst octet (List.mem_cons_of_mem _ member)) later

@[simp] theorem encoded_suffix_iff : encoded needle <:+ encoded text ↔ needle <:+ text := by
  constructor
  · intro suffix
    cases needle with
    | nil => exact List.nil_suffix
    | cons character needle =>
      obtain ⟨first, others, isFirst, -, sought⟩ := exists_encoded_cons character
      induction text with
      | nil =>
        rw [sought] at suffix
        exact absurd (List.suffix_nil.1 suffix) nofun
      | cons next text ih =>
        obtain ⟨nextFirst, nextOthers, -, notFirst, octets⟩ := exists_encoded_cons next
        rw [octets, List.suffix_cons_iff] at suffix
        rcases suffix with whole | later
        · exact encoded_injective (whole.trans (octets text).symm) ▸ List.suffix_refl _
        · rw [sought] at later
          have inside := suffix_of_suffix_skipped isFirst notFirst later
          rw [← sought] at inside
          exact (ih inside).trans (List.suffix_cons ..)
  · rintro ⟨front, rfl⟩
    rw [encoded_append]
    exact List.suffix_append ..

theorem countCharacters_take {position : Nat} (inside : position ≤ text.length) :
    countCharacters ((encoded text).take (encoded (text.take position)).length) = position := by
  have split : encoded text = encoded (text.take position) ++ encoded (text.drop position) := by
    rw [← encoded_append, List.take_append_drop]
  rw [split, List.take_left, countCharacters_encoded, List.length_take, Nat.min_eq_left inside]

end

end SensorThings.Text
