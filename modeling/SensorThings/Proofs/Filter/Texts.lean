import SensorThings.Proofs.Binary64.Rounding
import SensorThings.Proofs.Filter.Integers
import SensorThings.Proofs.Text.Search

/-!
Functions of texts agree with each other: what is found is what can be cut out, and what is cut can
be joined. Texts are searched by octets and positions pass through doubles, so characters and
positions are told apart only in texts of fewer than 2 ^ 53 characters.
-/
namespace SensorThings

@[simp] theorem Comparison.atMost_truth_int {left right : Int} :
    atMost.truth (.int left) (.int right) = some true ↔ left ≤ right := by
  have allowed : atMost.allows (compare left right) = true ↔ left ≤ right := by
    rw [allows, bne_iff_ne, compare_le_iff_le]
  rw [truth_eq_some_iff, ← allowed]
  exact ⟨fun ⟨_, compared, holds⟩ => Option.some.inj compared ▸ holds, fun holds => ⟨_, rfl, holds⟩⟩

namespace Function

variable {text part : String}

@[simp] theorem characterCount?_int {count : Nat} (exact : count < 2 ^ 53) :
    characterCount? (.int count) = some count := by
  rw [characterCount?, Scalar.number?, Option.map_some, Binary64.toNat_ofInt exact]

theorem indexOfText_eq (text part : String) :
    indexOfText text part = match Text.indexOf? part.toList text.toList with
      | some position => position
      | none => -1 := by
  rw [indexOfText, octetOfText?, Text.indexOf?_encoded]
  cases found : Text.indexOf? part.toList text.toList with
  | none => rfl
  | some position =>
    have inside := (Text.indexOf?_eq_some_iff.1 found).1
    exact congrArg Int.ofNat (Text.countCharacters_take inside)

theorem octetOfText?_isSome (text part : String) :
    (octetOfText? text part).isSome = (Text.indexOf? part.toList text.toList).isSome := by
  rw [octetOfText?, Text.indexOf?_encoded, Option.isSome_map]

theorem ofList_eq_iff {characters : List Char} :
    String.ofList characters = part ↔ characters = part.toList := by
  rw [← String.toList_inj, String.toList_ofList]

theorem exists_number? {position : Scalar} {count : Nat}
    (counted : characterCount? position = some count) :
    (∃ value, position = .int value) ∨ ∃ value, position = .float value := by
  cases position
  case int value => exact .inl ⟨value, rfl⟩
  case float value => exact .inr ⟨value, rfl⟩
  all_goals contradiction

/-! What a call gives. -/

section

variable [PlaneGeometry]

@[simp] theorem apply_length (text : String) : length.apply [.string text] = .int text.length := rfl

@[simp] theorem apply_concat (left right : String) :
    concat.apply [.string left, .string right] = .string (left ++ right) := rfl

@[simp] theorem apply_indexOf (text part : String) :
    indexOf.apply [.string text, .string part] = .int (indexOfText text part) := rfl

@[simp] theorem apply_substringOf (text part : String) :
    substringOf.apply [.string part, .string text] =
      .bool (Text.indexOf? part.toList text.toList).isSome := by
  rw [← octetOfText?_isSome]
  rfl

@[simp] theorem apply_startsWith_iff :
    startsWith.apply [.string text, .string part] = .bool true ↔ part.toList <+: text.toList := by
  rw [← Text.encoded_prefix_iff, ← List.isPrefixOf_iff_prefix, ← Scalar.bool.injEq]
  rfl

@[simp] theorem apply_endsWith_iff :
    endsWith.apply [.string text, .string part] = .bool true ↔ part.toList <:+ text.toList := by
  rw [← Text.encoded_suffix_iff, ← List.isSuffixOf_iff_suffix, ← Scalar.bool.injEq]
  rfl

section

variable {position size : Scalar} {start count : Nat}

@[simp] theorem apply_substring (counted : characterCount? position = some start) :
    substring.apply [.string text, position] = .string (substringFrom text start) := by
  have result : substring.result? [.string text, position] =
      some (.string (substringFrom text start)) := by
    rw [result?, counted]
    rfl
  rcases exists_number? counted with ⟨value, rfl⟩ | ⟨value, rfl⟩ <;>
    exact congrArg (Option.getD · .null) result

@[simp] theorem apply_substring_size (counted : characterCount? position = some start)
    (sized : characterCount? size = some count) :
    substring.apply [.string text, position, size] =
      .string (substringOfLength text start count) := by
  have result : substring.result? [.string text, position, size] =
      some (.string (substringOfLength text start count)) := by
    rw [result?, counted, sized]
    rfl
  rcases exists_number? counted with ⟨value, rfl⟩ | ⟨value, rfl⟩ <;>
    rcases exists_number? sized with ⟨size, rfl⟩ | ⟨size, rfl⟩ <;>
    exact congrArg (Option.getD · .null) result

end

theorem substring_eq_iff {start : Nat} (near : start < 2 ^ 53) (short : part.length < 2 ^ 53) :
    substring.apply [.string text, .int start, length.apply [.string part]] = .string part ↔
      part.toList <+: text.toList.drop start := by
  rw [apply_length, apply_substring_size (characterCount?_int near) (characterCount?_int short),
    Scalar.string.injEq, substringOfLength, ofList_eq_iff, List.prefix_iff_eq_take,
    String.length_toList, eq_comm]

/-- The least position at which a part can be cut out of a text, or -1 if it does not occur. -/
structure Located (text part : String) (position : Int) : Prop where
  occurs : 0 ≤ position ↔ substringOf.apply [.string part, .string text] = .bool true
  cut : 0 ≤ position →
    substring.apply [.string text, .int position, length.apply [.string part]] = .string part
  least : ∀ earlier, 0 ≤ earlier → earlier < position →
    substring.apply [.string text, .int earlier, length.apply [.string part]] ≠ .string part
  absent : ¬0 ≤ position → position = -1

theorem located_indexOfText (textShort : text.length < 2 ^ 53) (partShort : part.length < 2 ^ 53) :
    Located text part (indexOfText text part) := by
  have occurs := apply_substringOf text part
  rw [indexOfText_eq]
  cases found : Text.indexOf? part.toList text.toList with
  | none =>
    rw [found] at occurs
    refine ⟨?_, nofun, fun earlier natural before => ?_, fun _ => rfl⟩
    · rw [occurs]
      simp
    · have : earlier < -1 := before
      omega
  | some position =>
    rw [found] at occurs
    obtain ⟨inside, stands, least⟩ := Text.indexOf?_eq_some_iff.1 found
    rw [String.length_toList] at inside
    refine ⟨?_, fun _ => (substring_eq_iff (by omega) partShort).2 stands, ?_,
      fun negative => absurd (Int.natCast_nonneg position) negative⟩
    · rw [occurs]
      simp
    · intro earlier natural before
      obtain ⟨earlier, rfl⟩ := Int.eq_ofNat_of_zero_le natural
      have before : earlier < position := Int.ofNat_lt.1 before
      exact fun cut => least earlier before ((substring_eq_iff (by omega) partShort).1 cut)

theorem concat_substring {position : Scalar} (number : position.number?.isSome = true) :
    concat.apply [substring.apply [.string text, .int 0, position],
      substring.apply [.string text, position]] = .string text := by
  obtain ⟨value, isNumber⟩ := Option.isSome_iff_exists.1 number
  have counted : characterCount? position = some (Binary64.toNat value) := by
    rw [characterCount?, isNumber, Option.map_some]
  have start : characterCount? (.int 0) = some 0 := characterCount?_int (by decide)
  rw [apply_substring_size start counted, apply_substring counted, apply_concat, substringOfLength,
    substringFrom, List.drop_zero, ← String.ofList_append, List.take_append_drop,
    String.ofList_toList]

theorem length_concat (textShort : text.length < 2 ^ 53) (partShort : part.length < 2 ^ 53) :
    length.apply [concat.apply [.string text, .string part]] =
      Arithmetic.add.apply (length.apply [.string text]) (length.apply [.string part]) := by
  have fits : Text.fitsSigned (text.length + part.length) = true :=
    Text.fitsSigned_iff.2 (by omega)
  rw [apply_concat, apply_length, apply_length, apply_length, String.length_append,
    Arithmetic.apply_int, Arithmetic.onIntegers, Arithmetic.checked, if_pos fits, Int.natCast_add]

theorem startsWith_iff (partShort : part.length < 2 ^ 53) :
    startsWith.apply [.string text, .string part] = .bool true ↔
      substring.apply [.string text, .int 0, length.apply [.string part]] = .string part := by
  have start : 0 < 2 ^ 53 := by decide
  rw [apply_startsWith_iff]
  exact (substring_eq_iff start partShort).symm

theorem endsWith_iff (textShort : text.length < 2 ^ 53) (partShort : part.length < 2 ^ 53) :
    endsWith.apply [.string text, .string part] = .bool true ↔
      Comparison.atMost.truth (length.apply [.string part]) (length.apply [.string text]) =
        some true ∧
      substring.apply [.string text, Arithmetic.subtract.apply (length.apply [.string text])
        (length.apply [.string part])] = .string part := by
  rw [apply_endsWith_iff, apply_length, apply_length, Comparison.atMost_truth_int,
    Int.ofNat_le]
  have difference (shorter : part.length ≤ text.length) :
      Arithmetic.subtract.apply (.int text.length) (.int part.length) =
        .int (text.length - part.length : Nat) := by
    have fits : Text.fitsSigned (text.length - part.length) = true :=
      Text.fitsSigned_iff.2 (by omega)
    rw [Arithmetic.apply_int, Arithmetic.onIntegers, Arithmetic.checked, if_pos fits,
      Int.ofNat_sub shorter]
  have cut (shorter : part.length ≤ text.length) :
      substring.apply [.string text, Arithmetic.subtract.apply (.int text.length)
        (.int part.length)] = .string part ↔ part.toList <:+ text.toList := by
    rw [difference shorter, apply_substring (characterCount?_int (by omega)), Scalar.string.injEq,
      substringFrom, ofList_eq_iff, List.suffix_iff_eq_drop, String.length_toList,
      String.length_toList, eq_comm]
  constructor
  · intro suffix
    have shorter : part.length ≤ text.length := by
      simpa only [String.length_toList] using suffix.length_le
    exact ⟨shorter, (cut shorter).2 suffix⟩
  · rintro ⟨shorter, whole⟩
    exact (cut shorter).1 whole

/-- What the functions of texts promise of each other on a text and a part to look for. -/
structure Agree (text part : String) : Prop where
  found : ∃ position, indexOf.apply [.string text, .string part] = .int position ∧
    Located text part position
  joined : ∀ position, position.number?.isSome = true →
    concat.apply [substring.apply [.string text, .int 0, position],
      substring.apply [.string text, position]] = .string text
  measured : length.apply [concat.apply [.string text, .string part]] =
    Arithmetic.add.apply (length.apply [.string text]) (length.apply [.string part])
  starts : startsWith.apply [.string text, .string part] = .bool true ↔
    substring.apply [.string text, .int 0, length.apply [.string part]] = .string part
  ends : endsWith.apply [.string text, .string part] = .bool true ↔
    Comparison.atMost.truth (length.apply [.string part]) (length.apply [.string text]) =
      some true ∧
    substring.apply [.string text, Arithmetic.subtract.apply (length.apply [.string text])
      (length.apply [.string part])] = .string part

/-- On texts whose positions are exact as doubles the functions of texts agree. -/
theorem agree_of_short (textShort : text.length < 2 ^ 53) (partShort : part.length < 2 ^ 53) :
    Agree text part where
  found := ⟨_, apply_indexOf text part, located_indexOfText textShort partShort⟩
  joined _ := concat_substring
  measured := length_concat textShort partShort
  starts := startsWith_iff partShort
  ends := endsWith_iff textShort partShort

end

/-- The circumflex takes two octets and the face four, but both stand at one position. -/
theorem agree_of_short_accents :
    "tête 😀".length < 2 ^ 53 ∧ "ê".length < 2 ^ 53 ∧ Located "tête 😀" "ê" 1 ∧
      startsWith.apply [.string "tête 😀", .string "ê"] ≠ .bool true := by
  have textShort : "tête 😀".length < 2 ^ 53 := by decide
  have partShort : "ê".length < 2 ^ 53 := by decide
  have agree := agree_of_short textShort partShort
  obtain ⟨position, found, located⟩ := agree.found
  have first : indexOf.apply [.string "tête 😀", .string "ê"] = .int 1 := rfl
  obtain rfl := Scalar.int.inj (first.symm.trans found)
  refine ⟨textShort, partShort, located, fun starts => ?_⟩
  exact located.least 0 (by decide) (by decide) (agree.starts.1 starts)

end Function

end SensorThings
