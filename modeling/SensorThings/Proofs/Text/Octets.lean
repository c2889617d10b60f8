import SensorThings.Text.Octets
import SensorThings.Text.Search

/-!
Texts that are written without escapes, or with escaped blanks, and read as octets.
-/
namespace SensorThings.Text

variable {character : Char} {text rest : List Char}

@[simp]
theorem replaceChar_of_not_mem {old : Char} {new characters : List Char} (free : old ∉ characters) :
    replaceChar old new characters = characters := by
  induction characters with
  | nil => rfl
  | cons character rest ih =>
    rw [List.mem_cons, not_or] at free
    rw [replaceChar, List.flatMap_cons, if_neg (Ne.symm free.1), ← replaceChar, ih free.2]
    rfl

theorem mem_replaceChar {old character : Char} {new characters : List Char}
    (member : character ∈ replaceChar old new characters) :
    character ∈ new ∨ character ∈ characters := by
  obtain ⟨source, there, member⟩ := List.mem_flatMap.1 member
  split at member
  next => exact .inl member
  next => exact .inr (List.mem_singleton.1 member ▸ there)

@[simp] theorem ofOctets_append (character : Char) (rest : List UInt8) :
    ofOctets (String.utf8EncodeChar character ++ rest) = character :: ofOctets rest := by
  cases encoded : String.utf8EncodeChar character with
  | nil => exact absurd encoded String.utf8EncodeChar_ne_nil
  | cons first others =>
    have found : (first :: (others ++ rest)).toByteArray.utf8DecodeChar? 0 = some character := by
      rw [← List.cons_append, ← encoded, List.toByteArray_append]
      exact ByteArray.utf8DecodeChar?_utf8EncodeChar_append
    have length := String.length_utf8EncodeChar character
    rw [encoded, List.length_cons] at length
    rw [List.cons_append, ofOctets, found]
    dsimp only
    rw [← length, Nat.add_sub_cancel, List.drop_left]

@[simp] theorem ofOctets_encoded (text : List Char) :
    ofOctets (text.flatMap String.utf8EncodeChar) = text := by
  induction text with
  | nil => rw [List.flatMap_nil, ofOctets]
  | cons character rest ih => rw [List.flatMap_cons, ofOctets_append, ih]

@[simp] theorem ofOctets?_encoded (text : List Char) :
    ofOctets? (text.flatMap String.utf8EncodeChar) = some text := by
  have decoded := List.utf8Decode?_utf8Encode (l := text)
  rw [List.utf8Encode] at decoded
  rw [ofOctets?, decoded, Option.map_some]

def IsLiteral (text : List Char) : Prop :=
  ∀ first second third, [first, second, third] <:+: text → escape? first second third = none

theorem isLiteral_of_not_mem (free : '%' ∉ text) : IsLiteral text := by
  intro first second third inside
  exact if_neg fun same : first = '%' => free (same ▸ inside.subset List.mem_cons_self)

theorem IsLiteral.tail (literal : IsLiteral (character :: rest)) : IsLiteral rest :=
  fun first second third inside =>
    literal first second third (inside.trans (List.suffix_cons ..).isInfix)

@[simp] theorem octets_cons (literal : ∀ second third tail, rest = second :: third :: tail →
      escape? character second third = none) :
    octets (character :: rest) = String.utf8EncodeChar character ++ octets rest := by
  match rest with
  | [] => rfl
  | [_] => rfl
  | second :: third :: tail => rw [octets, literal second third tail rfl]

@[simp] theorem octets_of_isLiteral (literal : IsLiteral text) :
    octets text = text.flatMap String.utf8EncodeChar := by
  induction text with
  | nil => rfl
  | cons character rest ih =>
    rw [octets_cons, ih literal.tail, List.flatMap_cons]
    rintro second third tail rfl
    exact literal _ _ _ (List.prefix_append [character, second, third] tail).isInfix

theorem escape?_isSome {first second third : Char}
    (escape : (escape? first second third).isSome = true) : second ≠ '%' ∧ third ≠ '%' := by
  have noDigit : hexValue? '%' = none := rfl
  constructor <;> rintro rfl <;> simp [escape?, noDigit] at escape

theorem replaceChar_eq_cons {first : Char} {tail : List Char}
    (shape : replaceChar ' ' ['%', '2', '0'] text = first :: tail) (other : first ≠ '%') :
    ∃ rest, text = first :: rest ∧ replaceChar ' ' ['%', '2', '0'] rest = tail := by
  cases text with
  | nil => contradiction
  | cons character rest =>
    rw [replaceChar, List.flatMap_cons] at shape
    split at shape
    next => exact absurd (List.cons.inj shape).1.symm other
    next =>
      obtain ⟨rfl, rest⟩ := List.cons.inj shape
      exact ⟨_, rfl, rest⟩

@[simp] theorem octets_replaceChar (literal : IsLiteral text) :
    octets (replaceChar ' ' ['%', '2', '0'] text) = text.flatMap String.utf8EncodeChar := by
  induction text with
  | nil => rfl
  | cons character rest ih =>
    rw [replaceChar, List.flatMap_cons, List.flatMap_cons, ← replaceChar]
    split
    next blank =>
      rw [← ih literal.tail, blank]
      rfl
    next other =>
      rw [List.singleton_append, octets_cons, ih literal.tail]
      intro second third tail shape
      rw [← Option.not_isSome_iff_eq_none]
      intro escape
      obtain ⟨notSecond, notThird⟩ := escape?_isSome escape
      obtain ⟨_, rfl, after⟩ := replaceChar_eq_cons shape notSecond
      obtain ⟨others, rfl, -⟩ := replaceChar_eq_cons after notThird
      have inside := (List.prefix_append [character, second, third] others).isInfix
      rw [literal _ _ _ inside] at escape
      contradiction

end SensorThings.Text
