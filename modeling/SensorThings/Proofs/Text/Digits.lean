import SensorThings.Text.Blank
import SensorThings.Text.Integer

/-!
Numbers as digits. A number is padded to a width that it fits, so that its digits can be told from
what follows by their count alone.
-/
namespace SensorThings.Text

/-- The characters are digits, as many as the width, and stand for the value. -/
structure Spells (characters : List Char) (width value : Nat) : Prop where
  length : characters.length = width
  digits : ∀ character ∈ characters, character.isDigit = true
  value : Nat.ofDigitChars 10 characters 0 = value

theorem spells_padded_max (width value : Nat) :
    Spells (padded width value).toList (max width (Nat.toDigits 10 value).length) value := by
  have shape : (padded width value).toList =
      List.replicate (width - (Nat.toDigits 10 value).length) '0' ++ Nat.toDigits 10 value := by
    simp only [padded, String.toList_append, String.toList_ofList, Nat.toString_eq_repr,
      Nat.toList_repr, ← String.length_toList]
  rw [shape]
  constructor
  · rw [List.length_append, List.length_replicate]
    omega
  · intro character member
    rcases List.mem_append.1 member with zero | digit
    · rw [List.eq_of_mem_replicate zero]
      rfl
    · exact Nat.isDigit_of_mem_toDigits (by decide) (by decide) digit
  · rw [Nat.ofDigitChars_append, Nat.ofDigitChars_replicate_zero, Nat.mul_zero,
      Nat.ofDigitChars_ten_toDigits]

theorem spells_padded {width value : Nat} (positive : 0 < width)
    (bound : value < Nat.pow 10 width) : Spells (padded width value).toList width value := by
  have short : (Nat.toDigits 10 value).length ≤ width :=
    (Nat.length_toDigits_le_iff (by decide) positive).2 bound
  have spells := spells_padded_max width value
  rwa [Nat.max_eq_left short] at spells

@[simp] theorem isBlank_of_isDigit {character : Char} (digit : character.isDigit = true) :
    isBlank character = false := by
  have code : 48 ≤ character.toNat ∧ character.toNat ≤ 57 := by
    rw [Char.isDigit, Bool.and_eq_true, decide_eq_true_eq, decide_eq_true_eq] at digit
    exact ⟨UInt32.le_iff_toNat_le.1 digit.1, UInt32.le_iff_toNat_le.1 digit.2⟩
  simp only [isBlank, Bool.or_eq_false_iff, Bool.and_eq_false_iff, decide_eq_false_iff_not,
    beq_eq_false_iff_ne, ne_eq]
  omega

theorem natural?_digits {characters : List Char}
    (number : (natural? characters).isSome = true) :
    ∀ character ∈ characters, character.isDigit = true := by
  rw [natural?] at number
  split at number
  next => contradiction
  next digits =>
    rw [Bool.or_eq_true, not_or] at digits
    simpa using digits.2

theorem signed?_characters {characters : List Char}
    (number : (signed? characters).isSome = true) :
    ∀ character ∈ characters, character = '-' ∨ character = '+' ∨ character.isDigit = true := by
  have digits {rest : List Char} (number : natural? rest ≠ none) :
      ∀ character ∈ rest, character = '-' ∨ character = '+' ∨ character.isDigit = true :=
    fun _ member => .inr (.inr (natural?_digits (Option.isSome_iff_ne_none.2 number) _ member))
  unfold signed? at number
  dsimp only at number
  split at number
  next =>
    exact List.forall_mem_cons.2 ⟨.inl rfl, digits fun missing => by simp [missing] at number⟩
  next =>
    exact List.forall_mem_cons.2
      ⟨.inr (.inl rfl), digits fun missing => by simp [missing] at number⟩
  next => exact digits fun missing => by simp [missing] at number

@[simp] theorem trim_of_isDigit {characters : List Char}
    (digits : ∀ character ∈ characters, character.isDigit = true) :
    trim characters = characters := by
  have whole {characters : List Char}
      (digits : ∀ character ∈ characters, character.isDigit = true) :
      characters.dropWhile isBlank = characters := by
    cases characters with
    | nil => rfl
    | cons first rest =>
      rw [List.dropWhile_cons, isBlank_of_isDigit (digits first List.mem_cons_self)]
      rfl
  rw [trim, trimStart, whole digits, trimEnd,
    whole fun character member => digits character (List.mem_reverse.1 member),
    List.reverse_reverse]

@[simp]
theorem natural?_toDigits (number : Nat) : natural? (Nat.toDigits 10 number) = some number := by
  have digits : (Nat.toDigits 10 number).all Char.isDigit = true :=
    List.all_eq_true.2 fun _ member =>
      Nat.isDigit_of_mem_toDigits (by decide) (by decide) member
  have inhabited : (Nat.toDigits 10 number).isEmpty = false := by
    rw [List.isEmpty_eq_false_iff]
    exact Nat.toDigits_ne_nil
  have value := Nat.ofDigitChars_ten_toDigits (n := number)
  rw [Nat.ofDigitChars] at value
  simp only [natural?, digits, inhabited, Bool.not_true, Bool.or_self, Bool.false_eq_true, if_false,
    Nat.mul_comm _ 10, value]

theorem unsigned?_toString {number : Nat} (fits : number ≤ maxUnsigned) :
    unsigned? (trim (toString number).toList) = some number := by
  have digits : ∀ character ∈ Nat.toDigits 10 number, character.isDigit = true :=
    fun _ member => Nat.isDigit_of_mem_toDigits (by decide) (by decide) member
  rw [Nat.toString_eq_repr, Nat.toList_repr, trim_of_isDigit digits, unsigned?]
  · rw [natural?_toDigits, Option.bind_eq_bind, Option.bind_some, if_pos fits]
  · intro rest signed
    have sign := digits '+' (signed ▸ List.mem_cons_self)
    contradiction

namespace Spells

variable {characters rest : List Char} {width value : Nat}

theorem exists_cons (spells : Spells characters width value) (positive : 0 < width) :
    ∃ first others, characters = first :: others ∧ first.isDigit = true := by
  cases characters with
  | nil => exact absurd spells.length (Nat.ne_of_lt positive)
  | cons first others =>
    exact ⟨first, others, rfl, spells.digits first List.mem_cons_self⟩

theorem trimStart_append (spells : Spells characters width value) (positive : 0 < width) :
    trimStart (characters ++ rest) = characters ++ rest := by
  obtain ⟨first, others, rfl, digit⟩ := spells.exists_cons positive
  rw [List.cons_append, trimStart, List.dropWhile_cons, isBlank_of_isDigit digit]
  rfl

theorem not_mem (spells : Spells characters width value) {character : Char}
    (other : character.isDigit = false) : character ∉ characters := by
  intro member
  rw [spells.digits character member] at other
  contradiction

theorem append_zeros (spells : Spells characters width value) (count : Nat) :
    Spells (characters ++ List.replicate count '0') (width + count) (Nat.pow 10 count * value) where
  length := by rw [List.length_append, List.length_replicate, spells.length]
  digits := by
    intro character member
    rcases List.mem_append.1 member with digit | zero
    · exact spells.digits character digit
    · rw [List.eq_of_mem_replicate zero]
      rfl
  value := by
    rw [Nat.ofDigitChars_append, Nat.ofDigitChars_replicate_zero, spells.value, Nat.pow_eq]

end Spells

end SensorThings.Text
