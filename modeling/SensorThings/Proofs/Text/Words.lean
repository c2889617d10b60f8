import Mathlib.Data.List.TakeWhile
import SensorThings.Text.Blank

/-!
Words and the white space around them. A text is cut into words in just one way, so the words that
are found are those that were written.
-/
namespace SensorThings.Text

/-- White space alone, or nothing at all. -/
def Blank (characters : List Char) : Prop :=
  ∀ character ∈ characters, isBlank character = true

instance (characters : List Char) : Decidable (Blank characters) :=
  List.decidableBAll (fun character => isBlank character = true) characters

def blankCodes : List Nat :=
  [9, 10, 11, 12, 13, 0x20, 0x85, 0xA0, 0x1680, 0x2000, 0x2001, 0x2002, 0x2003, 0x2004, 0x2005,
    0x2006, 0x2007, 0x2008, 0x2009, 0x200A, 0x2028, 0x2029, 0x202F, 0x205F, 0x3000]

theorem forall_of_blankCodes (property : Char → Prop)
    (each : ∀ code ∈ blankCodes, property (Char.ofNat code)) {character : Char}
    (blank : isBlank character = true) : property character := by
  rw [← character.ofNat_toNat]
  refine each _ ?_
  simp only [isBlank, Bool.or_eq_true, Bool.and_eq_true, decide_eq_true_eq, beq_iff_eq] at blank
  simp only [blankCodes, List.mem_cons, List.not_mem_nil]
  omega

def IsWord (characters : List Char) : Prop :=
  characters ≠ [] ∧ ∀ character ∈ characters, isBlank character = false

/-- Words in order, with white space between them, and perhaps before the first and after the last.
-/
inductive Spaced : List (List Char) → List Char → Prop where
  | blank {gap : List Char} : Blank gap → Spaced [] gap
  | last {gap word after : List Char} : Blank gap → IsWord word → Blank after →
      Spaced [word] (gap ++ (word ++ after))
  | word {gap word : List Char} {space : Char} {rest : List Char} {words : List (List Char)} :
      Blank gap → IsWord word → isBlank space = true → Spaced words rest →
      Spaced (word :: words) (gap ++ (word ++ space :: rest))

@[simp] theorem blank_nil : Blank [] :=
  List.forall_mem_nil _

@[simp] theorem blank_cons_iff {character : Char} {characters : List Char} :
    Blank (character :: characters) ↔ isBlank character = true ∧ Blank characters :=
  List.forall_mem_cons

@[simp] theorem blank_append_iff {first second : List Char} :
    Blank (first ++ second) ↔ Blank first ∧ Blank second :=
  List.forall_mem_append

@[simp] theorem blank_reverse_iff {characters : List Char} :
    Blank characters.reverse ↔ Blank characters := by
  simp only [Blank, List.mem_reverse]

theorem isWord_reverse {word : List Char} (inhabited : word ≠ [])
    (visible : ∀ character ∈ word, isBlank character = false) : IsWord word.reverse :=
  ⟨by simpa using inhabited, by simpa using visible⟩

namespace Spaced

variable {words : List (List Char)} {gap characters : List Char}

theorem blank_append (blank : Blank gap) (spaced : Spaced words characters) :
    Spaced words (gap ++ characters) := by
  cases spaced with
  | blank rest => exact .blank (blank_append_iff.2 ⟨blank, rest⟩)
  | last before isWord after =>
    rw [← List.append_assoc]
    exact .last (blank_append_iff.2 ⟨blank, before⟩) isWord after
  | word before isWord space spaced =>
    rw [← List.append_assoc]
    exact .word (blank_append_iff.2 ⟨blank, before⟩) isWord space spaced

theorem append_blank (spaced : Spaced words characters) (blank : Blank gap) :
    Spaced words (characters ++ gap) := by
  induction spaced with
  | blank rest => exact .blank (blank_append_iff.2 ⟨rest, blank⟩)
  | last before isWord after =>
    rw [List.append_assoc, List.append_assoc]
    exact .last before isWord (blank_append_iff.2 ⟨after, blank⟩)
  | word before isWord space spaced ih =>
    rw [List.append_assoc, List.append_assoc, List.cons_append]
    exact .word before isWord space ih

theorem mem {character : Char} (spaced : Spaced words characters)
    (member : character ∈ characters) :
    isBlank character = true ∨ ∃ word ∈ words, character ∈ word := by
  induction spaced with
  | blank blank => exact .inl (blank character member)
  | last before _ after =>
    rcases List.mem_append.1 member with inGap | member
    · exact .inl (before character inGap)
    rcases List.mem_append.1 member with inWord | inAfter
    · exact .inr ⟨_, List.mem_cons_self, inWord⟩
    · exact .inl (after character inAfter)
  | word before isWord space spaced ih =>
    rcases List.mem_append.1 member with inGap | member
    · exact .inl (before character inGap)
    rcases List.mem_append.1 member with inWord | member
    · exact .inr ⟨_, List.mem_cons_self, inWord⟩
    rcases List.mem_cons.1 member with rfl | inRest
    · exact .inl space
    · exact (ih inRest).imp_right fun ⟨found, listed, inside⟩ =>
        ⟨found, List.mem_cons_of_mem _ listed, inside⟩

end Spaced

@[simp] theorem wordsFrom_blank {gap : List Char} (blank : Blank gap) (rest : List Char) :
    wordsFrom [] (gap ++ rest) = wordsFrom [] rest := by
  induction gap with
  | nil => rfl
  | cons character others ih =>
    obtain ⟨first, blank⟩ := blank_cons_iff.1 blank
    rw [List.cons_append, wordsFrom, if_pos first, List.isEmpty_nil, if_pos rfl, ih blank]

theorem wordsFrom_visible {word : List Char}
    (visible : ∀ character ∈ word, isBlank character = false)
    (current rest : List Char) :
    wordsFrom current (word ++ rest) = wordsFrom (word.reverse ++ current) rest := by
  induction word generalizing current with
  | nil => rfl
  | cons character others ih =>
    rw [List.forall_mem_cons] at visible
    rw [List.cons_append, wordsFrom, visible.1, if_neg Bool.false_ne_true, ih visible.2,
      List.reverse_cons, List.append_assoc, List.singleton_append]

@[simp] theorem words_blank_append {gap : List Char} (blank : Blank gap) (rest : List Char) :
    words (gap ++ rest) = words rest :=
  wordsFrom_blank blank rest

theorem words_append {gap word : List Char} {space : Char} (blank : Blank gap)
    (isWord : IsWord word) (between : isBlank space = true) (rest : List Char) :
    words (gap ++ (word ++ space :: rest)) = word :: words rest := by
  have inhabited : word.reverse.isEmpty = false := by simpa using isWord.1
  rw [words, wordsFrom_blank blank, wordsFrom_visible isWord.2, List.append_nil, wordsFrom,
    if_pos between, inhabited, if_neg Bool.false_ne_true, List.reverse_reverse, words]

theorem Spaced.words_eq {list : List (List Char)} {characters : List Char}
    (spaced : Spaced list characters) : words characters = list := by
  induction spaced with
  | @blank gap blank =>
    rw [← List.append_nil gap, words, wordsFrom_blank blank]
    rfl
  | @last gap word after before isWord blank =>
    cases after with
    | nil =>
      have inhabited : word.reverse.isEmpty = false := by simpa using isWord.1
      rw [words, wordsFrom_blank before, wordsFrom_visible isWord.2, List.append_nil, wordsFrom,
        inhabited, if_neg Bool.false_ne_true, List.reverse_reverse]
    | cons space rest =>
      obtain ⟨between, blank⟩ := blank_cons_iff.1 blank
      rw [words_append before isWord between, ← List.append_nil rest, words, wordsFrom_blank blank]
      rfl
  | word before isWord between _ ih => rw [words_append before isWord between, ih]

theorem spaced_wordsFrom (characters : List Char) {current : List Char}
    (visible : ∀ character ∈ current, isBlank character = false) :
    Spaced (wordsFrom current characters) (current.reverse ++ characters) := by
  induction characters generalizing current with
  | nil =>
    rw [wordsFrom]
    split
    next empty =>
      rw [List.isEmpty_iff.1 empty]
      exact .blank blank_nil
    next inhabited =>
      exact .last blank_nil (isWord_reverse (by simpa using inhabited) visible) blank_nil
  | cons character rest ih =>
    rw [wordsFrom]
    split
    next space =>
      have later : Spaced (wordsFrom [] rest) rest := ih (List.forall_mem_nil _)
      split
      next empty =>
        rw [List.isEmpty_iff.1 empty]
        have apart : Spaced (wordsFrom [] rest) ([character] ++ rest) :=
          later.blank_append (blank_cons_iff.2 ⟨space, blank_nil⟩)
        exact apart
      next inhabited =>
        exact .word blank_nil (isWord_reverse (by simpa using inhabited) visible) space later
    next shown =>
      have further : ∀ other ∈ character :: current, isBlank other = false :=
        List.forall_mem_cons.2 ⟨by simpa using shown, visible⟩
      have later := ih further
      rwa [List.reverse_cons, List.append_assoc] at later

theorem words_eq_iff {list : List (List Char)} {characters : List Char} :
    words characters = list ↔ Spaced list characters := by
  refine ⟨?_, Spaced.words_eq⟩
  rintro rfl
  exact spaced_wordsFrom characters (List.forall_mem_nil _)

/-! Trimming. -/

theorem blank_takeWhile (characters : List Char) : Blank (characters.takeWhile isBlank) :=
  fun _ member => List.mem_takeWhile_imp member

theorem exists_trim (characters : List Char) : ∃ before after,
    characters = before ++ (trim characters ++ after) ∧ Blank before ∧ Blank after := by
  refine ⟨characters.takeWhile isBlank,
    ((trimStart characters).reverse.takeWhile isBlank).reverse, ?_, blank_takeWhile _,
    blank_reverse_iff.2 (blank_takeWhile _)⟩
  rw [trim, trimEnd, ← List.reverse_append, List.takeWhile_append_dropWhile, List.reverse_reverse,
    trimStart, List.takeWhile_append_dropWhile]

theorem dropWhile_blank_append {before rest : List Char} (blank : Blank before)
    (inhabited : rest ≠ []) (visible : ∀ first ∈ rest.head?, isBlank first = false) :
    (before ++ rest).dropWhile isBlank = rest := by
  obtain ⟨first, others, rfl⟩ := List.exists_cons_of_ne_nil inhabited
  rw [List.dropWhile_append_of_pos blank, List.dropWhile_cons_of_neg (by simp [visible first rfl])]

theorem trim_append {before middle after : List Char} (blankBefore : Blank before)
    (blankAfter : Blank after) (inhabited : middle ≠ [])
    (starts : ∀ first ∈ middle.head?, isBlank first = false)
    (ends : ∀ last ∈ middle.getLast?, isBlank last = false) :
    trim (before ++ (middle ++ after)) = middle := by
  have start : trimStart (before ++ (middle ++ after)) = middle ++ after := by
    refine dropWhile_blank_append blankBefore (by simp [inhabited]) fun first member => ?_
    obtain ⟨head, others, rfl⟩ := List.exists_cons_of_ne_nil inhabited
    exact starts first member
  rw [trim, start, trimEnd, List.reverse_append,
    dropWhile_blank_append (blank_reverse_iff.2 blankAfter) (by simpa using inhabited)
      (by simpa using ends), List.reverse_reverse]

theorem trim_isEmpty_iff {characters : List Char} :
    (trim characters).isEmpty = true ↔ Blank characters := by
  obtain ⟨before, after, shape, blankBefore, blankAfter⟩ := exists_trim characters
  constructor
  · intro empty
    rw [List.isEmpty_iff.1 empty] at shape
    rw [shape]
    simp [blankBefore, blankAfter]
  · intro blank
    rw [trim, trimStart, List.dropWhile_eq_nil_iff.2 blank]
    rfl

@[simp]
theorem words_trim (characters : List Char) : words (trim characters) = words characters := by
  obtain ⟨before, after, shape, blankBefore, blankAfter⟩ := exists_trim characters
  refine (words_eq_iff.2 ?_).symm
  have spaced := words_eq_iff.1 (rfl : words (trim characters) = _)
  have surrounded := (spaced.append_blank blankAfter).blank_append blankBefore
  rwa [← shape] at surrounded

end SensorThings.Text
