import SensorThings.Geometry.WellKnownText
import SensorThings.Proofs.Text.Words

/-!
How a body in parentheses is written. `Listed` is well-known text proper: items are parted by one
comma each, and a coordinate stands between marks of its own list. `Contents` is what the scanner
makes of a text: it passes over items that are left out, asks for no comma after a list, and text
before a list is read on inside it. All that is listed is contents.
-/
namespace SensorThings.WellKnownText

open Text (Blank Spaced)

def isMark (character : Char) : Bool :=
  character == '(' || character == ',' || character == ')'

def Begins (position : Position) (others : List (List Char)) (text : List Char) : Prop :=
  ∃ first second, Spaced (first :: second :: others) text ∧
    Binary64.ofText? first = some position.x ∧ Binary64.ofText? second = some position.y

def Writes (position : Position) (text : List Char) : Prop :=
  ∃ others, Begins position others text ∧ others.length ≤ 1 ∧
    ∀ third ∈ others, (Binary64.ofText? third).isSome = true

/-- A third word is not looked at. -/
def Reads (position : Position) (text : List Char) : Prop :=
  ∃ others, Begins position others text ∧ others.length ≤ 1

/-- One item or more, parted by commas. -/
inductive Listed : List Nested → List Char → Prop where
  | position {position : Position} {text : List Char} :
      Writes position text → Listed [.coordinate position] text
  | positionThen {position : Position} {text rest : List Char} {items : List Nested} :
      Writes position text → Listed items rest →
      Listed (.coordinate position :: items) (text ++ ',' :: rest)
  | list {items : List Nested} {before text after : List Char} :
      Blank before → Listed items text → Blank after →
      Listed [.list items] (before ++ '(' :: (text ++ ')' :: after))
  | listThen {inner items : List Nested} {before text after rest : List Char} :
      Blank before → Listed inner text → Blank after → Listed items rest →
      Listed (.list inner :: items) (before ++ '(' :: (text ++ ')' :: (after ++ ',' :: rest)))

/-- The item that pending text stands for; none if it is blank. -/
inductive Holds : List Char → List Nested → Prop where
  | nothing {text : List Char} : Blank text → Holds text []
  | position {position : Position} {text : List Char} :
      Reads position text → Holds text [.coordinate position]

/-- The items between two parentheses, after text that is still pending. -/
inductive Contents : List Char → List Char → List Nested → Prop where
  | done {pending : List Char} {items : List Nested} :
      Holds pending items → Contents pending [] items
  | comma {pending rest : List Char} {first items : List Nested} :
      Holds pending first → Contents [] rest items → Contents pending (',' :: rest) (first ++ items)
  | list {pending text rest : List Char} {inner items : List Nested} :
      Contents pending text inner → Contents [] rest items →
      Contents pending ('(' :: (text ++ ')' :: rest)) (.list inner :: items)
  | other {pending rest : List Char} {character : Char} {items : List Nested} :
      isMark character = false → Contents (pending ++ [character]) rest items →
      Contents pending (character :: rest) items

theorem isBlank_of_isMark {character : Char} (mark : isMark character = true) :
    Text.isBlank character = false := by
  simp only [isMark, Bool.or_eq_true, beq_iff_eq] at mark
  rcases mark with (rfl | rfl) | rfl <;> rfl

@[simp] theorem isMark_of_isBlank {character : Char} (blank : Text.isBlank character = true) :
    isMark character = false := by
  rw [← Bool.not_eq_true]
  intro mark
  rw [isBlank_of_isMark mark] at blank
  contradiction

theorem unmarked_of_blank {text : List Char} (blank : Blank text) :
    ∀ character ∈ text, isMark character = false :=
  fun character member => isMark_of_isBlank (blank character member)

@[simp]
theorem isMark_of_isNumeral {character : Char} (numeral : Binary64.isNumeral character = true) :
    isMark character = false := by
  rw [← Bool.not_eq_true]
  intro mark
  simp only [isMark, Bool.or_eq_true, beq_iff_eq] at mark
  rcases mark with (rfl | rfl) | rfl <;> contradiction

section

variable {position : Position} {text gap : List Char} {others : List (List Char)}

theorem Begins.not_blank (begins : Begins position others text) : ¬Blank text := by
  obtain ⟨first, second, spaced, -⟩ := begins
  intro blank
  have none := (Spaced.blank blank).words_eq
  rw [spaced.words_eq] at none
  contradiction

@[simp]
theorem begins_trim_iff :
    Begins position others (Text.trim text) ↔ Begins position others text := by
  simp only [Begins, ← Text.words_eq_iff, Text.words_trim]

@[simp] theorem begins_blank_append_iff (blank : Blank gap) :
    Begins position others (gap ++ text) ↔ Begins position others text := by
  simp only [Begins, ← Text.words_eq_iff, Text.words_blank_append blank]

theorem Writes.reads (writes : Writes position text) : Reads position text := by
  obtain ⟨others, begins, short, -⟩ := writes
  exact ⟨others, begins, short⟩

theorem Reads.not_blank (reads : Reads position text) : ¬Blank text := by
  obtain ⟨others, begins, -⟩ := reads
  exact begins.not_blank

theorem Writes.not_blank (writes : Writes position text) : ¬Blank text :=
  writes.reads.not_blank

theorem Writes.unmarked (writes : Writes position text) :
    ∀ character ∈ text, isMark character = false := by
  obtain ⟨others, ⟨first, second, spaced, x, y⟩, -, numbers⟩ := writes
  have numerals {word : List Char} (number : (Binary64.ofText? word).isSome = true) :
      ∀ character ∈ word, isMark character = false := fun character member =>
    isMark_of_isNumeral ((Binary64.numerals_of_ofText? number).2 character member)
  intro character member
  rcases spaced.mem member with blank | ⟨word, listed, inside⟩
  · exact isMark_of_isBlank blank
  rw [List.mem_cons, List.mem_cons] at listed
  rcases listed with rfl | rfl | other
  · exact numerals (Option.isSome_of_eq_some x) character inside
  · exact numerals (Option.isSome_of_eq_some y) character inside
  · exact numerals (numbers word other) character inside

end

namespace Contents

variable {pending text rest : List Char} {items : List Nested}

theorem unmarked_append (unmarked : ∀ character ∈ text, isMark character = false)
    (contents : Contents (pending ++ text) rest items) : Contents pending (text ++ rest) items := by
  induction text generalizing pending with
  | nil => rwa [List.append_nil] at contents
  | cons character following ih =>
    rw [List.forall_mem_cons] at unmarked
    refine .other unmarked.1 (ih unmarked.2 ?_)
    rwa [List.append_assoc, List.singleton_append]

theorem blank_append (blank : Blank text) (contents : Contents (pending ++ text) rest items) :
    Contents pending (text ++ rest) items :=
  unmarked_append (unmarked_of_blank blank) contents

end Contents

theorem Listed.contents {items : List Nested} {text : List Char} (listed : Listed items text)
    {pending : List Char} (blank : Blank pending) : Contents pending text items := by
  have holds {position : Position} {text : List Char} (writes : Writes position text) :
      ∀ {pending : List Char}, Blank pending → Holds (pending ++ text) [.coordinate position] := by
    intro pending blank
    obtain ⟨others, begins, short⟩ := writes.reads
    exact .position ⟨others, (begins_blank_append_iff blank).2 begins, short⟩
  induction listed generalizing pending with
  | @position position text writes =>
    rw [← List.append_nil text]
    exact .unmarked_append writes.unmarked (.done (holds writes blank))
  | positionThen writes _ ih =>
    exact .unmarked_append writes.unmarked (.comma (holds writes blank) (ih Text.blank_nil))
  | @list items before text after blankBefore _ blankAfter ih =>
    refine .blank_append blankBefore (.list (ih (Text.blank_append_iff.2 ⟨blank, blankBefore⟩)) ?_)
    rw [← List.append_nil after]
    exact .blank_append blankAfter (.done (.nothing blankAfter))
  | listThen blankBefore _ blankAfter _ ihInner ihRest =>
    refine .blank_append blankBefore
      (.list (ihInner (Text.blank_append_iff.2 ⟨blank, blankBefore⟩)) ?_)
    exact .blank_append blankAfter (.comma (.nothing blankAfter) (ihRest Text.blank_nil))

end SensorThings.WellKnownText
