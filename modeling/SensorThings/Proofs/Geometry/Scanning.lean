import SensorThings.Proofs.Geometry.Spelling
import SensorThings.Proofs.Sequencing

/-!
The scanner against the grammar. What the open lists still ask of the text is written down as
`Closes`; a scan keeps it from character to character, and at the end it says that one pair of
parentheses holds the contents of the result.
-/
namespace SensorThings.WellKnownText

open Text (Blank)

variable {top : List Nested} {outer : List (List Nested)} {pending text : List Char}
  {result : Nested}

/-! One item. -/

theorem coordinate_eq_ok_iff {position : Position} :
    coordinate text = .ok position ↔ Reads position text := by
  have pair {first second : List Char} {others : List (List Char)}
      (found : Text.words text = first :: second :: others) (short : others.length ≤ 1) :
      Reads position text ↔ Binary64.ofText? first = some position.x ∧
        Binary64.ofText? second = some position.y := by
    simp only [Reads, Begins, ← Text.words_eq_iff, found]
    constructor
    · rintro ⟨_, ⟨_, _, ⟨⟩, x, y⟩, -⟩
      exact ⟨x, y⟩
    · rintro ⟨x, y⟩
      exact ⟨others, ⟨first, second, rfl, x, y⟩, short⟩
  have made {x y : Float} : (.ok ⟨x, y⟩ : Except Fault Position) = .ok position ↔
      some x = some position.x ∧ some y = some position.y := by
    constructor
    · rintro ⟨⟩
      exact ⟨rfl, rfl⟩
    · rintro ⟨⟨⟩, ⟨⟩⟩
      rfl
  have refused {fault : Fault} {x y : Option Float} (missing : x = none ∨ y = none) :
      (.error fault : Except Fault Position) = .ok position ↔
        x = some position.x ∧ y = some position.y := by
    rcases missing with rfl | rfl <;> simp
  unfold coordinate
  dsimp only
  split
  next first second found =>
    rw [pair found (by simp)]
    cases Binary64.ofText? first with
    | none => exact refused (.inl rfl)
    | some x =>
      cases Binary64.ofText? second with
      | none => exact refused (.inr rfl)
      | some y => exact made
  next first second third found =>
    rw [pair found (by simp)]
    cases Binary64.ofText? first with
    | none => exact refused (.inl rfl)
    | some x =>
      cases Binary64.ofText? second with
      | none => exact refused (.inr rfl)
      | some y => exact made
  next notTwo notThree =>
    constructor
    · rintro ⟨⟩
    rintro ⟨others, ⟨first, second, spaced, -⟩, short⟩
    have found := spaced.words_eq
    rcases others with _ | ⟨third, _ | ⟨fourth, rest⟩⟩
    · exact absurd found (notTwo first second)
    · exact absurd found (notThree first second third)
    · simp at short

/-- Pending text becomes an item of the innermost list, unless it is blank. -/
theorem flush_eq_ok_iff {scan : Scan} :
    (Scan.mk (top :: outer) pending none).flush = .ok scan ↔
      ∃ items, Holds pending.reverse items ∧ scan = ⟨(items ++ top) :: outer, [], none⟩ := by
  rw [Scan.flush]
  dsimp only
  split
  next empty =>
    have blank := Text.trim_isEmpty_iff.1 empty
    constructor
    · rintro ⟨⟩
      exact ⟨[], .nothing blank, rfl⟩
    · rintro ⟨_, ⟨-⟩ | reads, rfl⟩
      · rfl
      · exact absurd blank reads.not_blank
  next inhabited =>
    have shown : ¬Blank pending.reverse := fun blank => inhabited (Text.trim_isEmpty_iff.2 blank)
    simp only [bind_eq_ok_iff, coordinate_eq_ok_iff, Reads, begins_trim_iff]
    constructor
    · rintro ⟨position, reads, ⟨⟩⟩
      exact ⟨[.coordinate position], .position reads, rfl⟩
    · rintro ⟨_, blank | reads, rfl⟩
      · contradiction
      · exact ⟨_, reads, rfl⟩

/-! The open lists. -/

/-- What is left of a text when the innermost list has ended with `items`. -/
def Ends : List (List Nested) → List Nested → List Char → Nested → Prop
  | [], items, text, result => Blank text ∧ result = .list items
  | parent :: outer, items, text, result =>
    ∃ inner rest others, text = inner ++ ')' :: rest ∧ Contents [] inner others ∧
      Ends outer ((.list items :: parent).reverse ++ others) rest result

/-- What is left of a text when the innermost list holds `top` and `pending` is not yet an item. -/
def Closes (top : List Nested) (outer : List (List Nested)) (pending text : List Char)
    (result : Nested) : Prop :=
  ∃ inner rest items, text = inner ++ ')' :: rest ∧ Contents pending.reverse inner items ∧
    Ends outer (top.reverse ++ items) rest result

@[simp] theorem not_closes_nil : ¬Closes top outer pending [] result := by
  rintro ⟨inner, rest, items, shape, -⟩
  simp at shape

theorem closes_cons_iff {character : Char} :
    Closes top outer pending (character :: text) result ↔
      (character = ')' ∧ ∃ items, Holds pending.reverse items ∧
        Ends outer (top.reverse ++ items) text result) ∨
      ∃ inner rest items, text = inner ++ ')' :: rest ∧
        Contents pending.reverse (character :: inner) items ∧
          Ends outer (top.reverse ++ items) rest result := by
  constructor
  · rintro ⟨inner, rest, items, shape, contents, ends⟩
    cases inner with
    | nil =>
      obtain ⟨rfl, rfl⟩ := List.cons.inj shape
      cases contents with
      | done holds => exact .inl ⟨rfl, items, holds, ends⟩
    | cons first inner =>
      obtain ⟨rfl, rfl⟩ := List.cons.inj shape
      exact .inr ⟨inner, rest, items, rfl, contents, ends⟩
  · rintro (⟨rfl, items, holds, ends⟩ | ⟨inner, rest, items, rfl, contents, ends⟩)
    · exact ⟨[], text, items, rfl, .done holds, ends⟩
    · exact ⟨character :: inner, rest, items, rfl, contents, ends⟩

@[simp] theorem closes_open_iff :
    Closes top outer pending ('(' :: text) result ↔
      Closes [] (top :: outer) pending text result := by
  rw [closes_cons_iff]
  constructor
  · rintro (⟨wrong, -⟩ | ⟨inner, rest, items, rfl, contents, ends⟩)
    · contradiction
    cases contents with
    | other unmarked => contradiction
    | @list _ text following innerItems items contents later =>
      refine ⟨text, following ++ ')' :: rest, innerItems, by simp, contents, following, rest, items,
        rfl, later, ?_⟩
      simpa using ends
  · rintro ⟨inner, rest, items, rfl, contents, following, last, others, rfl, later, ends⟩
    refine .inr ⟨inner ++ ')' :: following, last, .list items :: others, by simp,
      .list contents later, ?_⟩
    simpa using ends

theorem Holds.reverse_eq {items : List Nested} (holds : Holds text items) :
    items.reverse = items := by
  cases holds <;> rfl

@[simp] theorem closes_comma_iff :
    Closes top outer pending (',' :: text) result ↔
      ∃ items, Holds pending.reverse items ∧ Closes (items ++ top) outer [] text result := by
  rw [closes_cons_iff]
  constructor
  · rintro (⟨wrong, -⟩ | ⟨inner, rest, items, rfl, contents, ends⟩)
    · contradiction
    cases contents with
    | other unmarked => contradiction
    | @comma _ _ first items holds later =>
      refine ⟨first, holds, inner, rest, items, rfl, later, ?_⟩
      rwa [List.reverse_append, holds.reverse_eq, List.append_assoc]
  · rintro ⟨first, holds, inner, rest, items, rfl, later, ends⟩
    refine .inr ⟨inner, rest, first ++ items, rfl, .comma holds later, ?_⟩
    rwa [List.reverse_append, holds.reverse_eq, List.append_assoc] at ends

@[simp] theorem closes_close_iff :
    Closes top outer pending (')' :: text) result ↔
      ∃ items, Holds pending.reverse items ∧ Ends outer (items ++ top).reverse text result := by
  rw [closes_cons_iff]
  constructor
  · rintro (⟨-, items, holds, ends⟩ | ⟨inner, rest, items, rfl, contents, ends⟩)
    · exact ⟨items, holds, by rwa [List.reverse_append, holds.reverse_eq]⟩
    · cases contents with
      | other unmarked => contradiction
  · rintro ⟨items, holds, ends⟩
    exact .inl ⟨rfl, items, holds, by rwa [List.reverse_append, holds.reverse_eq] at ends⟩

theorem closes_other_iff {character : Char} (unmarked : isMark character = false) :
    Closes top outer pending (character :: text) result ↔
      Closes top outer (character :: pending) text result := by
  rw [closes_cons_iff, Closes]
  simp only [List.reverse_cons]
  constructor
  · rintro (⟨rfl, -⟩ | ⟨inner, rest, items, rfl, contents, ends⟩)
    · contradiction
    cases contents with
    | other _ contents => exact ⟨inner, rest, items, rfl, contents, ends⟩
    | comma => contradiction
    | list => contradiction
  · rintro ⟨inner, rest, items, rfl, contents, ends⟩
    exact .inr ⟨inner, rest, items, rfl, .other unmarked contents, ends⟩

/-! Scans. -/

@[simp] theorem step_open (stack : List (List Nested)) (pending : List Char) :
    Scan.step ⟨stack, pending, none⟩ '(' = .ok ⟨[] :: stack, pending, none⟩ :=
  rfl

@[simp] theorem step_comma (scan : Scan) : scan.step ',' = scan.flush :=
  rfl

@[simp] theorem step_close (scan : Scan) : scan.step ')' = (scan.flush >>= pure ∘ Scan.close) :=
  rfl

theorem step_other {character : Char} (unmarked : isMark character = false) (scan : Scan) :
    scan.step character =
      if scan.stack.isEmpty && !Text.isBlank character then .error (.unexpected character)
      else .ok { scan with pending := character :: scan.pending } := by
  simp only [isMark, Bool.or_eq_false_iff, beq_eq_false_iff_ne] at unmarked
  rw [Scan.step, if_neg unmarked.1.1, if_neg unmarked.1.2, if_neg unmarked.2]

theorem foldlM_closed_iff {nested : Nested} :
    (text.foldlM Scan.step ⟨[], pending, some nested⟩ >>= Scan.finish) = .ok result ↔
      Blank text ∧ result = nested := by
  induction text generalizing pending with
  | nil =>
    rw [List.foldlM_nil]
    exact ⟨fun done => ⟨Text.blank_nil, (Except.ok.inj done).symm⟩, fun same => same.2 ▸ rfl⟩
  | cons character rest ih =>
    rw [List.foldlM_cons, bind_assoc, Text.blank_cons_iff]
    cases mark : isMark character with
    | true =>
      rw [isBlank_of_isMark mark]
      simp only [isMark, Bool.or_eq_true, beq_iff_eq] at mark
      refine iff_of_false ?_ (by simp)
      rcases mark with (rfl | rfl) | rfl <;> rintro ⟨⟩
    | false =>
      rw [step_other mark]
      cases blank : Text.isBlank character with
      | true =>
        rw [and_iff_right rfl]
        exact ih
      | false =>
        refine iff_of_false ?_ (by simp)
        rintro ⟨⟩

theorem foldlM_step_iff :
    (text.foldlM Scan.step ⟨top :: outer, pending, none⟩ >>= Scan.finish) = .ok result ↔
      Closes top outer pending text result := by
  induction text generalizing top outer pending with
  | nil =>
    refine iff_of_false ?_ not_closes_nil
    rintro ⟨⟩
  | cons character rest ih =>
    rw [List.foldlM_cons, bind_assoc]
    cases mark : isMark character with
    | true =>
      simp only [isMark, Bool.or_eq_true, beq_iff_eq] at mark
      rcases mark with (rfl | rfl) | rfl
      · rw [step_open, closes_open_iff]
        exact ih
      · rw [step_comma, closes_comma_iff, bind_eq_ok_iff]
        simp only [flush_eq_ok_iff]
        constructor
        · rintro ⟨_, ⟨items, holds, rfl⟩, done⟩
          exact ⟨items, holds, ih.1 done⟩
        · rintro ⟨items, holds, closes⟩
          exact ⟨_, ⟨items, holds, rfl⟩, ih.2 closes⟩
      · rw [step_close, closes_close_iff, bind_assoc, bind_eq_ok_iff]
        simp only [flush_eq_ok_iff]
        have closed (items : List Nested) :
            (rest.foldlM Scan.step (Scan.mk (items :: outer) [] none).close >>= Scan.finish) =
              .ok result ↔ Ends outer items.reverse rest result := by
          cases outer with
          | nil => exact foldlM_closed_iff
          | cons parent outer => exact ih
        constructor
        · rintro ⟨_, ⟨items, holds, rfl⟩, done⟩
          exact ⟨items, holds, (closed _).1 done⟩
        · rintro ⟨items, holds, ends⟩
          exact ⟨_, ⟨items, holds, rfl⟩, (closed _).2 ends⟩
    | false =>
      rw [step_other mark, closes_other_iff mark]
      exact ih

theorem nested_eq_ok_iff :
    nested ('(' :: text) = .ok result ↔ ∃ inner after items,
      text = inner ++ ')' :: after ∧ Contents [] inner items ∧ Blank after ∧
        result = .list items := by
  have opened : nested ('(' :: text) =
      (text.foldlM Scan.step ⟨[[]], [], none⟩ >>= Scan.finish) := rfl
  rw [opened, foldlM_step_iff]
  rfl

end SensorThings.WellKnownText
