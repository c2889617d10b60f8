import SensorThings.Proofs.Geometry.Spelling

/-!
Where contents depart from a list. Two neighbouring marks and the text between them tell whether an
item or a comma is missing there, whether text is carried into a list, and whether a third word is
no number; contents with none of these are listed, and nothing that is listed has any.
-/
namespace SensorThings.WellKnownText

open Text (Blank)

/-- What the scanner passes over without a fault. -/
inductive Slip where
  | missingItem
  | missingComma
  | carriedText
  | unreadWord (word : List Char)
deriving DecidableEq, Repr

def slipsBetween (left : Char) (text : List Char) (right : Char) : List Slip :=
  if Blank text then
    if left = ')' then (if right = '(' then [.missingComma] else [])
    else if right = '(' then [] else [.missingItem]
  else
    (if left = ')' then [.missingComma] else []) ++ (if right = '(' then [.carriedText] else []) ++
      (((Text.words text).drop 2).filter fun word => (Binary64.ofText? word).isNone).map .unreadWord

/-- The slips from a mark on, where `text` was read since. The contents end with their list. -/
def slipsFrom (left : Char) (text : List Char) : List Char → List Slip
  | [] => slipsBetween left text ')'
  | character :: rest =>
    if isMark character then slipsBetween left text character ++ slipsFrom character [] rest
    else slipsFrom left (text ++ [character]) rest

def slips (contents : List Char) : List Slip :=
  slipsFrom '(' [] contents

variable {left right : Char} {pending gap text rest : List Char} {items : List Nested}
  {position : Position}

@[simp] theorem slipsBetween_of_blank (blank : Blank text) :
    slipsBetween left text right = [] ↔ (left = ')' ↔ right ≠ '(') := by
  rw [slipsBetween, if_pos blank]
  by_cases closed : left = ')' <;> by_cases opens : right = '(' <;> simp [closed, opens]

theorem slipsBetween_of_not_blank (shown : ¬Blank text) :
    slipsBetween left text right = [] ↔ left ≠ ')' ∧ right ≠ '(' ∧
      ∀ third ∈ (Text.words text).drop 2, (Binary64.ofText? third).isSome = true := by
  rw [slipsBetween, if_neg shown]
  by_cases closed : left = ')' <;> by_cases opens : right = '(' <;>
    simp [closed, opens, List.filter_eq_nil_iff, Option.isSome_iff_ne_none]

/-- White space before a list is no slip, unless a list has just ended. -/
theorem slipsBetween_open (blank : Blank text) (opened : left ≠ ')') :
    slipsBetween left text '(' = [] :=
  (slipsBetween_of_blank blank).2 (by simp [opened])

theorem slipsBetween_close (blank : Blank text) (ends : right ≠ '(') :
    slipsBetween ')' text right = [] :=
  (slipsBetween_of_blank blank).2 (by simp [ends])

theorem slipsFrom_mark {mark : Char} (marked : isMark mark = true) :
    slipsFrom left text (mark :: rest) = slipsBetween left text mark ++ slipsFrom mark [] rest := by
  rw [slipsFrom, if_pos marked]

theorem slipsFrom_append (unmarked : ∀ character ∈ text, isMark character = false) :
    slipsFrom left gap (text ++ rest) = slipsFrom left (gap ++ text) rest := by
  induction text generalizing gap with
  | nil => simp
  | cons character following ih =>
    rw [List.forall_mem_cons] at unmarked
    rw [List.cons_append, slipsFrom, unmarked.1, if_neg Bool.false_ne_true, ih unmarked.2,
      List.append_assoc, List.singleton_append]

theorem slipsFrom_append_close (left : Char) (gap text rest : List Char) :
    slipsFrom left gap (text ++ ')' :: rest) =
      slipsFrom left gap text ++ slipsFrom ')' [] rest := by
  induction text generalizing left gap with
  | nil => exact slipsFrom_mark rfl
  | cons character following ih =>
    rw [List.cons_append, slipsFrom, slipsFrom]
    split
    next => rw [ih, List.append_assoc]
    next => rw [ih]

theorem slipsFrom_nil_append (unmarked : ∀ character ∈ text, isMark character = false) :
    slipsFrom left gap text = slipsBetween left (gap ++ text) ')' := by
  rw [← List.append_nil text, slipsFrom_append unmarked, List.append_nil, slipsFrom]

/-! Nothing that is listed has slips. -/

theorem slipsBetween_of_writes (writes : Writes position text) (blank : Blank gap)
    (opened : left ≠ ')') (ends : right ≠ '(') : slipsBetween left (gap ++ text) right = [] := by
  have shown : ¬Blank (gap ++ text) := by simp [writes.not_blank]
  obtain ⟨others, ⟨first, second, spaced, -⟩, -, numbers⟩ := writes
  refine (slipsBetween_of_not_blank shown).2 ⟨opened, ends, ?_⟩
  rwa [Text.words_blank_append blank, spaced.words_eq]

theorem Listed.slipsFrom_eq_nil (listed : Listed items text) (opened : left ≠ ')')
    (blank : Blank gap) : slipsFrom left gap text = [] := by
  induction listed generalizing left gap with
  | position writes =>
    rw [slipsFrom_nil_append writes.unmarked]
    exact slipsBetween_of_writes writes blank opened (by decide)
  | positionThen writes _ ih =>
    rw [slipsFrom_append writes.unmarked, slipsFrom_mark rfl,
      slipsBetween_of_writes writes blank opened (by decide)]
    exact ih (by decide) Text.blank_nil
  | list blankBefore _ blankAfter ih =>
    rw [slipsFrom_append (unmarked_of_blank blankBefore), slipsFrom_mark rfl,
      slipsBetween_open (Text.blank_append_iff.2 ⟨blank, blankBefore⟩) opened,
      slipsFrom_append_close, ih (by decide) Text.blank_nil,
      slipsFrom_nil_append (unmarked_of_blank blankAfter)]
    exact slipsBetween_close blankAfter (by decide)
  | @listThen inner items before text after rest blankBefore _ blankAfter _ ihInner ihRest =>
    have last : slipsBetween ')' ([] ++ after) ',' = [] := slipsBetween_close blankAfter (by decide)
    rw [slipsFrom_append (unmarked_of_blank blankBefore), slipsFrom_mark rfl,
      slipsBetween_open (Text.blank_append_iff.2 ⟨blank, blankBefore⟩) opened,
      slipsFrom_append_close, ihInner (by decide) Text.blank_nil,
      slipsFrom_append (unmarked_of_blank blankAfter), slipsFrom_mark rfl, last]
    exact ihRest (by decide) Text.blank_nil

/-! Contents without slips are listed. -/

theorem Holds.cases_of_clean (holds : Holds (gap ++ text) items) (blank : Blank gap)
    (ends : right ≠ '(') (clean : slipsBetween left text right = []) :
    (left = ')' ∧ Blank text ∧ items = []) ∨
      (left ≠ ')' ∧ ∃ position, items = [.coordinate position] ∧ Writes position text) := by
  by_cases shown : Blank text
  · have closed := ((slipsBetween_of_blank shown).1 clean).2 ends
    cases holds with
    | nothing => exact .inl ⟨closed, shown, rfl⟩
    | position reads => exact absurd (Text.blank_append_iff.2 ⟨blank, shown⟩) reads.not_blank
  · obtain ⟨opened, -, numbers⟩ := (slipsBetween_of_not_blank shown).1 clean
    cases holds with
    | nothing both => exact absurd (Text.blank_append_iff.1 both).2 shown
    | @position position _ reads =>
      obtain ⟨others, begins, short⟩ := reads
      have begins := (begins_blank_append_iff blank).1 begins
      refine .inr ⟨opened, position, rfl, others, begins, short, ?_⟩
      obtain ⟨first, second, spaced, -⟩ := begins
      rwa [spaced.words_eq] at numbers

/-- What stands between a list and the end of the one around it: nothing, or a comma and more. -/
def Follows (items : List Nested) (text : List Char) : Prop :=
  (Blank text ∧ items = []) ∨
    ∃ after rest, text = after ++ ',' :: rest ∧ Blank after ∧ Listed items rest

/-- The contents go on as the mark before them asks; `since` is the part of the pending text that
stands after this mark. -/
theorem Contents.listed_or_follows (contents : Contents pending text items) {gap since : List Char}
    (split : pending = gap ++ since) (blank : Blank gap) (clean : slipsFrom left since text = []) :
    (left ≠ ')' → Listed items (since ++ text)) ∧ (left = ')' → Follows items (since ++ text)) := by
  induction contents generalizing left gap since with
  | done holds =>
    rw [List.append_nil]
    rcases (split ▸ holds).cases_of_clean blank (by decide) clean with
      ⟨closed, shown, rfl⟩ | ⟨opened, position, rfl, writes⟩
    · exact ⟨absurd closed, fun _ => .inl ⟨shown, rfl⟩⟩
    · exact ⟨fun _ => .position writes, fun closed => absurd closed opened⟩
  | @comma pending rest first items holds _ ih =>
    rw [slipsFrom_mark rfl, List.append_eq_nil_iff] at clean
    have listed := (ih rfl Text.blank_nil clean.2).1 (by decide)
    rcases (split ▸ holds).cases_of_clean blank (by decide) clean.1 with
      ⟨closed, shown, rfl⟩ | ⟨opened, position, rfl, writes⟩
    · exact ⟨absurd closed, fun _ => .inr ⟨since, rest, rfl, shown, listed⟩⟩
    · exact ⟨fun _ => .positionThen writes listed, fun closed => absurd closed opened⟩
  | @list pending text rest inner items _ _ ihInner ihRest =>
    rw [slipsFrom_mark rfl, slipsFrom_append_close, List.append_eq_nil_iff,
      List.append_eq_nil_iff] at clean
    have shown : Blank since := by
      by_contra shown
      exact ((slipsBetween_of_not_blank shown).1 clean.1).2.1 rfl
    have opened : left ≠ ')' := fun closed =>
      ((slipsBetween_of_blank shown).1 clean.1).1 closed rfl
    have both : Blank pending := split ▸ Text.blank_append_iff.2 ⟨blank, shown⟩
    have listed := (ihInner (List.append_nil _).symm both clean.2.1).1 (by decide)
    refine ⟨fun _ => ?_, fun closed => absurd closed opened⟩
    rcases (ihRest rfl Text.blank_nil clean.2.2).2 rfl with
      ⟨after, rfl⟩ | ⟨after, later, rfl, blankAfter, others⟩
    · exact .list shown listed after
    · exact .listThen shown listed blankAfter others
  | @other pending rest character items unmarked _ ih =>
    rw [slipsFrom, unmarked, if_neg Bool.false_ne_true] at clean
    have later := ih (by rw [split, List.append_assoc]) blank clean
    rwa [List.append_assoc, List.singleton_append] at later

theorem listed_iff : Listed items text ↔ Contents [] text items ∧ slips text = [] := by
  constructor
  · intro listed
    exact ⟨listed.contents Text.blank_nil, listed.slipsFrom_eq_nil (by decide) Text.blank_nil⟩
  · rintro ⟨contents, clean⟩
    exact (contents.listed_or_follows rfl Text.blank_nil clean).1 (by decide)

example : slips "1 (2, 3 4)(5 6 z),".toList =
    [.carriedText, .missingComma, .unreadWord ['z'], .missingItem] := by
  decide +kernel

end SensorThings.WellKnownText
