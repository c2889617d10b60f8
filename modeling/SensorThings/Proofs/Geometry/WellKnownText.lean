import SensorThings.Proofs.Geometry.Assembly
import SensorThings.Proofs.Geometry.Scanning
import SensorThings.Proofs.Geometry.Slips
import SensorThings.Proofs.Text.Split

/-!
The texts that are read as geometries. Around the body the reader asks for what it should: a mark of
a reference system or none, the name of a type in any letter case, one pair of parentheses, and
white space. Inside it there may be slips.
-/
namespace SensorThings.WellKnownText

open Text (Blank)

/-- The name of a type and one body. `inner` says how items are written between its parentheses. -/
inductive Named (inner : List Nested → List Char → Prop) (geometry : Geometry) :
    List Char → Prop where
  | body {typeName : String} {items : List Nested} {before name gap text after : List Char} :
      Blank before → Text.upper name = typeName.toList → Blank gap →
      HasBody geometry typeName items → inner items text → Blank after →
      Named inner geometry (before ++ (name ++ (gap ++ '(' :: (text ++ ')' :: after))))

def Marks (letters : List Char) : Prop :=
  letters.map Char.toLower = "srid=".toList

/-- A mark may stand before the name. -/
inductive Spelled (inner : List Nested → List Char → Prop) (geometry : Geometry) :
    List Char → Prop where
  | unmarked {text : List Char} : Named inner geometry text → Spelled inner geometry text
  | marked {before letters number text : List Char} :
      Blank before → Marks letters → ';' ∉ number →
      Named inner geometry text →
      Spelled inner geometry (before ++ (letters ++ (number ++ ';' :: text)))

variable {inner : List Nested → List Char → Prop} {geometry : Geometry} {typeName : String}
  {items : List Nested} {name text gap : List Char}

theorem Named.imp {other : List Nested → List Char → Prop}
    (implies : ∀ {items text}, inner items text → other items text)
    (named : Named inner geometry text) : Named other geometry text := by
  obtain ⟨before, upper, gap, hasBody, inside, after⟩ := named
  exact .body before upper gap hasBody (implies inside) after

theorem Spelled.imp {other : List Nested → List Char → Prop}
    (implies : ∀ {items text}, inner items text → other items text)
    (spelled : Spelled inner geometry text) : Spelled other geometry text := by
  cases spelled with
  | unmarked named => exact .unmarked (named.imp implies)
  | marked blank marks free named => exact .marked blank marks free (named.imp implies)

/-! Names. A name is found between white space, and never taken for a mark. -/

theorem HasBody.isUpper (hasBody : HasBody geometry typeName items) :
    ∀ character ∈ typeName.toList, character.isUpper = true := by
  cases hasBody <;> exact List.all_eq_true.1 (by decide)

theorem HasBody.head_ne (hasBody : HasBody geometry typeName items) :
    ∃ first rest, typeName.toList = first :: rest ∧ first ≠ 'S' := by
  cases hasBody <;> exact ⟨_, _, rfl, by decide⟩

@[simp] theorem upperOf_of_isBlank {character : Char} (blank : Text.isBlank character = true) :
    Text.upperOf character = [character] :=
  Text.forall_of_blankCodes (fun space => Text.upperOf space = [space]) (by decide +kernel) blank

@[simp] theorem isUpper_of_isBlank {character : Char} (blank : Text.isBlank character = true) :
    character.isUpper = false :=
  Text.forall_of_blankCodes (fun space => space.isUpper = false) (by decide) blank

theorem eq_of_toLower_eq_s {character : Char} (lower : character.toLower = 's') :
    character = 's' ∨ character = 'S' := by
  by_cases capital : character.val ≥ 'A'.val ∧ character.val ≤ 'Z'.val
  · have lowered : character.toLower = _ := dif_pos capital
    have code : character.val + 32 = 83 + 32 := congrArg Char.val (lowered.symm.trans lower)
    exact .inr (Char.ext ((UInt32.add_left_inj 32).1 code))
  · have kept : character.toLower = character := dif_neg capital
    exact .inl (kept.symm.trans lower)

theorem visible_of_toLower_eq_s {character : Char} (lower : character.toLower = 's') :
    Text.isBlank character = false := by
  rcases eq_of_toLower_eq_s lower with rfl | rfl <;> rfl

section

variable (hasBody : HasBody geometry typeName items) (upper : Text.upper name = typeName.toList)
include hasBody upper

theorem not_mem_of_upperOf {character : Char} (same : Text.upperOf character = [character])
    (other : character.isUpper = false) : character ∉ name := by
  intro member
  have listed : character ∈ typeName.toList := by
    rw [← upper, Text.upper, List.mem_flatMap]
    exact ⟨character, member, same ▸ List.mem_singleton_self character⟩
  rw [hasBody.isUpper character listed] at other
  contradiction

theorem visible_of_upper : ∀ character ∈ name, Text.isBlank character = false := by
  intro character member
  rw [← Bool.not_eq_true]
  intro blank
  exact not_mem_of_upperOf hasBody upper (upperOf_of_isBlank blank) (isUpper_of_isBlank blank)
    member

theorem opening_not_mem_of_upper : '(' ∉ name :=
  not_mem_of_upperOf hasBody upper (by decide +kernel) rfl

theorem exists_cons_of_upper : ∃ first rest, name = first :: rest ∧ first.toLower ≠ 's' := by
  obtain ⟨letter, letters, shape, other⟩ := hasBody.head_ne
  rw [shape] at upper
  cases name with
  | nil => contradiction
  | cons first rest =>
    refine ⟨first, rest, rfl, fun lower => other ?_⟩
    have capital : Text.upperOf first = ['S'] := by
      rcases eq_of_toLower_eq_s lower with rfl | rfl <;> decide +kernel
    rw [Text.upper, List.flatMap_cons, capital] at upper
    exact (List.cons.inj upper).1.symm

variable {before : List Char} (blankBefore : Blank before) (blankGap : Blank gap)
include blankBefore blankGap

theorem unopened_of_upper :
    ∀ character ∈ before ++ (name ++ gap), (character != '(') = true := by
  intro character member
  rw [bne_iff_ne]
  rintro rfl
  rw [List.mem_append, List.mem_append] at member
  rcases member with inBefore | inName | inGap
  · exact Bool.false_ne_true (blankBefore '(' inBefore)
  · exact opening_not_mem_of_upper hasBody upper inName
  · exact Bool.false_ne_true (blankGap '(' inGap)

theorem trim_of_upper : Text.trim (before ++ (name ++ gap)) = name := by
  have visible := visible_of_upper hasBody upper
  obtain ⟨first, rest, shape, -⟩ := exists_cons_of_upper hasBody upper
  refine Text.trim_append blankBefore blankGap (by simp [shape]) ?_ ?_
  · exact fun first head => visible first (List.mem_of_mem_head? head)
  · exact fun last tail => visible last (List.mem_of_mem_getLast? tail)

end

namespace Named

theorem blank_append (blank : Blank gap) (named : Named inner geometry text) :
    Named inner geometry (gap ++ text) := by
  obtain ⟨before, upper, between, hasBody, items, after⟩ := named
  rw [← List.append_assoc]
  exact .body (Text.blank_append_iff.2 ⟨blank, before⟩) upper between hasBody items after

theorem append_blank (named : Named inner geometry text) (blank : Blank gap) :
    Named inner geometry (text ++ gap) := by
  obtain ⟨before, upper, between, hasBody, items, after⟩ := named
  simp only [List.append_assoc, List.cons_append]
  exact .body before upper between hasBody items (Text.blank_append_iff.2 ⟨after, blank⟩)

theorem exists_core (named : Named inner geometry text) : ∃ before core after,
    text = before ++ (core ++ after) ∧ Blank before ∧ Blank after ∧ Named inner geometry core ∧
      (∃ first rest, core = first :: rest ∧ Text.isBlank first = false ∧ first.toLower ≠ 's') ∧
      core.getLast? = some ')' := by
  obtain @⟨typeName, items, before, name, gap, text, after, blankBefore, upper, blankGap, hasBody,
    inside, blankAfter⟩ := named
  refine ⟨before, name ++ (gap ++ '(' :: (text ++ [')'])), after, by simp, blankBefore, blankAfter,
    ?_, ?_, by simp [List.getLast?_cons]⟩
  · have alone : Named inner geometry ([] ++ (name ++ (gap ++ '(' :: (text ++ ')' :: [])))) :=
      .body Text.blank_nil upper blankGap hasBody inside Text.blank_nil
    exact alone
  · obtain ⟨first, rest, rfl, other⟩ := exists_cons_of_upper hasBody upper
    exact ⟨first, _, rfl, visible_of_upper hasBody upper first List.mem_cons_self, other⟩

end Named

@[simp]
theorem named_trim_iff : Named inner geometry (Text.trim text) ↔ Named inner geometry text := by
  constructor
  · intro named
    obtain ⟨before, after, shape, blankBefore, blankAfter⟩ := Text.exists_trim text
    rw [shape]
    exact (named.append_blank blankAfter).blank_append blankBefore
  · intro named
    obtain ⟨before, core, after, rfl, blankBefore, blankAfter, named,
      ⟨first, rest, rfl, visible, -⟩,
      last⟩ := named.exists_core
    rwa [Text.trim_append blankBefore blankAfter (List.cons_ne_nil _ _) (by simpa using visible)
      (by simp [last, Text.isBlank])]

/-! Reading. -/

def readNamed (characters : List Char) : Except Fault Geometry :=
  let name := characters.takeWhile (· != '(')
  let body := characters.dropWhile (· != '(')
  if body.isEmpty then .error .missingOpening
  else do
    let nested ← nested body
    assemble (String.ofList (Text.upper (Text.trim name))) nested

theorem ofWellKnownText_eq (text : String) :
    Geometry.ofWellKnownText text = (withoutMark (Text.trim text.toList) >>= readNamed) :=
  rfl

def Found (items : List Nested) (text : List Char) : Prop :=
  Contents [] text items

theorem readNamed_eq_ok_iff : readNamed text = .ok geometry ↔ Named Found geometry text := by
  constructor
  · intro read
    rw [readNamed] at read
    split at read
    next => contradiction
    next inhabited =>
      obtain ⟨result, scanned, assembled⟩ := bind_eq_ok_iff.1 read
      have parts := List.takeWhile_append_dropWhile (p := (· != '(')) (l := text)
      have opens := List.head?_dropWhile_not (· != '(') text
      cases found : text.dropWhile (· != '(') with
      | nil => simp [found] at inhabited
      | cons first rest =>
        rw [found] at parts opens scanned
        obtain rfl : first = '(' := by simpa using opens
        obtain ⟨inside, after, items, rfl, contents, blank, rfl⟩ := nested_eq_ok_iff.1 scanned
        obtain ⟨before, gap, shape, blankBefore, blankGap⟩ :=
          Text.exists_trim (text.takeWhile (· != '('))
        rw [← parts, shape, List.append_assoc, List.append_assoc]
        exact .body blankBefore String.toList_ofList.symm blankGap
          (assemble_eq_ok_iff.1 assembled) contents blank
  · rintro @⟨typeName, items, before, name, gap, text, after, blankBefore, upper, blankGap, hasBody,
      inside, blankAfter⟩
    have unopened := unopened_of_upper hasBody upper blankBefore blankGap
    have trimmed := trim_of_upper hasBody upper blankBefore blankGap
    have split : before ++ (name ++ (gap ++ '(' :: (text ++ ')' :: after))) =
        (before ++ (name ++ gap)) ++ '(' :: (text ++ ')' :: after) := by simp
    rw [readNamed, split, List.takeWhile_append_of_pos unopened,
      List.dropWhile_append_of_pos unopened]
    simp only [List.takeWhile_cons, List.dropWhile_cons, bne_self_eq_false, Bool.false_eq_true,
      if_false, List.append_nil, trimmed, upper, String.ofList_toList, List.isEmpty_cons]
    exact bind_eq_ok_iff.2 ⟨_,
      nested_eq_ok_iff.2 ⟨text, after, items, rfl, inside, blankAfter, rfl⟩,
      assemble_eq_ok_iff.2 hasBody⟩

/-! Marks. -/

namespace Marks

variable {letters : List Char} (marks : Marks letters)
include marks

theorem length_eq : letters.length = 5 := by
  rw [← List.length_map (f := Char.toLower), marks]
  rfl

theorem semicolon_not_mem : ';' ∉ letters := by
  intro member
  have listed : ';' ∈ "srid=".toList := marks ▸ List.mem_map_of_mem (f := Char.toLower) member
  contradiction

theorem exists_cons : ∃ first rest, letters = first :: rest ∧ first.toLower = 's' := by
  cases letters with
  | nil => contradiction
  | cons first rest => exact ⟨first, rest, rfl, (List.cons.inj marks).1⟩

end Marks

/-- There is no semicolon in the first five letters of a mark, so it begins before the first one. -/
theorem marks_take_append {before later : List Char}
    (marks : Marks ((before ++ ';' :: later).take 5)) : Marks (before.take 5) := by
  have long : 5 ≤ before.length := by
    by_contra short
    obtain ⟨more, left⟩ : ∃ more, 5 - before.length = more + 1 :=
      ⟨5 - before.length - 1, by omega⟩
    refine marks.semicolon_not_mem ?_
    rw [List.take_append, left, List.take_succ_cons]
    simp
  rwa [List.take_append_of_le_length long] at marks

theorem Named.not_marks (named : Named inner geometry text) : ¬Marks (text.take 5) := by
  intro marks
  obtain ⟨letter, letters, taken, lower⟩ := marks.exists_cons
  obtain ⟨before, core, after, rfl, blank, -, -, ⟨first, rest, rfl, -, other⟩, -⟩ :=
    named.exists_core
  cases before with
  | nil => exact other ((List.cons.inj taken).1 ▸ lower)
  | cons space before =>
    have visible := visible_of_toLower_eq_s lower
    rw [← (List.cons.inj taken).1, blank space List.mem_cons_self] at visible
    contradiction

theorem withoutMark_eq_ok_iff {rest : List Char} : withoutMark text = .ok rest ↔
    (¬Marks (text.take 5) ∧ rest = text) ∨ ∃ letters number later,
      text = letters ++ (number ++ ';' :: later) ∧ Marks letters ∧ ';' ∉ number ∧
        rest = Text.trim later := by
  have marked : String.ofList ((text.take 5).map Char.toLower) = "srid=" ↔ Marks (text.take 5) := by
    rw [Marks, ← String.toList_inj, String.toList_ofList]
  rw [withoutMark]
  split
  next same =>
    have marks := marked.1 same
    constructor
    · intro read
      split at read
      next before later split =>
        obtain ⟨rfl, free⟩ := Text.splitFirst_eq_some_iff.1 split
        cases read
        refine .inr ⟨before.take 5, before.drop 5, later, ?_, marks_take_append marks,
          fun member => free (List.mem_of_mem_drop member), rfl⟩
        rw [← List.append_assoc, List.take_append_drop]
      next => contradiction
    · rintro (⟨other, -⟩ | ⟨letters, number, later, rfl, marks, free, rfl⟩)
      · contradiction
      · rw [← List.append_assoc,
          Text.splitFirst_append (List.not_mem_append marks.semicolon_not_mem free)]
  next different =>
    have other := mt marked.2 different
    constructor
    · rintro ⟨⟩
      exact .inl ⟨other, rfl⟩
    · rintro (⟨-, rfl⟩ | ⟨letters, number, later, rfl, marks, -⟩)
      · rfl
      · rw [List.take_left' marks.length_eq] at other
        contradiction

theorem trim_marked {before letters number start core after : List Char} (blank : Blank before)
    (blankAfter : Blank after) (marks : Marks letters) (last : core.getLast? = some ')') :
    Text.trim (before ++ (letters ++ (number ++ ';' :: (start ++ (core ++ after))))) =
      letters ++ (number ++ ';' :: (start ++ core)) := by
  have whole : before ++ (letters ++ (number ++ ';' :: (start ++ (core ++ after)))) =
      before ++ ((letters ++ (number ++ ';' :: (start ++ core))) ++ after) := by simp
  obtain ⟨first, rest, rfl, lower⟩ := marks.exists_cons
  have visible := visible_of_toLower_eq_s lower
  rw [whole]
  refine Text.trim_append blank blankAfter (by simp) (by simpa using visible) ?_
  simp [List.getLast?_append, List.getLast?_cons, last, Text.isBlank]

theorem ofWellKnownText_eq_ok_iff {text : String} :
    Geometry.ofWellKnownText text = .ok geometry ↔ Spelled Found geometry text.toList := by
  rw [ofWellKnownText_eq, bind_eq_ok_iff]
  simp only [withoutMark_eq_ok_iff, readNamed_eq_ok_iff]
  constructor
  · rintro ⟨_, ⟨-, rfl⟩ | ⟨letters, number, later, shape, marks, free, rfl⟩, named⟩
    · exact .unmarked (named_trim_iff.1 named)
    · obtain ⟨before, after, whole, blankBefore, blankAfter⟩ := Text.exists_trim text.toList
      rw [whole, shape]
      simp only [List.append_assoc, List.cons_append]
      exact .marked blankBefore marks free ((named_trim_iff.1 named).append_blank blankAfter)
  · generalize text.toList = text
    rintro (named | @⟨before, letters, number, text, blank, marks, free, named⟩)
    · have trimmed := named_trim_iff.2 named
      exact ⟨_, .inl ⟨trimmed.not_marks, rfl⟩, trimmed⟩
    · obtain ⟨start, core, after, rfl, blankStart, blankAfter, named, -, last⟩ := named.exists_core
      refine ⟨_, .inr ⟨letters, number, start ++ core, ?_, marks, free, rfl⟩,
        named_trim_iff.2 (named.blank_append blankStart)⟩
      exact trim_marked blank blankAfter marks last

/-- An accepted text is a mark or none, the name of a type, and one body with the coordinates of the
geometry in their order. The body is well written if it has no slips, and only then. -/
theorem accepted_spellings (text : String) (geometry : Geometry) :
    (Geometry.ofWellKnownText text = .ok geometry ↔ Spelled Found geometry text.toList) ∧
      (Spelled Listed geometry text.toList ↔
        Spelled (fun items body => Found items body ∧ slips body = []) geometry text.toList) := by
  refine ⟨ofWellKnownText_eq_ok_iff, ?_⟩
  have same : Listed = fun items body => Found items body ∧ slips body = [] := by
    funext items body
    exact propext listed_iff
  rw [same]

example : Geometry.ofWellKnownText "MULTILINESTRING((1 2)(3 4 z))" =
    .ok (.multiLineString [[⟨1, 2⟩], [⟨3, 4⟩]]) := by
  rfl

end SensorThings.WellKnownText
