import SensorThings.Proofs.Geometry.WellKnownText

/-!
Writing well-known text, and reading it back. What is written is one of many spellings of the same
geometry, and each of them is read as it.
-/
namespace SensorThings

namespace WellKnownText

def positionText (position : Position) : List Char :=
  (Binary64.plainText position.x).toList ++ ' ' :: (Binary64.plainText position.y).toList

def listText {α : Type} (write : α → List Char) (items : List α) : List Char :=
  '(' :: (Text.join [','] (items.map write) ++ [')'])

def typedText {α : Type} (name : String) (write : α → List Char) (items : List α) : String :=
  String.ofList (name.toList ++ listText write items)

end WellKnownText

namespace Geometry

/-- There are positions in each list, and lists in each list of lists. -/
def Filled : Geometry → Prop
  | point _ => True
  | multiPoint positions | lineString positions => positions ≠ []
  | multiLineString lines | polygon lines => lines ≠ [] ∧ ∀ line ∈ lines, line ≠ []
  | multiPolygon polygons =>
    polygons ≠ [] ∧ ∀ rings ∈ polygons, rings ≠ [] ∧ ∀ ring ∈ rings, ring ≠ []

/-- The decimals of the coordinates are read as the numbers they were printed for. -/
def ReadsBack (geometry : Geometry) : Prop :=
  ∀ position ∈ geometry.positions,
    Binary64.ofText? (Binary64.plainText position.x).toList = some position.x ∧
      Binary64.ofText? (Binary64.plainText position.y).toList = some position.y

open WellKnownText in
def wellKnownText : Geometry → String
  | point position => typedText "POINT" positionText [position]
  | lineString positions => typedText "LINESTRING" positionText positions
  | polygon rings => typedText "POLYGON" (listText positionText) rings
  | multiPoint positions => typedText "MULTIPOINT" positionText positions
  | multiLineString lines => typedText "MULTILINESTRING" (listText positionText) lines
  | multiPolygon polygons => typedText "MULTIPOLYGON" (listText (listText positionText)) polygons

end Geometry

namespace WellKnownText

open Text (Blank Spaced IsWord)

variable {items : List Nested} {text later : List Char} {position : Position} {geometry : Geometry}

@[simp] theorem isNumeral_of_isBlank {character : Char} (blank : Text.isBlank character = true) :
    Binary64.isNumeral character = false :=
  Text.forall_of_blankCodes (fun space => Binary64.isNumeral space = false) (by decide) blank

theorem isWord_of_ofText? (number : (Binary64.ofText? text).isSome = true) : IsWord text := by
  obtain ⟨inhabited, numerals⟩ := Binary64.numerals_of_ofText? number
  refine ⟨inhabited, fun character member => ?_⟩
  rw [← Bool.not_eq_true]
  intro blank
  have numeral := numerals character member
  rw [isNumeral_of_isBlank blank] at numeral
  contradiction

theorem writes_positionText (x : Binary64.ofText? (Binary64.plainText position.x).toList =
    some position.x) (y : Binary64.ofText? (Binary64.plainText position.y).toList =
    some position.y) : Writes position (positionText position) := by
  have first := isWord_of_ofText? (Option.isSome_of_eq_some x)
  have second := isWord_of_ofText? (Option.isSome_of_eq_some y)
  refine ⟨[], ⟨_, _, ?_, x, y⟩, by simp, List.forall_mem_nil _⟩
  have last := Spaced.last Text.blank_nil second Text.blank_nil
  rw [List.append_nil] at last
  exact .word Text.blank_nil first rfl last

theorem Listed.cons {item : Nested} (first : Listed [item] text) (rest : Listed items later) :
    Listed (item :: items) (text ++ ',' :: later) := by
  cases first with
  | position writes => exact .positionThen writes rest
  | positionThen _ nothing => cases nothing
  | list before inside after =>
    simp only [List.append_assoc, List.cons_append]
    exact .listThen before inside after rest
  | listThen _ _ _ nothing => cases nothing

section

variable {α : Type} {make : α → Nested} {write : α → List Char} {values : List α}

theorem listed_join (inhabited : values ≠ [])
    (each : ∀ value ∈ values, Listed [make value] (write value)) :
    Listed (values.map make) (Text.join [','] (values.map write)) := by
  induction values with
  | nil => contradiction
  | cons value rest ih =>
    rw [List.forall_mem_cons] at each
    cases rest with
    | nil => exact each.1
    | cons next others =>
      have later := each.1.cons (ih (List.cons_ne_nil _ _) each.2)
      simpa [Text.join] using later

theorem listed_listText (inhabited : values ≠ [])
    (each : ∀ value ∈ values, Listed [make value] (write value)) :
    Listed [.list (values.map make)] (listText write values) :=
  .list Text.blank_nil (listed_join inhabited each) Text.blank_nil

theorem spelled_typedText {name : String} (upper : Text.upper name.toList = name.toList)
    (hasBody : HasBody geometry name (values.map make)) (inhabited : values ≠ [])
    (each : ∀ value ∈ values, Listed [make value] (write value)) :
    Spelled Listed geometry (typedText name write values).toList := by
  have named : Named Listed geometry
      ([] ++ (name.toList ++ ([] ++ '(' :: (Text.join [','] (values.map write) ++ ')' :: [])))) :=
    .body Text.blank_nil upper Text.blank_nil hasBody (listed_join inhabited each) Text.blank_nil
  rw [typedText, String.toList_ofList]
  exact .unmarked named

end

theorem spelled_wellKnownText (inhabited : geometry.Filled) (readsBack : geometry.ReadsBack) :
    Spelled Listed geometry geometry.wellKnownText.toList := by
  have position (position : Position) (member : position ∈ geometry.positions) :
      Listed [.coordinate position] (positionText position) := by
    obtain ⟨x, y⟩ := readsBack position member
    exact .position (writes_positionText x y)
  have line (line : List Position) (inhabited : line ≠ [])
      (members : ∀ position ∈ line, position ∈ geometry.positions) :
      Listed [.list (coordinates line)] (listText positionText line) :=
    listed_listText inhabited fun item member => position item (members item member)
  cases geometry with
  | point value =>
    exact spelled_typedText (by decide +kernel) (.point value) (List.cons_ne_nil _ _) position
  | lineString positions =>
    exact spelled_typedText (by decide +kernel) (.lineString positions) inhabited position
  | multiPoint positions =>
    exact spelled_typedText (by decide +kernel) (.multiPoint positions) inhabited position
  | polygon rings =>
    refine spelled_typedText (by decide +kernel) (.polygon rings) inhabited.1 fun ring listed => ?_
    exact line ring (inhabited.2 ring listed) fun item inside =>
      List.mem_flatten_of_mem listed inside
  | multiLineString lines =>
    refine spelled_typedText (by decide +kernel) (.multiLineString lines) inhabited.1
      fun one listed => ?_
    exact line one (inhabited.2 one listed) fun item inside =>
      List.mem_flatten_of_mem listed inside
  | multiPolygon polygons =>
    refine spelled_typedText (by decide +kernel) (.multiPolygon polygons) inhabited.1
      fun rings listed => ?_
    obtain ⟨some, each⟩ := inhabited.2 rings listed
    exact listed_listText some fun ring within => line ring (each ring within) fun item inside =>
      List.mem_flatten_of_mem (List.mem_flatten_of_mem listed within) inside

/-- Each spelling of a geometry is read as this geometry. What is written is one of them. -/
theorem reads_spellings (geometry : Geometry) :
    (∀ text : String, Spelled Listed geometry text.toList →
      Geometry.ofWellKnownText text = .ok geometry) ∧
    (geometry.Filled → geometry.ReadsBack →
      Spelled Listed geometry geometry.wellKnownText.toList ∧
        Geometry.ofWellKnownText geometry.wellKnownText = .ok geometry) := by
  have read (text : String) (spelled : Spelled Listed geometry text.toList) :
      Geometry.ofWellKnownText text = .ok geometry :=
    ofWellKnownText_eq_ok_iff.2 (spelled.imp fun listed => listed.contents Text.blank_nil)
  refine ⟨read, fun inhabited readsBack => ?_⟩
  have spelled := spelled_wellKnownText inhabited readsBack
  exact ⟨spelled, read _ spelled⟩

theorem reads_spellings_points :
    Spelled Listed (.multiPoint [⟨1.5, 2⟩, ⟨3, -40⟩])
        " srid=4326 ; MultiPoint ( ( 1.5 2 ) ,(3 -4e1\t9)) ".toList ∧
      Geometry.ofWellKnownText " srid=4326 ; MultiPoint ( ( 1.5 2 ) ,(3 -4e1\t9)) " =
        .ok (.multiPoint [⟨1.5, 2⟩, ⟨3, -40⟩]) ∧
      (Geometry.polygon [[⟨0, 0⟩, ⟨1, 0.5⟩]]).Filled ∧
      (Geometry.polygon [[⟨0, 0⟩, ⟨1, 0.5⟩]]).ReadsBack ∧
      Geometry.ofWellKnownText (Geometry.polygon [[⟨0, 0⟩, ⟨1, 0.5⟩]]).wellKnownText =
        .ok (.polygon [[⟨0, 0⟩, ⟨1, 0.5⟩]]) := by
  have first : Writes ⟨1.5, 2⟩ " 1.5 2 ".toList :=
    ⟨[], ⟨"1.5".toList, "2".toList, Text.words_eq_iff.1 (by decide +kernel), by decide +kernel,
      by decide +kernel⟩, by decide, by decide +kernel⟩
  have second : Writes ⟨3, -40⟩ "3 -4e1\t9".toList :=
    ⟨["9".toList], ⟨"3".toList, "-4e1".toList, Text.words_eq_iff.1 (by decide +kernel),
      by decide +kernel, by decide +kernel⟩, by decide, by decide +kernel⟩
  have body : Listed (lists [[⟨1.5, 2⟩], [⟨3, -40⟩]]) (" ".toList ++ '(' :: (" 1.5 2 ".toList ++
      ')' :: (" ".toList ++ ',' :: ([] ++ '(' :: ("3 -4e1\t9".toList ++ ')' :: []))))) :=
    .listThen (by decide) (.position first) (by decide)
      (.list (by decide) (.position second) (by decide))
  have hasBody : HasBody (.multiPoint [⟨1.5, 2⟩, ⟨3, -40⟩]) "MULTIPOINT"
      (lists [[⟨1.5, 2⟩], [⟨3, -40⟩]]) :=
    .multiPointLists [[⟨1.5, 2⟩], [⟨3, -40⟩]]
  have upper : Text.upper "MultiPoint".toList = "MULTIPOINT".toList := by decide +kernel
  have blank : Blank " ".toList := by decide
  have marks : Marks "srid=".toList := by
    rw [Marks]
    decide
  have spelled : Spelled Listed (.multiPoint [⟨1.5, 2⟩, ⟨3, -40⟩])
      (" ".toList ++ ("srid=".toList ++ ("4326 ".toList ++ ';' :: _))) :=
    .marked blank marks (by decide) (.body blank upper blank hasBody body blank)
  have readsBack : (Geometry.polygon [[⟨0, 0⟩, ⟨1, 0.5⟩]]).ReadsBack :=
    List.forall_mem_cons.2 ⟨by decide +kernel, List.forall_mem_singleton.2 (by decide +kernel)⟩
  have inhabited : (Geometry.polygon [[⟨0, 0⟩, ⟨1, 0.5⟩]]).Filled :=
    ⟨List.cons_ne_nil _ _, List.forall_mem_singleton.2 (List.cons_ne_nil _ _)⟩
  exact ⟨spelled, (reads_spellings _).1 _ spelled, inhabited, readsBack,
    ((reads_spellings _).2 inhabited readsBack).2⟩

end WellKnownText

end SensorThings
