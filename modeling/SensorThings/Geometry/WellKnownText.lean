import SensorThings.Geometry.Basic
import SensorThings.Binary64.Text
import SensorThings.Text.Blank
import SensorThings.Text.Case
import SensorThings.Text.Split

/-!
Well-known text. A geometry is a type name and one parenthesised body; the body is scanned character
by character into nested lists of coordinates, and the type name then says how deep the lists must
be. An `SRID=…;` mark may stand in front.
-/
namespace SensorThings.WellKnownText

/-- Why a text is not a geometry. -/
inductive Fault where
  | unendedMark (text : String)
  | missingOpening
  | missingClosing
  | unbalanced
  | trailing
  | unexpected (character : Char)
  | notPair (text : String)
  | notNumber (text : String)
  | pointCount (count : Nat)
  | expectedList
  | expectedCoordinate
  | empty
  | unsupportedType (name : String)
deriving DecidableEq, Repr

private def Fault.formatText : Fault → String
  | unendedMark text => text
  | missingOpening => "Missing opening parenthesis"
  | missingClosing => "Missing closing parenthesis"
  | unbalanced => "Unbalanced parentheses"
  | trailing => "Trailing content after geometry"
  | unexpected character => "Unexpected character '" ++ String.singleton character ++ "'"
  | notPair text => "Expected 'x y' coordinate, got '" ++ text ++ "'"
  | pointCount count => "POINT expects one coordinate, got " ++ toString count
  | expectedList => "Expected parenthesised list"
  | expectedCoordinate => "Expected coordinate, found nested list"
  | empty => "Empty geometry"
  | notNumber text => text
  | unsupportedType name => name

def Fault.message : Fault → String
  | notNumber text => "Invalid coordinate value: " ++ text
  | unsupportedType name => "Unsupported geometry type: " ++ name
  | fault => "Invalid WKT format: " ++ fault.formatText

/-- A parenthesised body. -/
inductive Nested where
  | coordinate (position : Position)
  | list (items : List Nested)

/-- Two numbers between white space. A third word is dropped unread. -/
def coordinate (characters : List Char) : Except Fault Position := do
  let number (word : List Char) : Except Fault Float :=
    match Binary64.ofText? word with
    | some value => .ok value
    | none => .error (.notNumber (String.ofList word))
  let pair (first second : List Char) : Except Fault Position := do
    let x ← number first
    let y ← number second
    return ⟨x, y⟩
  match Text.words characters with
  | [first, second] => pair first second
  | [first, second, _] => pair first second
  | _ => .error (.notPair (String.ofList characters))

/-- Where a scan stands: the open lists, innermost first, each with its items last one first; the
pending characters, last one first; and the closed outermost list. -/
structure Scan where
  stack : List (List Nested)
  pending : List Char
  result : Option Nested

/-- Turn the pending characters into an item of the innermost list, unless they are blank. -/
def Scan.flush (scan : Scan) : Except Fault Scan :=
  match scan.stack with
  | [] => .error .unbalanced
  | top :: outer => do
    let text := Text.trim scan.pending.reverse
    if text.isEmpty then return { scan with pending := [] }
    else
      let position ← coordinate text
      return { scan with stack := (.coordinate position :: top) :: outer, pending := [] }

def Scan.close (scan : Scan) : Scan :=
  match scan.stack with
  | [] => scan
  | [items] => { scan with stack := [], result := some (.list items.reverse) }
  | items :: parent :: outer => { scan with stack := (.list items.reverse :: parent) :: outer }

def Scan.step (scan : Scan) (character : Char) : Except Fault Scan :=
  if character = '(' then
    if scan.result.isSome then .error .trailing
    else .ok { scan with stack := [] :: scan.stack }
  else if character = ',' then scan.flush
  else if character = ')' then return (← scan.flush).close
  else if scan.stack.isEmpty && !Text.isBlank character then .error (.unexpected character)
  else .ok { scan with pending := character :: scan.pending }

def Scan.finish (scan : Scan) : Except Fault Nested :=
  if !scan.stack.isEmpty then .error .missingClosing
  else match scan.result with
    | some nested => .ok nested
    | none => .error .empty

def nested (characters : List Char) : Except Fault Nested := do
  let scan ← characters.foldlM Scan.step ⟨[], [], none⟩
  scan.finish

def Nested.children : Nested → Except Fault (List Nested)
  | list items => .ok items
  | coordinate _ => .error .expectedList

def Nested.positions (nested : Nested) : Except Fault (List Position) := do
  (← nested.children).mapM fun
    | coordinate position => .ok position
    | list _ => .error .expectedCoordinate

def Nested.rings (nested : Nested) : Except Fault (List (List Position)) := do
  (← nested.children).mapM Nested.positions

/-- Points may be listed bare or each in parentheses. -/
def Nested.points (nested : Nested) : Except Fault (List Position) :=
  match nested.positions with
  | .ok positions => .ok positions
  | .error _ => return (← nested.rings).flatten

def Nested.polygons (nested : Nested) : Except Fault (List (List (List Position))) := do
  (← nested.children).mapM Nested.rings

def assemble (name : String) (body : Nested) : Except Fault Geometry := do
  if name = "POINT" then
    match ← body.positions with
    | [position] => return .point position
    | positions => .error (.pointCount positions.length)
  else if name = "LINESTRING" then return .lineString (← body.positions)
  else if name = "POLYGON" then return .polygon (← body.rings)
  else if name = "MULTIPOINT" then return .multiPoint (← body.points)
  else if name = "MULTILINESTRING" then return .multiLineString (← body.rings)
  else if name = "MULTIPOLYGON" then return .multiPolygon (← body.polygons)
  else .error (.unsupportedType name)

/-- The text without its reference-system mark. -/
def withoutMark (characters : List Char) : Except Fault (List Char) :=
  if String.ofList ((characters.take 5).map Char.toLower) = "srid=" then
    match Text.splitFirst ';' characters with
    | some (_, rest) => .ok (Text.trim rest)
    | none => .error (.unendedMark (String.ofList characters))
  else .ok characters

end WellKnownText

def Geometry.ofWellKnownText (text : String) : Except WellKnownText.Fault Geometry := do
  let characters ← WellKnownText.withoutMark (Text.trim text.toList)
  let name := characters.takeWhile (· != '(')
  let body := characters.dropWhile (· != '(')
  if body.isEmpty then .error .missingOpening
  else
    let nested ← WellKnownText.nested body
    WellKnownText.assemble (String.ofList (Text.upper (Text.trim name))) nested

end SensorThings
