import SensorThings.Filter.Function
import SensorThings.Filter.Scalar
import SensorThings.Binary64.Arithmetic
import SensorThings.Spatial.Relation
import SensorThings.Text.Search

/-!
What the functions compute. An argument that is null or does not fit gives null. Spatial functions
ask the plane geometry at hand.
-/
namespace SensorThings.Function

/-- A count of characters, by way of a double. Negative numbers count as 0 and fractions are cut
off. -/
def characterCount? (value : Scalar) : Option Nat :=
  value.number?.map Binary64.toNat

def date? : Scalar → Option Date
  | .instant moment => some moment.date
  | .date value => some value
  | _ => none

def timeOfDay? : Scalar → Option TimeOfDay
  | .instant moment => some moment.time
  | .timeOfDay value => some value
  | _ => none

def octetOfText? (text part : String) : Option Nat :=
  Text.indexOf? (Text.encoded part.toList) (Text.encoded text.toList)

/-- The number of characters before the first occurrence, or -1. -/
def indexOfText (text part : String) : Int :=
  match octetOfText? text part with
  | some octet => Text.countCharacters ((Text.encoded text.toList).take octet)
  | none => -1

def substringFrom (text : String) (start : Nat) : String :=
  String.ofList (text.toList.drop start)

def substringOfLength (text : String) (start count : Nat) : String :=
  String.ofList ((text.toList.drop start).take count)

private def onCharacters (map : List Char → List Char) (text : String) : Scalar :=
  .string (String.ofList (map text.toList))

def rounded (round : Float → Float) : Scalar → Option Scalar
  | .int value => some (.int value)
  | .float value => some (.float (round value))
  | _ => none

private def fraction (time : TimeOfDay) : Float :=
  Binary64.ofInt time.nanosecond / Binary64.ofInt 1000000000

section

variable [PlaneGeometry]

def related (relation : SpatialRelation) : List Scalar → Option Scalar
  | .geometry left :: .geometry right :: _ => some (.bool (relation.holds left right))
  | _ => none

/-- The result for arguments that fit. -/
def result? (function : Function) (arguments : List Scalar) : Option Scalar :=
  match function, arguments with
  | length, .string text :: _ => some (.int text.length)
  | toLower, .string text :: _ => some (onCharacters Text.lower text)
  | toUpper, .string text :: _ => some (onCharacters Text.upper text)
  | trim, .string text :: _ => some (onCharacters Text.trim text)
  | year, value :: _ => (date? value).map fun date => .int date.year
  | month, value :: _ => (date? value).map fun date => .int date.month
  | day, value :: _ => (date? value).map fun date => .int date.day
  | hour, value :: _ => (timeOfDay? value).map fun time => .int time.hour
  | minute, value :: _ => (timeOfDay? value).map fun time => .int time.minute
  | second, value :: _ => (timeOfDay? value).map fun time => .int time.secondOfMinute
  | fractionalSeconds, value :: _ => (timeOfDay? value).map fun time => .float (fraction time)
  | date, .instant moment :: _ => some (.date moment.date)
  | time, .instant moment :: _ => some (.timeOfDay moment.time)
  | round, value :: _ => rounded Binary64.round value
  | floor, value :: _ => rounded Binary64.floor value
  | ceiling, value :: _ => rounded Binary64.ceiling value
  | substringOf, .string part :: .string text :: _ =>
    some (.bool (octetOfText? text part).isSome)
  | indexOf, .string text :: .string part :: _ => some (.int (indexOfText text part))
  | substring, [.string text, start] => do
    some (.string (substringFrom text (← characterCount? start)))
  | substring, .string text :: start :: count :: _ => do
    some (.string (substringOfLength text (← characterCount? start) (← characterCount? count)))
  | concat, .string left :: .string right :: _ => some (.string (left ++ right))
  | startsWith, .string text :: .string part :: _ =>
    some (.bool ((Text.encoded part.toList).isPrefixOf (Text.encoded text.toList)))
  | endsWith, .string text :: .string part :: _ =>
    some (.bool ((Text.encoded part.toList).isSuffixOf (Text.encoded text.toList)))
  | equals, values => related .equals values
  | disjoint, values => related .disjoint values
  | touches, values => related .touches values
  | within, values => related .within values
  | overlaps, values => related .overlaps values
  | crosses, values => related .crosses values
  | intersects, values => related .intersects values
  | contains, values => related .contains values
  | areIntersecting, values => related .intersects values
  | distance, .geometry left :: .geometry right :: _ =>
    some (.float (PlaneGeometry.distance left right))
  | lineLength, .geometry geometry :: _ => some (.float (PlaneGeometry.length geometry))
  | relate, .geometry left :: .geometry right :: .string pattern :: _ =>
    some (.bool (left.relates right pattern))
  | _, _ => none

def apply (function : Function) (arguments : List Scalar) : Scalar :=
  if arguments.any Scalar.isNull then .null else (function.result? arguments).getD .null

end

end SensorThings.Function
