import SensorThings.Geometry.GeoJson
import SensorThings.Json.Writer
import SensorThings.Text.Integer
import SensorThings.Time.Interval

/-!
Values of filter expressions. Values of one type compare; integers and doubles compare as doubles;
null compares with nothing. Sorting is a total order that agrees with comparison and groups values
by type.
-/
namespace SensorThings

inductive Scalar where
  | null
  | bool (value : Bool)
  | int (value : Int)
  | float (value : Float)
  | string (text : String)
  | instant (time : Instant)
  | date (date : Date)
  | timeOfDay (time : TimeOfDay)
  | geometry (geometry : Geometry)
  | json (json : Json)

namespace Scalar

instance : Inhabited Scalar := ⟨.null⟩

def isNull : Scalar → Bool
  | null => true
  | _ => false

/-- A number beyond the signed 64-bit range becomes a double; arrays and objects stay JSON. -/
def ofJson : Json → Scalar
  | .null => null
  | .bool value => bool value
  | .int value => if Text.fitsSigned value then int value else float (Binary64.ofInt value)
  | .float value => float value
  | .string text => string text
  | other => json other

/-- The value one step below: a member by key, or an item by its decimal index. -/
def child? (document : Json) (segment : String) : Option Json :=
  match document with
  | .object members => members.lookup segment
  | .array items => (Text.unsigned? segment.toList).bind fun index => items[index]?
  | _ => none

/-- The value at the end of a path into a document; null where the path leads nowhere. -/
def atPath (document : Json) : List String → Scalar
  | [] => ofJson document
  | segment :: rest =>
    match child? document segment with
    | some value => atPath value rest
    | none => null

def ofOption {α : Type} (make : α → Scalar) : Option α → Scalar
  | some value => make value
  | none => null

def number? : Scalar → Option Float
  | int value => some (Binary64.ofInt value)
  | float value => some value
  | _ => none

private def same (equal : Bool) : Option Ordering :=
  if equal then some .eq else none

/-- Geometries and documents are equal or incomparable. -/
def compare? : Scalar → Scalar → Option Ordering
  | int left, int right => some (compare left right)
  | int left, float right => Binary64.compare? (Binary64.ofInt left) right
  | float left, int right => Binary64.compare? left (Binary64.ofInt right)
  | float left, float right => Binary64.compare? left right
  | bool left, bool right => some (compare left.toNat right.toNat)
  | string left, string right => some (compare left right)
  | instant left, instant right => some (compare left right)
  | date left, date right => some (compare left right)
  | timeOfDay left, timeOfDay right => some (compare left right)
  | geometry left, geometry right => same (left.same right)
  | json left, json right => same (left.same right)
  | _, _ => none

def rank : Scalar → Nat
  | null => 0
  | bool _ => 1
  | int _ => 2
  | float _ => 2
  | string _ => 3
  | instant _ => 4
  | date _ => 5
  | timeOfDay _ => 6
  | geometry _ => 7
  | json _ => 8

/-- A double sorts before the integer of its value. -/
def sortCompare : Scalar → Scalar → Ordering
  | int left, int right => compare left right
  | float left, float right => Binary64.totalCompare left right
  | int left, float right => (Binary64.totalCompare (Binary64.ofInt left) right).then .gt
  | float left, int right => (Binary64.totalCompare left (Binary64.ofInt right)).then .lt
  | geometry left, geometry right => compare left.sortText right.sortText
  | json left, json right => compare left.text right.text
  | left, right => (compare? left right).getD (compare left.rank right.rank)

end Scalar

end SensorThings
