/-!
Static types of filter values. `any` is the type of values known only when a row is read.
-/
namespace SensorThings

inductive ValueType where
  | string
  | number
  | boolean
  | instant
  | date
  | timeOfDay
  | geometry
  | json
  | any
deriving DecidableEq, Repr

namespace ValueType

def all : List ValueType :=
  [string, number, boolean, instant, date, timeOfDay, geometry, json, any]

def name : ValueType → String
  | string => "String"
  | number => "Number"
  | boolean => "Boolean"
  | instant => "DateTime"
  | date => "Date"
  | timeOfDay => "TimeOfDay"
  | geometry => "Geometry"
  | json => "Json"
  | any => "Any"

def isNumeric : ValueType → Bool
  | number => true
  | any => true
  | _ => false

/-- Documents and untyped values compare with every type. -/
def isOpen : ValueType → Bool
  | json => true
  | any => true
  | _ => false

def comparable (left right : ValueType) : Bool :=
  left.isOpen || right.isOpen || left == right

/-- A value of this type may stand where `expected` is required. -/
def accepts (type expected : ValueType) : Bool :=
  type == any || type == expected

end ValueType

end SensorThings
