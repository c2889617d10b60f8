import SensorThings.Filter.ValueType
import SensorThings.Geometry.WellKnownText

/-!
Why a query is refused.
-/
namespace SensorThings

/-- What is wrong with a part of a query. -/
inductive QueryReason where
  | arithmeticAsCondition
  | notCondition
  | conditionAsValue
  | arithmeticOperands
  | negationOperand
  | lambda
  | emptyPath
  | unknownProperty (name entity : String)
  | relationAsValue (name : String)
  | unknownEntity (name : String)
  | noProperties (name : String)
  | incomparable (left right : ValueType)
  | argumentType (position : Nat) (function : String) (type : ValueType)
  | matrixPattern
  | sortKey
  | unknownSelection (entity : String)
  | geometryText (fault : WellKnownText.Fault)
  | notCount (option : String)
  | notTruthValue
  | sortDirection (word : String)
  | sortToken
  | unknownOption
deriving DecidableEq

def QueryReason.message : QueryReason → String
  | arithmeticAsCondition => "arithmetic is not a condition"
  | notCondition => "expression is not a condition"
  | conditionAsValue => "condition used as a value"
  | arithmeticOperands => "arithmetic requires numeric operands"
  | negationOperand => "negation requires a numeric operand"
  | lambda => "lambda operators are not supported"
  | emptyPath => "empty property path"
  | unknownProperty name entity => "unknown property '" ++ name ++ "' on " ++ entity
  | relationAsValue name => "navigation property '" ++ name ++ "' used as a value"
  | unknownEntity name => "unknown entity type " ++ name
  | noProperties name => "cannot navigate into '" ++ name ++ "'"
  | incomparable left right => "cannot compare " ++ left.name ++ " with " ++ right.name
  | argumentType position function type =>
    "argument " ++ toString position ++ " of " ++ function ++ " has type " ++ type.name
  | matrixPattern => "invalid DE-9IM pattern"
  | sortKey => "orderby expression must be a property reference"
  | unknownSelection entity => "unknown property in $select on " ++ entity
  | geometryText fault => fault.message
  | notCount option => option ++ " must be a non-negative integer"
  | notTruthValue => "$count must be true or false"
  | sortDirection word => "unknown sort direction '" ++ word ++ "'"
  | sortToken => "unexpected token in $orderby"
  | unknownOption => "unknown query option"

inductive QueryFault where
  | invalid (fragment : String) (reason : QueryReason)
  | unsupportedFunction (name : String) (arity : Nat)
deriving DecidableEq

def QueryFault.message : QueryFault → String
  | invalid fragment reason =>
    "Invalid query: " ++ reason.message ++ " (at '" ++ fragment ++ "')"
  | unsupportedFunction name arity =>
    "Unsupported function: " ++ name ++ " with " ++ toString arity ++ " argument(s)"

end SensorThings
