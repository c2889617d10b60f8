import SensorThings.Filter.Application
import SensorThings.Filter.Predicate

/-!
Evaluation of terms and predicates on a row. Truth has three values: a comparison of values that do
not compare is unknown, and so is all that depends on it. Integer arithmetic is exact or null.
-/
namespace SensorThings

/-- A truth value; `none` is unknown. -/
abbrev Truth := Option Bool

namespace Truth

/-- False if either is, else unknown if either is. -/
def and : Truth → Truth → Truth
  | some false, _ => some false
  | _, some false => some false
  | some true, some true => some true
  | _, _ => none

/-- True if either is, else unknown if either is. -/
def or : Truth → Truth → Truth
  | some true, _ => some true
  | _, some true => some true
  | some false, some false => some false
  | _, _ => none

def not (truth : Truth) : Truth :=
  truth.map (!·)

@[simp] theorem not_not (truth : Truth) : truth.not.not = truth := by
  cases truth <;> simp [not]

end Truth

/-- The columns of the row that a path of relations leads to, if there is one. -/
abbrev RowSource := List Hop → Option (String → Scalar)

/-- A row without relations. -/
def RowSource.standalone (columns : String → Scalar) : RowSource
  | [] => some columns
  | _ :: _ => none

namespace Column

/-- The value of a column. A path leads only into documents. -/
def value (column : Column) (source : RowSource) : Scalar :=
  match source column.hops with
  | none => .null
  | some columns =>
    match column.path, columns column.name with
    | [], value => value
    | path, .json document => Scalar.atPath document path
    | _, _ => .null

end Column

namespace Arithmetic

/-- An integer inside the signed 64-bit range; null outside. -/
def checked (value : Int) : Scalar :=
  if Text.fitsSigned value then .int value else .null

/-- Division truncates toward zero. Whatever the operator, a quotient out of range is null. -/
def onIntegers (operator : Arithmetic) (left right : Int) : Scalar :=
  match operator with
  | add => checked (left + right)
  | subtract => checked (left - right)
  | multiply => checked (left * right)
  | divide => if right = 0 then .null else checked (left.tdiv right)
  | remainder =>
    if right = 0 || !Text.fitsSigned (left.tdiv right) then .null else checked (left.tmod right)

def onDoubles (operator : Arithmetic) (left right : Float) : Scalar :=
  match operator with
  | add => .float (left + right)
  | subtract => .float (left - right)
  | multiply => .float (left * right)
  | divide => if Binary64.same right 0 then .null else .float (left / right)
  | remainder => if Binary64.same right 0 then .null else .float (Binary64.remainder left right)

def apply (operator : Arithmetic) (left right : Scalar) : Scalar :=
  match left, right with
  | .int left, .int right => operator.onIntegers left right
  | _, _ =>
    match left.number?, right.number? with
    | some left, some right => operator.onDoubles left right
    | _, _ => .null

def negate : Scalar → Scalar
  | .int value => checked (-value)
  | .float value => .float (-value)
  | _ => .null

end Arithmetic

namespace Term

variable [PlaneGeometry]

mutual

def value (source : RowSource) : Term → Scalar
  | literal value => value
  | column reference => reference.value source
  | arithmetic operator left right => operator.apply (value source left) (value source right)
  | negate operand => Arithmetic.negate (value source operand)
  | call function arguments => function.apply (values source arguments)

def values (source : RowSource) : List Term → List Scalar
  | [] => []
  | term :: rest => value source term :: values source rest

end

end Term

/-- The truth of a comparison; unknown where the values do not compare. -/
def Comparison.truth (comparison : Comparison) (left right : Scalar) : Truth :=
  (left.compare? right).map comparison.allows

def Scalar.truth : Scalar → Truth
  | bool value => some value
  | _ => none

namespace Predicate

variable [PlaneGeometry]

mutual

def truth (source : RowSource) : Predicate → Truth
  | constant value => some value
  | compare comparison left right => comparison.truth (left.value source) (right.value source)
  | all parts => truthOfAll source parts
  | any parts => truthOfAny source parts
  | not part => (truth source part).not
  | holds term => (term.value source).truth

def truthOfAll (source : RowSource) : List Predicate → Truth
  | [] => some true
  | part :: rest => (truth source part).and (truthOfAll source rest)

def truthOfAny (source : RowSource) : List Predicate → Truth
  | [] => some false
  | part :: rest => (truth source part).or (truthOfAny source rest)

end

/-- The predicate selects a row only where it is known to be true. -/
def selects (predicate : Predicate) (source : RowSource) : Bool :=
  predicate.truth source == some true

end Predicate

end SensorThings
