import SensorThings.Filter.Operand

/-!
Expressions as conditions. Comparing a time that has a start and an end looks at the end that lies
nearer: it is less than another time when all of it is earlier, and equal when both ends agree.
-/
namespace SensorThings

namespace Comparison

def withSpan (comparison : Comparison) (start stop value : Term) : Predicate :=
  let equality := Predicate.both (.equal start value) (.equal stop value)
  match comparison with
  | equal => equality
  | notEqual => equality.negation
  | less => .compare .less stop value
  | atMost => .compare .atMost stop value
  | greater => .compare .greater start value
  | atLeast => .compare .atLeast start value

def betweenSpans (comparison : Comparison) (start stop otherStart otherStop : Term) : Predicate :=
  let equality := Predicate.both (.equal start otherStart) (.equal stop otherStop)
  match comparison with
  | equal => equality
  | notEqual => equality.negation
  | less => .compare .less stop otherStart
  | atMost => .compare .atMost stop otherStart
  | greater => .compare .greater start otherStop
  | atLeast => .compare .atLeast start otherStop

def ofOperands (comparison : Comparison) : Operand → Operand → Predicate
  | .value left _, .value right _ => .compare comparison left right
  | .span start stop, .value right _ => comparison.withSpan start stop right
  | .value left _, .span start stop => comparison.flip.withSpan start stop left
  | .span start stop, .span otherStart otherStop =>
    comparison.betweenSpans start stop otherStart otherStop

end Comparison

namespace Expression

/-- The predicate of a comparison, refused for types that never compare. -/
def comparison (context : QueryContext) (comparison : Comparison) (left right : Expression) :
    Except QueryFault Predicate := do
  let leftOperand ← left.operand context
  let rightOperand ← right.operand context
  let leftType := leftOperand.type
  let rightType := rightOperand.type
  if (leftType.isNumeric && rightType.isNumeric) || leftType.comparable rightType then
    .ok (comparison.ofOperands leftOperand rightOperand)
  else
    (compare comparison left right).located (.error (.incomparable leftType rightType))

/-- A value that may be a condition: a Boolean or an untyped one. -/
def valueCondition (context : QueryContext) (expression : Expression) :
    Except QueryFault Predicate := do
  match ← expression.operand context with
  | .value term .boolean => .ok (.holds term)
  | .value term .any => .ok (.holds term)
  | _ => expression.located (.error .notCondition)

/-- The predicate that an expression stands for. -/
def predicate (context : QueryContext) : Expression → Except QueryFault Predicate
  | both left right => do
    let leftPredicate ← predicate context left
    let rightPredicate ← predicate context right
    .ok (.both leftPredicate rightPredicate)
  | either left right => do
    let leftPredicate ← predicate context left
    let rightPredicate ← predicate context right
    .ok (.either leftPredicate rightPredicate)
  | compare relation left right => comparison context relation left right
  | arithmetic operator left right =>
    (arithmetic operator left right).located (.error .arithmeticAsCondition)
  | not operand => do
    let operandPredicate ← predicate context operand
    .ok operandPredicate.negation
  | literal (.bool value) => .ok (.constant value)
  | value => valueCondition context value

end Expression

end SensorThings
