import SensorThings.Filter.Expression
import SensorThings.Filter.Fault
import SensorThings.Filter.Schema
import SensorThings.Spatial.Matrix

/-!
Expressions as values with a static type. A time property with a start and an end is a pair of
columns; where one value is needed its start stands for it.
-/
namespace SensorThings

inductive Operand where
  | value (term : Term) (type : ValueType)
  | span (start stop : Term)

namespace Operand

/-- The term that stands for the operand where one value is needed. -/
def term : Operand → Term
  | value term _ => term
  | span start _ => start

def type : Operand → ValueType
  | value _ type => type
  | span _ _ => .instant

end Operand

/-- Where names are looked up, and the time that `now()` gives. -/
structure QueryContext where
  schema : Schema
  root : PropertyMap
  now : Instant

def Scalar.type : Scalar → ValueType
  | null => .any
  | bool _ => .boolean
  | int _ => .number
  | float _ => .number
  | string _ => .string
  | instant _ => .instant
  | date _ => .date
  | timeOfDay _ => .timeOfDay
  | geometry _ => .geometry
  | json _ => .json

/-- Follow a path over relations, `hops` so far, to a property. Only a document has a path of its
own. -/
def Schema.resolve (schema : Schema) (map : PropertyMap) (hops : List Hop) :
    List String → Except QueryReason Operand
  | [] => .error .emptyPath
  | segment :: rest =>
    match map.property? segment with
    | none => .error (.unknownProperty segment map.entity)
    | some (.relation target) =>
      if rest.isEmpty then .error (.relationAsValue segment)
      else match schema target with
        | none => .error (.unknownEntity target)
        | some next => resolve schema next (hops ++ [⟨segment, target⟩]) rest
    | some (.column name type) =>
      if rest.isEmpty then .ok (.value (.column ⟨hops, name, []⟩) type)
      else .error (.noProperties segment)
    | some (.span start stop) =>
      if rest.isEmpty then
        .ok (.span (.column ⟨hops, start, []⟩) (.column ⟨hops, stop, []⟩))
      else .error (.noProperties segment)
    | some (.json name) =>
      .ok (.value (.column ⟨hops, name, rest⟩) (if rest.isEmpty then .json else .any))

def Expression.located {α : Type} (expression : Expression) :
    Except QueryReason α → Except QueryFault α
  | .ok value => .ok value
  | .error reason => .error (.invalid expression.text reason)

/-- The instants that calls without arguments name. -/
def QueryContext.instant? (context : QueryContext) (name : String) : Option Instant :=
  let name := Text.lowerAscii name
  if name = "now" then some context.now
  else if name = "mindatetime" then some Instant.first
  else if name = "maxdatetime" then some Instant.last
  else none

/-- A literal matrix pattern is checked before any row is read. -/
def Function.acceptsPattern (function : Function) (arguments : List Term) : Bool :=
  match function, arguments with
  | .relate, [_, _, .literal (.string pattern)] => Spatial.Pattern.isValid pattern
  | _, _ => true

namespace Expression

mutual

def operand (context : QueryContext) : Expression → Except QueryFault Operand
  | literal value => .ok (.value (.literal value) value.type)
  | member path => (member path).located (context.schema.resolve context.root [] path)
  | arithmetic operator left right => do
    let leftOperand ← operand context left
    let rightOperand ← operand context right
    if leftOperand.type.isNumeric && rightOperand.type.isNumeric then
      .ok (.value (.arithmetic operator leftOperand.term rightOperand.term) .number)
    else (arithmetic operator left right).located (.error .arithmeticOperands)
  | negate inner => do
    let innerOperand ← operand context inner
    if innerOperand.type.isNumeric then .ok (.value (.negate innerOperand.term) .number)
    else (negate inner).located (.error .negationOperand)
  | call name arguments =>
    if arguments.isEmpty then
      match context.instant? name with
      | some instant => .ok (.value (.literal (.instant instant)) .instant)
      | none => .error (.unsupportedFunction name 0)
    else match Function.ofCall? name arguments.length with
      | none => .error (.unsupportedFunction name arguments.length)
      | some function => do
        let terms ← operands context (call name arguments) name function 0 arguments
        if function.acceptsPattern terms then
          .ok (.value (.call function terms) function.resultType)
        else (call name arguments).located (.error .matrixPattern)
  | lambda quantifier path binder body =>
    (lambda quantifier path binder body).located (.error .lambda)
  | condition => condition.located (.error .conditionAsValue)

def operands (context : QueryContext) (whole : Expression) (name : String) (function : Function)
    (position : Nat) : List Expression → Except QueryFault (List Term)
  | [] => .ok []
  | argument :: rest => do
    let argumentOperand ← operand context argument
    if function.accepts position argumentOperand.type then
      let terms ← operands context whole name function (position + 1) rest
      .ok (argumentOperand.term :: terms)
    else
      whole.located (.error (.argumentType (position + 1) name argumentOperand.type))

end

/-- A value-producing expression as a term. -/
def term (context : QueryContext) (expression : Expression) : Except QueryFault Term :=
  return (← expression.operand context).term

/-- The columns a sort key stands for: a time with start and end sorts by both. -/
def sortColumns (context : QueryContext) (expression : Expression) :
    Except QueryFault (List Column) :=
  match expression with
  | member path => do
    let columns : Term → List Column := fun
      | .column column => [column]
      | _ => []
    match ← (member path).operand context with
    | .value term _ => return columns term
    | .span start stop => return columns start ++ columns stop
  | other => other.located (.error .sortKey)

end Expression

end SensorThings
