import SensorThings.Filter.Condition
import SensorThings.Proofs.Filter.Comparison
import SensorThings.Proofs.Sequencing

/-!
What compilation accepts, one kind of expression at a time: what it takes of the parts, and what
comes out.
-/
namespace SensorThings

@[simp] theorem Expression.located_eq_ok_iff {α : Type} {expression : Expression}
    {result : Except QueryReason α} {value : α} :
    expression.located result = .ok value ↔ result = .ok value := by
  cases result <;> simp [located]

/-- How a path resolves: from a map, with hops so far, over relations to a property. -/
inductive Schema.Resolution (schema : Schema) :
    PropertyMap → List Hop → List String → Operand → Prop where
  | column {map : PropertyMap} {hops : List Hop} {segment name : String} {type : ValueType}
      (found : map.property? segment = some (.column name type)) :
      Resolution schema map hops [segment] (.value (.column ⟨hops, name, []⟩) type)
  | span {map : PropertyMap} {hops : List Hop} {segment start stop : String}
      (found : map.property? segment = some (.span start stop)) :
      Resolution schema map hops [segment]
        (.span (.column ⟨hops, start, []⟩) (.column ⟨hops, stop, []⟩))
  | document {map : PropertyMap} {hops : List Hop} {segment name : String} {rest : List String}
      (found : map.property? segment = some (.json name)) :
      Resolution schema map hops (segment :: rest)
        (.value (.column ⟨hops, name, rest⟩) (if rest.isEmpty then .json else .any))
  | relation {map next : PropertyMap} {hops : List Hop} {segment target : String}
      {rest : List String} {operand : Operand}
      (found : map.property? segment = some (.relation target)) (known : schema target = some next)
      (further : Resolution schema next (hops ++ [⟨segment, target⟩]) rest operand) :
      Resolution schema map hops (segment :: rest) operand

namespace Schema

variable {schema : Schema} {map : PropertyMap} {hops : List Hop} {path : List String}
  {operand : Operand}

theorem resolution_of_resolve (resolved : schema.resolve map hops path = .ok operand) :
    schema.Resolution map hops path operand := by
  induction path generalizing map hops with
  | nil => cases resolved
  | cons segment rest ih =>
    unfold resolve at resolved
    split at resolved
    next => contradiction
    next target found =>
      split at resolved
      next => contradiction
      next =>
        split at resolved
        next => contradiction
        next next known => exact .relation found known (ih resolved)
    next name type found =>
      split at resolved
      next last =>
        obtain rfl := List.isEmpty_iff.1 last
        cases resolved
        exact .column found
      next => contradiction
    next start stop found =>
      split at resolved
      next last =>
        obtain rfl := List.isEmpty_iff.1 last
        cases resolved
        exact .span found
      next => contradiction
    next name found =>
      cases resolved
      exact .document found

theorem Resolution.resolve (resolution : schema.Resolution map hops path operand) :
    schema.resolve map hops path = .ok operand := by
  induction resolution with
  | column found => simp [Schema.resolve, found]
  | span found => simp [Schema.resolve, found]
  | document found => simp [Schema.resolve, found]
  | relation found known further ih =>
    cases further <;> simpa [Schema.resolve, found, known] using ih

end Schema

namespace Expression

variable {context : QueryContext} {operand : Operand}

theorem operand_arithmetic_eq_ok_iff {operator : Arithmetic} {left right : Expression} :
    (arithmetic operator left right).operand context = .ok operand ↔
      ∃ leftOperand rightOperand, left.operand context = .ok leftOperand ∧
        right.operand context = .ok rightOperand ∧
        leftOperand.type.isNumeric = true ∧ rightOperand.type.isNumeric = true ∧
        .value (.arithmetic operator leftOperand.term rightOperand.term) .number = operand := by
  simp only [Expression.operand, bind_eq_ok_iff]
  refine exists_congr fun leftOperand => ?_
  rw [← exists_and_left]
  refine exists_congr fun rightOperand => and_congr_right fun _ => and_congr_right fun _ => ?_
  rw [← and_assoc, ← Bool.and_eq_true]
  split
  next numeric => simp [numeric]
  next notNumeric => simp [notNumeric, located_eq_ok_iff]

theorem operand_negate_eq_ok_iff {inner : Expression} :
    (negate inner).operand context = .ok operand ↔
      ∃ innerOperand, inner.operand context = .ok innerOperand ∧
        innerOperand.type.isNumeric = true ∧
        .value (.negate innerOperand.term) .number = operand := by
  simp only [Expression.operand, bind_eq_ok_iff]
  refine exists_congr fun innerOperand => and_congr_right fun _ => ?_
  split
  next numeric => simp [numeric]
  next notNumeric => simp [notNumeric, located_eq_ok_iff]

theorem operand_call_eq_ok_iff {name : String} {arguments : List Expression} :
    (call name arguments).operand context = .ok operand ↔
      (arguments = [] ∧ ∃ instant, context.instant? name = some instant ∧
        .value (.literal (.instant instant)) .instant = operand) ∨
      (arguments ≠ [] ∧ ∃ function, Function.ofCall? name arguments.length = some function ∧
        ∃ terms, operands context (call name arguments) name function 0 arguments = .ok terms ∧
          function.acceptsPattern terms = true ∧
          .value (.call function terms) function.resultType = operand) := by
  rw [Expression.operand]
  split
  next empty =>
    obtain rfl := List.isEmpty_iff.1 empty
    cases context.instant? name <;> simp
  next several =>
    rw [List.isEmpty_iff] at several
    cases Function.ofCall? name arguments.length with
    | none => simp [several]
    | some function =>
      simp only [several, bind_eq_ok_iff, false_and, false_or, not_false_eq_true, true_and, ne_eq,
        Option.some.injEq, exists_eq_left']
      refine exists_congr fun terms => and_congr_right fun _ => ?_
      split
      next valid => simp [valid]
      next invalid => simp [invalid, located_eq_ok_iff]

theorem operands_cons_eq_ok_iff {whole argument : Expression} {name : String} {function : Function}
    {position : Nat} {rest : List Expression} {terms : List Term} :
    operands context whole name function position (argument :: rest) = .ok terms ↔
      ∃ argumentOperand others, argument.operand context = .ok argumentOperand ∧
        function.accepts position argumentOperand.type = true ∧
        operands context whole name function (position + 1) rest = .ok others ∧
        argumentOperand.term :: others = terms := by
  simp only [operands, bind_eq_ok_iff]
  refine exists_congr fun argumentOperand => ?_
  rw [exists_and_left]
  refine and_congr_right fun _ => ?_
  split
  next accepted => simp [accepted, bind_eq_ok_iff]
  next refused => simp [refused, located_eq_ok_iff]

theorem comparison_eq_ok_iff {comparison : Comparison} {left right : Expression}
    {predicate : Predicate} :
    Expression.comparison context comparison left right = .ok predicate ↔
      ∃ leftOperand rightOperand, left.operand context = .ok leftOperand ∧
        right.operand context = .ok rightOperand ∧
        leftOperand.type.comparable rightOperand.type = true ∧
        comparison.ofOperands leftOperand rightOperand = predicate := by
  simp only [Expression.comparison, bind_eq_ok_iff]
  refine exists_congr fun leftOperand => ?_
  rw [← exists_and_left]
  refine exists_congr fun rightOperand => and_congr_right fun _ => and_congr_right fun _ => ?_
  cases comparable : leftOperand.type.comparable rightOperand.type with
  | true => simp
  | false =>
    have notNumeric : (leftOperand.type.isNumeric && rightOperand.type.isNumeric) = false := by
      rw [Bool.eq_false_iff, ne_eq, Bool.and_eq_true]
      rintro ⟨leftNumeric, rightNumeric⟩
      rw [ValueType.comparable_of_isNumeric leftNumeric rightNumeric] at comparable
      contradiction
    simp [notNumeric, located_eq_ok_iff]

end Expression

end SensorThings
