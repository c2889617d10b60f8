import SensorThings.Model.Schema
import SensorThings.Proofs.Filter.Compilation
import SensorThings.Proofs.Filter.Connectives
import SensorThings.Spatial.Measure

/-!
What an expression means on a row, without terms, predicates or static types: a reading of it, and
for a condition its truth. Compilation keeps the meaning of every expression it accepts.
-/
namespace SensorThings

/-- What an expression reads from a row: one value, or the start and the end of a time. -/
inductive Reading where
  | single (value : Scalar)
  | span (start stop : Scalar)

namespace Reading

/-- The earlier end; a single value is both its ends. -/
def first : Reading → Scalar
  | single value => value
  | span start _ => start

def last : Reading → Scalar
  | single value => value
  | span _ stop => stop

/-- A value as a condition is its own Boolean; all else is unknown. -/
def truth : Reading → Truth
  | single value => value.truth
  | span _ _ => none

end Reading

namespace Comparison

/-- Comparison where at least one side has a start and an end. They are equal when both ends agree,
and one is less than the other when all of it is earlier. -/
def truthOfEnds (comparison : Comparison) (left right : Reading) : Truth :=
  let equality := (equal.truth left.first right.first).and (equal.truth left.last right.last)
  match comparison with
  | equal => equality
  | notEqual => equality.not
  | less => less.truth left.last right.first
  | atMost => atMost.truth left.last right.first
  | greater => greater.truth left.first right.last
  | atLeast => atLeast.truth left.first right.last

def truthOfReadings (comparison : Comparison) : Reading → Reading → Truth
  | .single left, .single right => comparison.truth left right
  | left, right => comparison.truthOfEnds left right

end Comparison

namespace RowSource

/-- The rows as seen from the row that some relations lead to. -/
def along (source : RowSource) (hops : List Hop) : RowSource :=
  fun further => source (hops ++ further)

/-- A column of the row itself; null where there is no row. -/
def column (source : RowSource) (name : String) : Scalar :=
  match source [] with
  | some columns => columns name
  | none => .null

/-- The value at the end of a path into the document in a column; the column itself without one. -/
def document (source : RowSource) (name : String) : List String → Scalar
  | [] => source.column name
  | segment :: rest =>
    match source.column name with
    | .json document => .atPath document (segment :: rest)
    | _ => .null

@[simp] theorem along_along (source : RowSource) (hops further : List Hop) :
    (source.along hops).along further = source.along (hops ++ further) := by
  funext rest
  rw [along, along, along, List.append_assoc]

theorem value_column [PlaneGeometry] (source : RowSource) (hops : List Hop) (name : String)
    (path : List String) :
    (Term.column ⟨hops, name, path⟩).value source = (source.along hops).document name path := by
  rw [Term.value, Column.value]
  cases path with
  | nil =>
    simp only [document, column, along, List.append_nil]
    cases source hops <;> rfl
  | cons segment rest =>
    simp only [document, column, along, List.append_nil]
    cases source hops with
    | none => rfl
    | some columns => cases shape : columns name <;> simp only [shape]

end RowSource

/-- Read a path by walking: a relation leads to the next row, with the properties of its kind. -/
def Schema.read (schema : Schema) (map : PropertyMap) (source : RowSource) : List String → Reading
  | [] => .single .null
  | segment :: rest =>
    match map.property? segment with
    | none => .single .null
    | some (.relation target) =>
      match schema target with
      | none => .single .null
      | some next => read schema next (source.along [⟨segment, target⟩]) rest
    | some (.column name _) => .single (source.column name)
    | some (.span start stop) => .span (source.column start) (source.column stop)
    | some (.json name) => .single (source.document name rest)

namespace Expression

section

variable [PlaneGeometry] (context : QueryContext) (source : RowSource)

mutual

/-- The reading of an expression that gives a value. Where one value is needed, a time with a start
and an end is its start. -/
def reading : Expression → Reading
  | literal value => .single value
  | member path => context.schema.read context.root source path
  | arithmetic operator left right =>
    .single (operator.apply (reading left).first (reading right).first)
  | negate inner => .single (Arithmetic.negate (reading inner).first)
  | call name arguments => .single (
    if arguments.isEmpty then .ofOption .instant (context.instant? name)
    else match Function.ofCall? name arguments.length with
      | some function => function.apply (scalars arguments)
      | none => .null)
  | _ => .single .null

def scalars : List Expression → List Scalar
  | [] => []
  | argument :: rest => (reading argument).first :: scalars rest

end

/-- The truth of an expression as a condition on a row. -/
def truth : Expression → Truth
  | both left right => (truth left).and (truth right)
  | either left right => (truth left).or (truth right)
  | not operand => (truth operand).not
  | compare comparison left right =>
    comparison.truthOfReadings (reading context source left) (reading context source right)
  | value => (reading context source value).truth

end

end Expression

namespace Operand

variable [PlaneGeometry] (source : RowSource)

/-- What an operand reads from a row. -/
def reading : Operand → Reading
  | value term _ => .single (term.value source)
  | span start stop => .span (start.value source) (stop.value source)

theorem value_term (operand : Operand) :
    operand.term.value source = (operand.reading source).first := by
  cases operand <;> rfl

end Operand

theorem Schema.Resolution.reading [PlaneGeometry] {schema : Schema} {map : PropertyMap}
    {hops : List Hop} {path : List String} {operand : Operand}
    (resolution : schema.Resolution map hops path operand)
    (source : RowSource) :
    operand.reading source = schema.read map (source.along hops) path := by
  induction resolution with
  | column found =>
    simp only [read, found]
    rw [Operand.reading, RowSource.value_column]
    rfl
  | span found =>
    simp only [read, found]
    rw [Operand.reading, RowSource.value_column, RowSource.value_column]
    rfl
  | document found =>
    simp only [read, found]
    rw [Operand.reading, RowSource.value_column]
  | relation found known further ih =>
    simp only [read, found, known]
    rw [RowSource.along_along, ih]

namespace Expression

variable [PlaneGeometry] {context : QueryContext} (source : RowSource)

mutual

theorem reading_of_operand {expression : Expression} {operand : Operand}
    (compiled : expression.operand context = .ok operand) :
    operand.reading source = expression.reading context source := by
  match expression with
  | literal value =>
    cases compiled
    rfl
  | member path =>
    exact (Schema.resolution_of_resolve (located_eq_ok_iff.1 compiled)).reading source
  | arithmetic operator left right =>
    obtain ⟨leftOperand, rightOperand, leftCompiled, rightCompiled, -, -, rfl⟩ :=
      operand_arithmetic_eq_ok_iff.1 compiled
    rw [reading, ← reading_of_operand leftCompiled, ← reading_of_operand rightCompiled,
      ← Operand.value_term, ← Operand.value_term, Operand.reading, Term.value]
  | negate inner =>
    obtain ⟨innerOperand, innerCompiled, -, rfl⟩ := operand_negate_eq_ok_iff.1 compiled
    rw [reading, ← reading_of_operand innerCompiled, ← Operand.value_term, Operand.reading,
      Term.value]
  | call name arguments =>
    rw [reading]
    rcases operand_call_eq_ok_iff.1 compiled with
      ⟨empty, instant, named, rfl⟩ | ⟨several, function, found, terms, termsCompiled, -, rfl⟩
    · rw [if_pos (List.isEmpty_iff.2 empty), named]
      rfl
    · rw [if_neg (mt List.isEmpty_iff.1 several), found]
      rw [Operand.reading, Term.value, values_of_operands termsCompiled]
  | lambda .. => cases located_eq_ok_iff.1 compiled
  | both .. => cases located_eq_ok_iff.1 compiled
  | either .. => cases located_eq_ok_iff.1 compiled
  | not .. => cases located_eq_ok_iff.1 compiled
  | compare .. => cases located_eq_ok_iff.1 compiled

theorem values_of_operands {whole : Expression} {name : String} {function : Function}
    {position : Nat} {arguments : List Expression} {terms : List Term}
    (compiled : operands context whole name function position arguments = .ok terms) :
    Term.values source terms = scalars context source arguments := by
  match arguments with
  | [] =>
    cases compiled
    rfl
  | argument :: rest =>
    obtain ⟨operand, others, operandCompiled, -, othersCompiled, rfl⟩ :=
      operands_cons_eq_ok_iff.1 compiled
    rw [Term.values, scalars, Operand.value_term, reading_of_operand operandCompiled,
      values_of_operands othersCompiled]

end

end Expression

namespace Comparison

variable (source : RowSource)

theorem truth_withSpan [PlaneGeometry] (comparison : Comparison) (start stop value : Term) :
    (comparison.withSpan start stop value).truth source =
      comparison.truthOfEnds (.span (start.value source) (stop.value source))
        (.single (value.value source)) := by
  cases comparison <;>
    simp only [withSpan, truthOfEnds, Predicate.truth_negation, Predicate.truth_both,
      Predicate.equal, Predicate.truth, Reading.first, Reading.last]

theorem truth_betweenSpans [PlaneGeometry] (comparison : Comparison)
    (start stop otherStart otherStop : Term) :
    (comparison.betweenSpans start stop otherStart otherStop).truth source =
      comparison.truthOfEnds (.span (start.value source) (stop.value source))
        (.span (otherStart.value source) (otherStop.value source)) := by
  cases comparison <;>
    simp only [betweenSpans, truthOfEnds, Predicate.truth_negation, Predicate.truth_both,
      Predicate.equal, Predicate.truth, Reading.first, Reading.last]

theorem truthOfEnds_flip (comparison : Comparison) (left right : Reading) :
    comparison.flip.truthOfEnds left right = comparison.truthOfEnds right left := by
  have equality (left right : Scalar) : equal.truth left right = equal.truth right left :=
    truth_flip equal left right
  cases comparison <;> simp only [flip, truthOfEnds]
  case equal => rw [equality left.first, equality left.last]
  case notEqual => rw [equality left.first, equality left.last]
  case less => exact truth_flip less left.first right.last
  case atMost => exact truth_flip atMost left.first right.last
  case greater => exact truth_flip greater left.last right.first
  case atLeast => exact truth_flip atLeast left.last right.first

theorem truth_ofOperands [PlaneGeometry] (comparison : Comparison) (left right : Operand) :
    (comparison.ofOperands left right).truth source =
      comparison.truthOfReadings (left.reading source) (right.reading source) := by
  match left, right with
  | .value .., .value .. => rfl
  | .span .., .value .. => exact truth_withSpan ..
  | .value .., .span .. => exact (truth_withSpan ..).trans (truthOfEnds_flip ..)
  | .span .., .span .. => exact truth_betweenSpans ..

end Comparison

namespace Expression

section

variable [PlaneGeometry] {context : QueryContext}

theorem truth_comparison {comparison : Comparison} {left right : Expression}
    {predicate : Predicate}
    (compiled : Expression.comparison context comparison left right = .ok predicate)
    (source : RowSource) :
    predicate.truth source = (compare comparison left right).truth context source := by
  obtain ⟨leftOperand, rightOperand, leftCompiled, rightCompiled, -, rfl⟩ :=
    comparison_eq_ok_iff.1 compiled
  rw [Comparison.truth_ofOperands, reading_of_operand source leftCompiled,
    reading_of_operand source rightCompiled, truth]

theorem truth_valueCondition {expression : Expression} {predicate : Predicate}
    (compiled : expression.valueCondition context = .ok predicate) (source : RowSource) :
    predicate.truth source = (expression.reading context source).truth := by
  rw [valueCondition, bind_eq_ok_iff] at compiled
  obtain ⟨operand, operandCompiled, compiled⟩ := compiled
  rw [← reading_of_operand source operandCompiled]
  split at compiled
  next =>
    cases compiled
    rfl
  next =>
    cases compiled
    rfl
  next => cases located_eq_ok_iff.1 compiled

theorem truth_eq_of_predicate {expression : Expression} {predicate : Predicate}
    (compiled : expression.predicate context = .ok predicate) :
    (fun source => predicate.truth source) = fun source => expression.truth context source := by
  funext source
  fun_induction Expression.predicate context expression generalizing predicate with
  | case1 left right leftIh rightIh =>
    rw [bind_eq_ok_iff] at compiled
    obtain ⟨leftPredicate, leftCompiled, compiled⟩ := compiled
    rw [bind_eq_ok_iff] at compiled
    obtain ⟨rightPredicate, rightCompiled, compiled⟩ := compiled
    cases compiled
    rw [Predicate.truth_both, leftIh leftCompiled, rightIh rightCompiled, truth]
  | case2 left right leftIh rightIh =>
    rw [bind_eq_ok_iff] at compiled
    obtain ⟨leftPredicate, leftCompiled, compiled⟩ := compiled
    rw [bind_eq_ok_iff] at compiled
    obtain ⟨rightPredicate, rightCompiled, compiled⟩ := compiled
    cases compiled
    rw [Predicate.truth_either, leftIh leftCompiled, rightIh rightCompiled, truth]
  | case3 relation left right => exact truth_comparison compiled source
  | case4 operator left right => cases located_eq_ok_iff.1 compiled
  | case5 operand ih =>
    rw [bind_eq_ok_iff] at compiled
    obtain ⟨operandPredicate, operandCompiled, compiled⟩ := compiled
    cases compiled
    rw [Predicate.truth_negation, ih operandCompiled, truth]
  | case6 value =>
    cases compiled
    rfl
  | case7 value notBoth notEither notCompare _ notNot =>
    rw [truth_valueCondition compiled, truth]
    · exact notBoth
    · exact notEither
    · exact notNot
    · exact notCompare

/-- A filter that is accepted selects by the meaning of its expression: on every row its predicate
is true, false or unknown just as the expression is. -/
theorem predicate_truth {expression : Expression} {predicate : Predicate}
    (compiled : expression.predicate context = .ok predicate) (source : RowSource) :
    predicate.truth source = expression.truth context source :=
  congrFun (truth_eq_of_predicate compiled) source

end

def endedElsewhere : Expression :=
  both (compare .less (member ["phenomenonTime"]) (call "now" []))
    (not (compare .equal (member ["Thing", "name"]) (literal (.string "roof"))))

def newYearInGarden : RowSource
  | [] => some fun _ => .instant default
  | _ => some fun _ => .string "garden"

def dayAfter : Instant :=
  ⟨⟨1970, 1, 2, rfl⟩, .midnight⟩

theorem predicate_truth_endedElsewhere :
    ∃ root predicate, EntityKind.datastream.propertyMap? = some root ∧
      endedElsewhere.predicate ⟨EntityKind.schema, root, dayAfter⟩ = .ok predicate ∧
        predicate.truth newYearInGarden =
          endedElsewhere.truth ⟨EntityKind.schema, root, dayAfter⟩ newYearInGarden ∧
        endedElsewhere.truth ⟨EntityKind.schema, root, dayAfter⟩ newYearInGarden = some true :=
  ⟨_, _, rfl, rfl, predicate_truth rfl _, by decide +kernel⟩

end Expression

end SensorThings
