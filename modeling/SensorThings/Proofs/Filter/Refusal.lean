import Mathlib.Logic.Relation
import SensorThings.Proofs.Filter.Meaning
import SensorThings.Proofs.Filter.Signature

/-!
Refused expressions. An expression with a part that means nothing is refused wherever that part
stands, and what a refusal quotes is found in the expression.
-/
namespace SensorThings

def Schema.Resolves (schema : Schema) (map : PropertyMap) (path : List String) : Prop :=
  ∃ operand, schema.Resolution map [] path operand

/-- The calls that there are: of a moment without arguments, or of a function with as many as it
takes. Letters A to Z may be capital. -/
inductive Function.Known : String → Nat → Prop where
  | moment {name : String}
      (listed : Text.lowerAscii name ∈ ["now", "mindatetime", "maxdatetime"]) : Known name 0
  | function {name : String} {arity : Nat} (function : Function)
      (named : function.name = Text.lowerAscii name) (takes : function.Takes arity) :
      Known name arity

theorem QueryContext.instant?_isSome {context : QueryContext} {name : String} :
    (context.instant? name).isSome = true ↔
      Text.lowerAscii name ∈ ["now", "mindatetime", "maxdatetime"] := by
  simp only [instant?]
  split
  next named => simp [named]
  next notNow =>
    split
    next named => simp [named]
    next notFirst =>
      split
      next named => simp [named]
      next notLast => simp [notNow, notFirst, notLast]

namespace Function

theorem requiredArguments_pos (function : Function) : 0 < function.requiredArguments := by
  cases function <;> decide

theorem mem_all (function : Function) : function ∈ all := by
  cases function <;> decide

theorem ofCall?_isSome {name : String} {arity : Nat} :
    (ofCall? name arity).isSome = true ↔
      ∃ function : Function, function.name = Text.lowerAscii name ∧ function.Takes arity := by
  simp [ofCall?, List.find?_isSome, mem_all, and_assoc, Takes]

theorem known_zero_iff (context : QueryContext) {name : String} :
    Known name 0 ↔ (context.instant? name).isSome = true := by
  rw [QueryContext.instant?_isSome]
  constructor
  · rintro (listed | ⟨function, -, takes⟩)
    · exact listed
    · exact absurd takes.1 (Nat.not_le.2 function.requiredArguments_pos)
  · exact .moment

theorem known_iff {name : String} {arity : Nat} (nonzero : arity ≠ 0) :
    Known name arity ↔ (ofCall? name arity).isSome = true := by
  rw [ofCall?_isSome]
  constructor
  · rintro (listed | ⟨function, named, takes⟩)
    · contradiction
    · exact ⟨function, named, takes⟩
  · rintro ⟨function, named, takes⟩
    exact .function function named takes

end Function

namespace Expression

def children : Expression → List Expression
  | literal _ => []
  | member _ => []
  | compare _ left right => [left, right]
  | both left right => [left, right]
  | either left right => [left, right]
  | arithmetic _ left right => [left, right]
  | not operand => [operand]
  | negate operand => [operand]
  | call _ arguments => arguments
  | lambda _ _ _ body => [body]

/-- A part of an expression, at any depth; the expression itself is one. -/
abbrev Within : Expression → Expression → Prop :=
  Relation.ReflTransGen fun child whole => child ∈ whole.children

/-- Expressions that mean nothing by themselves, whatever their parts mean. -/
inductive Meaningless (context : QueryContext) : Expression → Prop where
  | lambda (quantifier : Quantifier) (path : List String) (binder : String) (body : Expression) :
      Meaningless context (lambda quantifier path binder body)
  | call {name : String} {arguments : List Expression}
      (unknown : ¬Function.Known name arguments.length) : Meaningless context (call name arguments)
  | member {path : List String} (lost : ¬context.schema.Resolves context.root path) :
      Meaningless context (member path)

/-- What a refusal quotes is found in the expression: the text of a part, or a call of a function
that there is not. -/
def Blames (whole : Expression) : QueryFault → Prop
  | .invalid fragment _ => ∃ part : Expression, part.Within whole ∧ fragment = part.text
  | .unsupportedFunction name arity => ∃ arguments, (call name arguments).Within whole ∧
      arguments.length = arity ∧ ¬Function.Known name arity

def Accepted (context : QueryContext) (expression : Expression) : Prop :=
  (∃ predicate, expression.predicate context = .ok predicate) ∨
    ∃ operand, expression.operand context = .ok operand

section

variable {context : QueryContext}

theorem operand_of_operands {whole : Expression} {name : String} {function : Function}
    {position : Nat} {arguments : List Expression} {terms : List Term}
    (compiled : operands context whole name function position arguments = .ok terms)
    {argument : Expression} (member : argument ∈ arguments) :
    ∃ operand, argument.operand context = .ok operand := by
  induction arguments generalizing position terms with
  | nil => contradiction
  | cons first rest ih =>
    obtain ⟨operand, others, operandCompiled, -, othersCompiled, -⟩ :=
      operands_cons_eq_ok_iff.1 compiled
    rcases List.mem_cons.1 member with rfl | member
    · exact ⟨operand, operandCompiled⟩
    · exact ih othersCompiled member

theorem operand_of_child {whole : Expression} {operand : Operand}
    (compiled : whole.operand context = .ok operand) :
    ∀ child ∈ whole.children, ∃ operand, child.operand context = .ok operand := by
  cases whole with
  | literal => exact nofun
  | member => exact nofun
  | arithmetic operator left right =>
    obtain ⟨leftOperand, rightOperand, leftCompiled, rightCompiled, -⟩ :=
      operand_arithmetic_eq_ok_iff.1 compiled
    exact List.forall_mem_cons.2
      ⟨⟨_, leftCompiled⟩, List.forall_mem_singleton.2 ⟨_, rightCompiled⟩⟩
  | negate inner =>
    obtain ⟨innerOperand, innerCompiled, -⟩ := operand_negate_eq_ok_iff.1 compiled
    exact List.forall_mem_singleton.2 ⟨_, innerCompiled⟩
  | call name arguments =>
    rcases operand_call_eq_ok_iff.1 compiled with
      ⟨rfl, -⟩ | ⟨-, function, -, terms, termsCompiled, -⟩
    · exact nofun
    · exact fun argument member => operand_of_operands termsCompiled member
  | lambda => cases located_eq_ok_iff.1 compiled
  | both => cases located_eq_ok_iff.1 compiled
  | either => cases located_eq_ok_iff.1 compiled
  | not => cases located_eq_ok_iff.1 compiled
  | compare => cases located_eq_ok_iff.1 compiled

theorem accepted_of_valueCondition {whole : Expression} {predicate : Predicate}
    (compiled : whole.valueCondition context = .ok predicate) :
    ∀ child ∈ whole.children, child.Accepted context := by
  obtain ⟨operand, operandCompiled, -⟩ := bind_eq_ok_iff.1 compiled
  exact fun child isChild => .inr (operand_of_child operandCompiled child isChild)

theorem accepted_of_predicate {whole : Expression} {predicate : Predicate}
    (compiled : whole.predicate context = .ok predicate) :
    ∀ child ∈ whole.children, child.Accepted context := by
  cases whole with
  | literal => exact nofun
  | member => exact nofun
  | both left right =>
    obtain ⟨leftPredicate, leftCompiled, compiled⟩ := bind_eq_ok_iff.1 compiled
    obtain ⟨rightPredicate, rightCompiled, -⟩ := bind_eq_ok_iff.1 compiled
    exact List.forall_mem_cons.2
      ⟨.inl ⟨_, leftCompiled⟩, List.forall_mem_singleton.2 (.inl ⟨_, rightCompiled⟩)⟩
  | either left right =>
    obtain ⟨leftPredicate, leftCompiled, compiled⟩ := bind_eq_ok_iff.1 compiled
    obtain ⟨rightPredicate, rightCompiled, -⟩ := bind_eq_ok_iff.1 compiled
    exact List.forall_mem_cons.2
      ⟨.inl ⟨_, leftCompiled⟩, List.forall_mem_singleton.2 (.inl ⟨_, rightCompiled⟩)⟩
  | compare comparison left right =>
    obtain ⟨leftOperand, rightOperand, leftCompiled, rightCompiled, -⟩ :=
      comparison_eq_ok_iff.1 compiled
    exact List.forall_mem_cons.2
      ⟨.inr ⟨_, leftCompiled⟩, List.forall_mem_singleton.2 (.inr ⟨_, rightCompiled⟩)⟩
  | not operand =>
    obtain ⟨operandPredicate, operandCompiled, -⟩ := bind_eq_ok_iff.1 compiled
    exact List.forall_mem_singleton.2 (.inl ⟨_, operandCompiled⟩)
  | arithmetic => cases located_eq_ok_iff.1 compiled
  | negate => exact accepted_of_valueCondition compiled
  | call => exact accepted_of_valueCondition compiled
  | lambda => exact accepted_of_valueCondition compiled

theorem Accepted.child {whole child : Expression} (accepted : whole.Accepted context)
    (isChild : child ∈ whole.children) : child.Accepted context := by
  rcases accepted with ⟨predicate, compiled⟩ | ⟨operand, compiled⟩
  · exact accepted_of_predicate compiled child isChild
  · exact .inr (operand_of_child compiled child isChild)

theorem Accepted.within {part whole : Expression} (accepted : whole.Accepted context)
    (within : part.Within whole) : part.Accepted context := by
  induction within with
  | refl => exact accepted
  | tail _ isChild ih => exact ih (accepted.child isChild)

theorem Meaningless.operand_ne {expression : Expression}
    (meaningless : expression.Meaningless context) (operand : Operand) :
    expression.operand context ≠ .ok operand := by
  intro compiled
  cases meaningless with
  | lambda => cases located_eq_ok_iff.1 compiled
  | member lost => exact lost ⟨_, Schema.resolution_of_resolve (located_eq_ok_iff.1 compiled)⟩
  | call unknown =>
    rcases operand_call_eq_ok_iff.1 compiled with
      ⟨rfl, instant, named, -⟩ | ⟨several, function, found, -⟩
    · rw [List.length_nil, Function.known_zero_iff context, named] at unknown
      exact unknown rfl
    · rw [Function.known_iff (by simpa using several), found] at unknown
      exact unknown rfl

theorem Meaningless.not_accepted {expression : Expression}
    (meaningless : expression.Meaningless context) : ¬expression.Accepted context := by
  rintro (⟨predicate, compiled⟩ | ⟨operand, compiled⟩)
  · have condition : expression.valueCondition context = .ok predicate := by
      cases meaningless <;> exact compiled
    obtain ⟨operand, operandCompiled, -⟩ := bind_eq_ok_iff.1 condition
    exact meaningless.operand_ne operand operandCompiled
  · exact meaningless.operand_ne operand compiled

variable {fault : QueryFault}

theorem Blames.child {whole child : Expression} (blames : child.Blames fault)
    (isChild : child ∈ whole.children) : whole.Blames fault := by
  cases fault with
  | invalid fragment reason =>
    obtain ⟨part, within, quoted⟩ := blames
    exact ⟨part, .tail within isChild, quoted⟩
  | unsupportedFunction name arity =>
    obtain ⟨arguments, within, called⟩ := blames
    exact ⟨arguments, .tail within isChild, called⟩

theorem blames_of_located {α : Type} {expression : Expression} {result : Except QueryReason α}
    (failed : expression.located result = .error fault) : expression.Blames fault := by
  cases result with
  | ok value => cases failed
  | error reason =>
    cases failed
    exact ⟨expression, .refl, rfl⟩

mutual

theorem blames_of_operand {expression : Expression}
    (failed : expression.operand context = .error fault) : expression.Blames fault := by
  match expression with
  | literal value => cases failed
  | member path => exact blames_of_located failed
  | arithmetic operator left right =>
    rw [Expression.operand] at failed
    rcases bind_bind_eq_error failed with leftFailed | rightFailed | ⟨_, _, failed⟩
    · exact (blames_of_operand leftFailed).child (by simp [children])
    · exact (blames_of_operand rightFailed).child (by simp [children])
    split at failed
    next => cases failed
    next => exact blames_of_located failed
  | negate inner =>
    rw [Expression.operand, bind_eq_error_iff] at failed
    rcases failed with innerFailed | ⟨innerOperand, -, failed⟩
    · exact (blames_of_operand innerFailed).child (by simp [children])
    split at failed
    next => cases failed
    next => exact blames_of_located failed
  | call name arguments =>
    rw [Expression.operand] at failed
    split at failed
    next empty =>
      obtain rfl := List.isEmpty_iff.1 empty
      split at failed
      next => cases failed
      next absent =>
        cases failed
        refine ⟨[], .refl, rfl, ?_⟩
        rw [Function.known_zero_iff context, absent]
        nofun
    next several =>
      split at failed
      next absent =>
        cases failed
        refine ⟨arguments, .refl, rfl, ?_⟩
        rw [Function.known_iff (by simpa using several), absent]
        nofun
      next function found =>
        rw [bind_eq_error_iff] at failed
        rcases failed with argumentsFailed | ⟨terms, -, failed⟩
        · rcases blames_of_operands argumentsFailed with blames | ⟨argument, member, blames⟩
          · exact blames
          · exact blames.child member
        split at failed
        next => cases failed
        next => exact blames_of_located failed
  | lambda .. => exact blames_of_located failed
  | both .. => exact blames_of_located failed
  | either .. => exact blames_of_located failed
  | not .. => exact blames_of_located failed
  | compare .. => exact blames_of_located failed

theorem blames_of_operands {whole : Expression} {name : String} {function : Function}
    {position : Nat} {arguments : List Expression}
    (failed : operands context whole name function position arguments = .error fault) :
    whole.Blames fault ∨ ∃ argument ∈ arguments, argument.Blames fault := by
  match arguments with
  | [] => cases failed
  | argument :: rest =>
    rw [operands, bind_eq_error_iff] at failed
    rcases failed with argumentFailed | ⟨operand, -, failed⟩
    · exact .inr ⟨argument, List.mem_cons_self, blames_of_operand argumentFailed⟩
    split at failed
    next =>
      rw [bind_eq_error_iff] at failed
      rcases failed with restFailed | ⟨terms, -, failed⟩
      · rcases blames_of_operands restFailed with blames | ⟨other, member, blames⟩
        · exact .inl blames
        · exact .inr ⟨other, List.mem_cons_of_mem _ member, blames⟩
      · cases failed
    next => exact .inl (blames_of_located failed)

end

theorem blames_of_comparison {comparison : Comparison} {left right : Expression}
    (failed : Expression.comparison context comparison left right = .error fault) :
    (compare comparison left right).Blames fault := by
  rw [Expression.comparison] at failed
  rcases bind_bind_eq_error failed with leftFailed | rightFailed | ⟨_, _, failed⟩
  · exact (blames_of_operand leftFailed).child (by simp [children])
  · exact (blames_of_operand rightFailed).child (by simp [children])
  dsimp only at failed
  split at failed
  next => cases failed
  next => exact blames_of_located failed

theorem blames_of_valueCondition {expression : Expression}
    (failed : expression.valueCondition context = .error fault) : expression.Blames fault := by
  rw [valueCondition, bind_eq_error_iff] at failed
  rcases failed with operandFailed | ⟨operand, -, failed⟩
  · exact blames_of_operand operandFailed
  split at failed
  next => cases failed
  next => cases failed
  next => exact blames_of_located failed

theorem blames_of_predicate {expression : Expression}
    (failed : expression.predicate context = .error fault) : expression.Blames fault := by
  fun_induction Expression.predicate context expression with
  | case1 left right leftIh rightIh =>
    rcases bind_bind_eq_error failed with leftFailed | rightFailed | ⟨_, _, failed⟩
    · exact (leftIh leftFailed).child (by simp [children])
    · exact (rightIh rightFailed).child (by simp [children])
    · cases failed
  | case2 left right leftIh rightIh =>
    rcases bind_bind_eq_error failed with leftFailed | rightFailed | ⟨_, _, failed⟩
    · exact (leftIh leftFailed).child (by simp [children])
    · exact (rightIh rightFailed).child (by simp [children])
    · cases failed
  | case3 relation left right => exact blames_of_comparison failed
  | case4 operator left right => exact blames_of_located failed
  | case5 operand ih =>
    rw [bind_eq_error_iff] at failed
    rcases failed with operandFailed | ⟨operandPredicate, -, failed⟩
    · exact (ih operandFailed).child (by simp [children])
    · cases failed
  | case6 value => cases failed
  | case7 value => exact blames_of_valueCondition failed

end

/-- An expression with a part that means nothing is refused as a condition and as a value, and a
refusal quotes nothing but what stands in the expression. -/
theorem refusals (context : QueryContext) (expression : Expression) :
    ((∃ part : Expression, part.Within expression ∧ part.Meaningless context) →
      (∃ fault, expression.predicate context = .error fault) ∧
        ∃ fault, expression.term context = .error fault) ∧
    ∀ fault, expression.predicate context = .error fault ∨ expression.term context = .error fault →
      expression.Blames fault := by
  constructor
  · rintro ⟨part, within, meaningless⟩
    have refused : ¬expression.Accepted context := fun accepted =>
      meaningless.not_accepted (accepted.within within)
    constructor
    · cases compiled : expression.predicate context with
      | error fault => exact ⟨fault, rfl⟩
      | ok predicate => exact absurd (.inl ⟨predicate, compiled⟩) refused
    · cases compiled : expression.operand context with
      | error fault => exact ⟨fault, by rw [term, compiled]; rfl⟩
      | ok operand => exact absurd (.inr ⟨operand, compiled⟩) refused
  · rintro fault (failed | failed)
    · exact blames_of_predicate failed
    · rw [term, bind_eq_error_iff] at failed
      rcases failed with operandFailed | ⟨operand, -, failed⟩
      · exact blames_of_operand operandFailed
      · cases failed

/-- Streams whose thing has a colour of three letters; the condition before it is false already. -/
def colouredStreams : Expression :=
  both (literal (.bool false))
    (compare .equal (call "length" [member ["Thing", "colour"]]) (literal (.int 3)))

/-- Things have no colour, and the refusal says so wherever their colour is asked for. -/
theorem refusals_colour :
    ∃ root fault, EntityKind.datastream.propertyMap? = some root ∧
      colouredStreams.predicate ⟨EntityKind.schema, root, dayAfter⟩ = .error fault ∧
      fault = .invalid "Thing/colour" (.unknownProperty "colour" "Thing") ∧
      colouredStreams.Blames fault := by
  refine ⟨EntityKind.datastream.propertyMap?.get rfl, ?_⟩
  have laws := refusals ⟨EntityKind.schema, EntityKind.datastream.propertyMap?.get rfl, dayAfter⟩
    colouredStreams
  have lost : ¬EntityKind.schema.Resolves (EntityKind.datastream.propertyMap?.get rfl)
      ["Thing", "colour"] := by
    rintro ⟨operand, resolution⟩
    cases resolution.resolve
  have within : (member ["Thing", "colour"]).Within colouredStreams :=
    .tail (.tail (.tail .refl (.head _)) (.head _)) (.tail _ (.head _))
  obtain ⟨⟨fault, failed⟩, -⟩ := laws.1 ⟨_, within, .member lost⟩
  refine ⟨fault, rfl, failed, ?_, laws.2 fault (.inl failed)⟩
  cases failed
  rfl

end Expression

end SensorThings
