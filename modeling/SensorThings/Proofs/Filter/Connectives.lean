import SensorThings.Filter.Evaluation

/-!
Connectives of three-valued logic, and the builders of predicates. Whatever a builder flattens,
drops or unwraps, the truth of what it builds is that of the connective over the truth of its parts.
-/
namespace SensorThings

namespace Truth

@[simp] theorem and_true (truth : Truth) : truth.and (some true) = truth := by
  rcases truth with _ | _ | _ <;> rfl

@[simp] theorem true_and (truth : Truth) : Truth.and (some true) truth = truth := by
  rcases truth with _ | _ | _ <;> rfl

@[simp] theorem and_false (truth : Truth) : truth.and (some false) = some false := by
  rcases truth with _ | _ | _ <;> rfl

@[simp] theorem false_and (truth : Truth) : Truth.and (some false) truth = some false := rfl

@[simp] theorem and_some (left right : Bool) :
    Truth.and (some left) (some right) = some (left && right) := by
  cases left <;> cases right <;> rfl

theorem and_assoc (first second third : Truth) :
    (first.and second).and third = first.and (second.and third) := by
  rcases first with _ | _ | _ <;> rcases second with _ | _ | _ <;> rcases third with _ | _ | _ <;>
    rfl

@[simp] theorem and_eq_true_iff {left right : Truth} :
    left.and right = some true ↔ left = some true ∧ right = some true := by
  rcases left with _ | _ | _ <;> rcases right with _ | _ | _ <;> simp [and]

@[simp] theorem not_eq_true_iff {truth : Truth} : truth.not = some true ↔ truth = some false := by
  rcases truth with _ | _ | _ <;> simp [not]

@[simp] theorem or_false (truth : Truth) : truth.or (some false) = truth := by
  rcases truth with _ | _ | _ <;> rfl

@[simp] theorem false_or (truth : Truth) : Truth.or (some false) truth = truth := by
  rcases truth with _ | _ | _ <;> rfl

@[simp] theorem or_true (truth : Truth) : truth.or (some true) = some true := by
  rcases truth with _ | _ | _ <;> rfl

@[simp] theorem true_or (truth : Truth) : Truth.or (some true) truth = some true := rfl

theorem or_assoc (first second third : Truth) :
    (first.or second).or third = first.or (second.or third) := by
  rcases first with _ | _ | _ <;> rcases second with _ | _ | _ <;> rcases third with _ | _ | _ <;>
    rfl

/-- False if one of the truths is, else unknown if one is, else true. -/
def conjunction (truths : List Truth) : Truth :=
  if some false ∈ truths then some false else if none ∈ truths then none else some true

/-- True if one of the truths is, else unknown if one is, else false. -/
def disjunction (truths : List Truth) : Truth :=
  if some true ∈ truths then some true else if none ∈ truths then none else some false

@[simp] theorem conjunction_cons (truth : Truth) (truths : List Truth) :
    conjunction (truth :: truths) = truth.and (conjunction truths) := by
  by_cases someFalse : some false ∈ truths <;> by_cases someUnknown : none ∈ truths <;>
    rcases truth with _ | _ | _ <;> simp [conjunction, someFalse, someUnknown, and]

@[simp] theorem disjunction_cons (truth : Truth) (truths : List Truth) :
    disjunction (truth :: truths) = truth.or (disjunction truths) := by
  by_cases someTrue : some true ∈ truths <;> by_cases someUnknown : none ∈ truths <;>
    rcases truth with _ | _ | _ <;> simp [disjunction, someTrue, someUnknown, or]

end Truth

namespace Predicate

@[simp] theorem isConstant_iff {value : Bool} {part : Predicate} :
    part.isConstant value = true ↔ part = constant value := by
  fun_cases isConstant value part with
  | case1 other => rw [beq_iff_eq, constant.injEq, eq_comm]
  | case2 _ different => exact ⟨nofun, fun same => absurd same (different value)⟩

variable [PlaneGeometry] (source : RowSource)

section

variable (part : Predicate) (parts : List Predicate)

@[simp] theorem truth_constant (value : Bool) : (constant value).truth source = some value := rfl

@[simp] theorem truth_all : (all parts).truth source = truthOfAll source parts := rfl

@[simp] theorem truth_any : (any parts).truth source = truthOfAny source parts := rfl

@[simp] theorem truth_not : part.not.truth source = (part.truth source).not := rfl

@[simp] theorem truthOfAll_nil : truthOfAll source [] = some true := rfl

@[simp] theorem truthOfAll_cons :
    truthOfAll source (part :: parts) = (part.truth source).and (truthOfAll source parts) := rfl

@[simp] theorem truthOfAny_nil : truthOfAny source [] = some false := rfl

@[simp] theorem truthOfAny_cons :
    truthOfAny source (part :: parts) = (part.truth source).or (truthOfAny source parts) := rfl

end

@[simp] theorem truthOfAll_append (first second : List Predicate) :
    truthOfAll source (first ++ second) =
      (truthOfAll source first).and (truthOfAll source second) := by
  induction first with
  | nil => simp
  | cons part rest ih =>
    rw [List.cons_append, truthOfAll_cons, ih, truthOfAll_cons, Truth.and_assoc]

@[simp] theorem truthOfAny_append (first second : List Predicate) :
    truthOfAny source (first ++ second) =
      (truthOfAny source first).or (truthOfAny source second) := by
  induction first with
  | nil => simp
  | cons part rest ih =>
    rw [List.cons_append, truthOfAny_cons, ih, truthOfAny_cons, Truth.or_assoc]

@[simp] theorem truthOfAll_conjuncts (part : Predicate) :
    truthOfAll source part.conjuncts = part.truth source := by
  fun_cases conjuncts part with
  | case1 => rfl
  | case2 parts => rfl
  | case3 => rw [truthOfAll_cons, truthOfAll_nil, Truth.and_true]

@[simp] theorem truthOfAny_disjuncts (part : Predicate) :
    truthOfAny source part.disjuncts = part.truth source := by
  fun_cases disjuncts part with
  | case1 => rfl
  | case2 parts => rfl
  | case3 => rw [truthOfAny_cons, truthOfAny_nil, Truth.or_false]

@[simp] theorem truthOfAll_flatMap_conjuncts (parts : List Predicate) :
    truthOfAll source (parts.flatMap conjuncts) = truthOfAll source parts := by
  induction parts with
  | nil => rfl
  | cons part rest ih =>
    rw [List.flatMap_cons, truthOfAll_append, truthOfAll_conjuncts, ih, truthOfAll_cons]

@[simp] theorem truthOfAny_flatMap_disjuncts (parts : List Predicate) :
    truthOfAny source (parts.flatMap disjuncts) = truthOfAny source parts := by
  induction parts with
  | nil => rfl
  | cons part rest ih =>
    rw [List.flatMap_cons, truthOfAny_append, truthOfAny_disjuncts, ih, truthOfAny_cons]

theorem truthOfAll_of_any_false {parts : List Predicate}
    (decided : parts.any (isConstant false) = true) : truthOfAll source parts = some false := by
  induction parts with
  | nil => contradiction
  | cons part rest ih =>
    rw [List.any_cons, Bool.or_eq_true_iff, isConstant_iff] at decided
    rcases decided with rfl | later
    · rw [truthOfAll_cons, truth_constant, Truth.false_and]
    · rw [truthOfAll_cons, ih later, Truth.and_false]

theorem truthOfAny_of_any_true {parts : List Predicate}
    (decided : parts.any (isConstant true) = true) : truthOfAny source parts = some true := by
  induction parts with
  | nil => contradiction
  | cons part rest ih =>
    rw [List.any_cons, Bool.or_eq_true_iff, isConstant_iff] at decided
    rcases decided with rfl | later
    · rw [truthOfAny_cons, truth_constant, Truth.true_or]
    · rw [truthOfAny_cons, ih later, Truth.or_true]

@[simp] theorem truth_allOf (parts : List Predicate) :
    (allOf parts).truth source = truthOfAll source parts := by
  unfold allOf
  split
  next decided => rw [truth_constant, truthOfAll_of_any_false source decided]
  next =>
    rw [← truthOfAll_flatMap_conjuncts]
    split
    next nothing => rw [nothing, truth_constant, truthOfAll_nil]
    next part one => rw [one, truthOfAll_cons, truthOfAll_nil, Truth.and_true]
    next => rw [truth_all]

@[simp] theorem truth_anyOf (parts : List Predicate) :
    (anyOf parts).truth source = truthOfAny source parts := by
  unfold anyOf
  split
  next decided => rw [truth_constant, truthOfAny_of_any_true source decided]
  next =>
    rw [← truthOfAny_flatMap_disjuncts]
    split
    next nothing => rw [nothing, truth_constant, truthOfAny_nil]
    next part one => rw [one, truthOfAny_cons, truthOfAny_nil, Truth.or_false]
    next => rw [truth_any]

@[simp] theorem truth_both (left right : Predicate) :
    (both left right).truth source = (left.truth source).and (right.truth source) := by
  rw [both, truth_allOf, truthOfAll_cons, truthOfAll_cons, truthOfAll_nil, Truth.and_true]

@[simp] theorem truth_either (left right : Predicate) :
    (either left right).truth source = (left.truth source).or (right.truth source) := by
  rw [either, truth_anyOf, truthOfAny_cons, truthOfAny_cons, truthOfAny_nil, Truth.or_false]

@[simp] theorem truth_negation (part : Predicate) :
    part.negation.truth source = (part.truth source).not := by
  fun_cases negation part with
  | case1 value => rfl
  | case2 part => rw [truth_not, Truth.not_not]
  | case3 => rw [truth_not]

theorem truthOfAll_eq_conjunction (parts : List Predicate) :
    truthOfAll source parts = Truth.conjunction (parts.map (truth source)) := by
  induction parts with
  | nil => rfl
  | cons part rest ih => rw [truthOfAll_cons, ih, List.map_cons, Truth.conjunction_cons]

theorem truthOfAny_eq_disjunction (parts : List Predicate) :
    truthOfAny source parts = Truth.disjunction (parts.map (truth source)) := by
  induction parts with
  | nil => rfl
  | cons part rest ih => rw [truthOfAny_cons, ih, List.map_cons, Truth.disjunction_cons]

/-- The builders mean what the plain nodes mean, and both are the connectives of three-valued logic
over the truths of the parts, which may be composed in turn. -/
theorem truth_composed (parts : List Predicate) (part : Predicate) :
    ((allOf parts).truth source = Truth.conjunction (parts.map (truth source)) ∧
      (all parts).truth source = Truth.conjunction (parts.map (truth source))) ∧
    ((anyOf parts).truth source = Truth.disjunction (parts.map (truth source)) ∧
      (any parts).truth source = Truth.disjunction (parts.map (truth source))) ∧
    part.negation.truth source = (part.truth source).not ∧
      part.not.truth source = (part.truth source).not := by
  have conjoined := truthOfAll_eq_conjunction source parts
  have disjoined := truthOfAny_eq_disjunction source parts
  refine ⟨⟨?_, ?_⟩, ⟨?_, ?_⟩, truth_negation source part, truth_not source part⟩
  · rw [truth_allOf, conjoined]
  · rw [truth_all, conjoined]
  · rw [truth_anyOf, disjoined]
  · rw [truth_any, disjoined]

/-- An unknown part leaves a conjunction open until a false one decides it. -/
example (source : RowSource) :
    (allOf [all [constant true, holds (.literal .null)],
      negation (negation (constant false))]).truth source = some false :=
  rfl

end Predicate

end SensorThings
