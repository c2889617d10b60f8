import SensorThings.Proofs.Filter.Meaning

/-!
Integer arithmetic in terms. It never wraps: a term gives its exact result among all integers if the
exact results of all its parts fit 64 bits, and null otherwise. One remainder is null although it
fits, since its quotient does not.
-/
namespace SensorThings

@[simp] theorem Text.fitsSigned_iff {value : Int} :
    fitsSigned value = true ↔ -9223372036854775808 ≤ value ∧ value < 9223372036854775808 := by
  rw [fitsSigned, Bool.and_eq_true, decide_eq_true_iff, decide_eq_true_iff]
  rfl

namespace Arithmetic

/-- The result among all integers. Division truncates toward zero; by zero there is none. -/
def exactResult? (operator : Arithmetic) (left right : Int) : Option Int :=
  match operator with
  | add => some (left + right)
  | subtract => some (left - right)
  | multiply => some (left * right)
  | divide => if right = 0 then none else some (left.tdiv right)
  | remainder => if right = 0 then none else some (left.tmod right)

/-- A remainder of the one division of 64-bit numbers whose quotient is beyond them. -/
def LosesQuotient (operator : Arithmetic) (left right : Int) : Prop :=
  operator = remainder ∧ left = -9223372036854775808 ∧ right = -1

theorem fitsSigned_tdiv_iff {left right : Int} (fits : Text.fitsSigned left = true)
    (nonzero : right ≠ 0) :
    Text.fitsSigned (left.tdiv right) = true ↔ ¬(left = -9223372036854775808 ∧ right = -1) := by
  rw [Text.fitsSigned_iff] at fits
  constructor
  · rintro quotientFits ⟨rfl, rfl⟩
    exact absurd quotientFits (by decide)
  · intro other
    rw [Text.fitsSigned_iff]
    rcases (by omega : right = 1 ∨ right = -1 ∨ 2 ≤ right.natAbs) with rfl | rfl | large
    · rwa [Int.tdiv_one]
    · rw [Int.tdiv_neg, Int.tdiv_one]
      omega
    · have half : (left.tdiv right).natAbs ≤ left.natAbs / 2 := by
        rw [Int.natAbs_tdiv]
        exact Nat.div_le_div_left large (by decide)
      omega

section

variable {operator : Arithmetic} {left right result : Int}

theorem onIntegers_of_exactResult? (fits : Text.fitsSigned left = true)
    (exact : operator.exactResult? left right = some result)
    (resultFits : Text.fitsSigned result = true) (keeps : ¬operator.LosesQuotient left right) :
    operator.onIntegers left right = .int result := by
  have checked_result : checked result = .int result := if_pos resultFits
  cases operator with
  | add | subtract | multiply =>
    obtain rfl := Option.some.inj exact
    exact checked_result
  | divide =>
    obtain ⟨nonzero, exact⟩ := Option.ite_none_left_eq_some.1 exact
    obtain rfl := Option.some.inj exact
    rw [onIntegers, if_neg nonzero, checked_result]
  | remainder =>
    obtain ⟨nonzero, exact⟩ := Option.ite_none_left_eq_some.1 exact
    obtain rfl := Option.some.inj exact
    have quotientFits := (fitsSigned_tdiv_iff fits nonzero).2 fun extreme => keeps ⟨rfl, extreme⟩
    rw [onIntegers, if_neg (by simp [nonzero, quotientFits]), checked_result]

theorem onIntegers_eq_null (fits : Text.fitsSigned left = true)
    (none : ∀ result, operator.exactResult? left right = some result →
      Text.fitsSigned result = true → operator.LosesQuotient left right) :
    operator.onIntegers left right = .null := by
  have checked_result {result : Int} (exact : operator.exactResult? left right = some result)
      (keeps : ¬operator.LosesQuotient left right) : checked result = .null :=
    if_neg fun resultFits => keeps (none _ exact resultFits)
  cases operator with
  | add | subtract | multiply => exact checked_result rfl (fun loses => nomatch loses.1)
  | divide =>
    rw [onIntegers]
    split
    next => rfl
    next nonzero => exact checked_result (if_neg nonzero) (fun loses => nomatch loses.1)
  | remainder =>
    rw [onIntegers]
    split
    next => rfl
    next inside =>
      obtain ⟨nonzero, quotientFits⟩ : right ≠ 0 ∧ Text.fitsSigned (left.tdiv right) = true := by
        simpa using inside
      exact checked_result (if_neg nonzero) fun loses =>
        (fitsSigned_tdiv_iff fits nonzero).1 quotientFits loses.2

end

@[simp] theorem apply_int (operator : Arithmetic) (left right : Int) :
    operator.apply (.int left) (.int right) = operator.onIntegers left right := rfl

@[simp] theorem apply_null_left (operator : Arithmetic) (right : Scalar) :
    operator.apply .null right = .null := rfl

@[simp] theorem apply_null_right (operator : Arithmetic) (left : Scalar) :
    operator.apply left .null = .null := by
  cases left <;> rfl

end Arithmetic

def Scalar.integer? : Scalar → Option Int
  | int value => some value
  | _ => none

namespace Term

variable (source : RowSource)

/-- Integer literals, columns of integers, which may be null, and what arithmetic and negation make
of them. -/
inductive IsInteger : Term → Prop where
  | literal {value : Int} (fits : Text.fitsSigned value = true) : IsInteger (literal (.int value))
  | column {reference : Column}
      (reads : reference.value source = .null ∨
        ∃ value, reference.value source = .int value ∧ Text.fitsSigned value = true) :
      IsInteger (column reference)
  | arithmetic {operator : Arithmetic} {left right : Term} (first : IsInteger left)
      (second : IsInteger right) : IsInteger (arithmetic operator left right)
  | negate {operand : Term} (inner : IsInteger operand) : IsInteger (negate operand)

/-- The result of integer arithmetic without bounds. -/
def exactResult? : Term → Option Int
  | literal value => value.integer?
  | column reference => (reference.value source).integer?
  | arithmetic operator left right => do
    operator.exactResult? (← exactResult? left) (← exactResult? right)
  | negate operand => (exactResult? operand).map (-·)
  | call _ _ => none

/-- The terms that arithmetic and negation made the term of, itself included. -/
def parts : Term → List Term
  | arithmetic operator left right => arithmetic operator left right :: (parts left ++ parts right)
  | negate operand => negate operand :: parts operand
  | term => [term]

/-- There is an exact result, so no divisor is zero, and it fits. -/
def ResultFits (term : Term) : Prop :=
  ∃ result, term.exactResult? source = some result ∧ Text.fitsSigned result = true

/-- The term does not take the remainder of the least number by -1. -/
def KeepsQuotient : Term → Prop
  | arithmetic operator left right =>
    ¬(operator = .remainder ∧ left.exactResult? source = some (-9223372036854775808) ∧
      right.exactResult? source = some (-1))
  | _ => True

/-- The condition under which a term is worked out exactly. -/
def StaysExact (term : Term) : Prop :=
  ∀ part ∈ term.parts, part.ResultFits source ∧ part.KeepsQuotient source

instance (term : Term) : Decidable (term.ResultFits source) :=
  decidable_of_iff _ (Option.any_eq_true _ _)

instance (term : Term) : Decidable (term.KeepsQuotient source) :=
  match term with
  | arithmetic .. => inferInstanceAs (Decidable (¬_))
  | literal _ | column _ | negate _ | call _ _ => inferInstanceAs (Decidable True)

instance (term : Term) : Decidable (term.StaysExact source) :=
  inferInstanceAs (Decidable (∀ part ∈ term.parts, _))

variable {source}

variable {operator : Arithmetic} {left right operand term : Term}

theorem staysExact_arithmetic_iff :
    (arithmetic operator left right).StaysExact source ↔
      ((arithmetic operator left right).ResultFits source ∧
        (arithmetic operator left right).KeepsQuotient source) ∧
      left.StaysExact source ∧ right.StaysExact source := by
  rw [StaysExact, parts, List.forall_mem_cons, List.forall_mem_append]
  rfl

theorem staysExact_negate_iff :
    (negate operand).StaysExact source ↔
      (negate operand).ResultFits source ∧ operand.StaysExact source := by
  rw [StaysExact, parts, List.forall_mem_cons]
  exact and_congr_left' (and_iff_left trivial)

section

variable [PlaneGeometry]

variable (source) in
/-- What evaluation makes of a term. -/
inductive Outcome (term : Term) : Prop where
  | exact {result : Int} (stays : term.StaysExact source)
      (exact : term.exactResult? source = some result) (fits : Text.fitsSigned result = true)
      (evaluated : term.value source = .int result)
  | null (strays : ¬term.StaysExact source) (evaluated : term.value source = .null)

theorem outcome_literal {value : Int} (fits : Text.fitsSigned value = true) :
    (literal (.int value)).Outcome source :=
  .exact (List.forall_mem_singleton.2 ⟨⟨value, rfl, fits⟩, trivial⟩) rfl fits rfl

theorem outcome_column {reference : Column}
    (reads : reference.value source = .null ∨
      ∃ value, reference.value source = .int value ∧ Text.fitsSigned value = true) :
    (column reference).Outcome source := by
  have exactly : (column reference).exactResult? source = (reference.value source).integer? := rfl
  rcases reads with absent | ⟨value, present, fits⟩
  · rw [absent] at exactly
    refine .null (fun stays => ?_) absent
    obtain ⟨⟨result, exact, -⟩, -⟩ := List.forall_mem_singleton.1 stays
    exact absurd (exactly.symm.trans exact) nofun
  · rw [present] at exactly
    have stays : (column reference).StaysExact source :=
      List.forall_mem_singleton.2 ⟨⟨value, exactly, fits⟩, trivial⟩
    exact .exact stays exactly fits present

theorem outcome_negate (inner : operand.Outcome source) : (negate operand).Outcome source := by
  cases inner with
  | @exact value stays exact fits evaluated =>
    have exactly : (negate operand).exactResult? source = some (-value) := by
      rw [exactResult?, exact]
      rfl
    have negated : (negate operand).value source = Arithmetic.checked (-value) := by
      rw [Term.value, evaluated]
      rfl
    by_cases negatedFits : Text.fitsSigned (-value) = true
    · exact .exact (staysExact_negate_iff.2 ⟨⟨_, exactly, negatedFits⟩, stays⟩) exactly negatedFits
        (negated.trans (if_pos negatedFits))
    · refine .null (fun negatedStays => negatedFits ?_) (negated.trans (if_neg negatedFits))
      obtain ⟨⟨result, exact, resultFits⟩, -⟩ := staysExact_negate_iff.1 negatedStays
      exact Option.some.inj (exactly.symm.trans exact) ▸ resultFits
  | null strays evaluated =>
    refine .null (fun negatedStays => strays (staysExact_negate_iff.1 negatedStays).2) ?_
    rw [Term.value, evaluated]
    rfl

theorem outcome_arithmetic (first : left.Outcome source) (second : right.Outcome source) :
    (arithmetic operator left right).Outcome source := by
  cases first with
  | null strays evaluated =>
    refine .null (fun stays => strays (staysExact_arithmetic_iff.1 stays).2.1) ?_
    rw [Term.value, evaluated, Arithmetic.apply_null_left]
  | @exact first leftStays leftExact leftFits leftEvaluated =>
    cases second with
    | null strays evaluated =>
      refine .null (fun stays => strays (staysExact_arithmetic_iff.1 stays).2.2) ?_
      rw [Term.value, evaluated, Arithmetic.apply_null_right]
    | @exact second rightStays rightExact _ rightEvaluated =>
      have exactly : (arithmetic operator left right).exactResult? source =
          operator.exactResult? first second := by
        rw [exactResult?, leftExact, rightExact]
        rfl
      have evaluated : (arithmetic operator left right).value source =
          operator.onIntegers first second := by
        rw [Term.value, leftEvaluated, rightEvaluated, Arithmetic.apply_int]
      by_cases settled : ∃ result, operator.exactResult? first second = some result ∧
          Text.fitsSigned result = true ∧ ¬operator.LosesQuotient first second
      · obtain ⟨result, exact, fits, keeps⟩ := settled
        have keepsQuotient : (arithmetic operator left right).KeepsQuotient source := by
          rw [KeepsQuotient, leftExact, rightExact, Option.some_inj, Option.some_inj]
          exact keeps
        exact .exact (staysExact_arithmetic_iff.2
            ⟨⟨⟨result, exactly.trans exact, fits⟩, keepsQuotient⟩, leftStays, rightStays⟩)
          (exactly.trans exact) fits
          (evaluated.trans (Arithmetic.onIntegers_of_exactResult? leftFits exact fits keeps))
      · refine .null (fun stays => settled ?_) (evaluated.trans
          (Arithmetic.onIntegers_eq_null leftFits fun result exact fits => not_not.1 fun keeps =>
            settled ⟨result, exact, fits, keeps⟩))
        obtain ⟨⟨⟨result, exact, fits⟩, keeps⟩, -⟩ := staysExact_arithmetic_iff.1 stays
        rw [KeepsQuotient, leftExact, rightExact, Option.some_inj, Option.some_inj] at keeps
        exact ⟨result, exactly.symm.trans exact, fits, keeps⟩

theorem outcome_of_isInteger (integer : term.IsInteger source) : term.Outcome source := by
  induction integer with
  | literal fits => exact outcome_literal fits
  | column reads => exact outcome_column reads
  | arithmetic _ _ leftIh rightIh => exact outcome_arithmetic leftIh rightIh
  | negate _ ih => exact outcome_negate ih

/-- A term of integers that stays exact is worth its exact result, and any other is null. -/
theorem value_of_isInteger (integer : term.IsInteger source) :
    (term.StaysExact source →
      ∃ result, term.exactResult? source = some result ∧ term.value source = .int result) ∧
    (¬term.StaysExact source → term.value source = .null) := by
  cases outcome_of_isInteger integer with
  | exact stays exact fits evaluated => exact ⟨fun _ => ⟨_, exact, evaluated⟩, (absurd stays ·)⟩
  | null strays evaluated => exact ⟨(absurd · strays), fun _ => evaluated⟩

end

/-- A row whose columns are all 7. -/
def sevens : RowSource :=
  .standalone fun _ => .int 7

/-- The remainder of a column by 4, less the greatest number. -/
def remainderLessGreatest : Term :=
  arithmetic .subtract (arithmetic .remainder (here "result") (literal (.int 4)))
    (literal (.int 9223372036854775807))

theorem value_of_isInteger_sevens :
    remainderLessGreatest.IsInteger sevens ∧ remainderLessGreatest.StaysExact sevens ∧
      remainderLessGreatest.value sevens = .int (-9223372036854775804) := by
  have integer : remainderLessGreatest.IsInteger sevens :=
    .arithmetic (.arithmetic (.column (.inr ⟨7, rfl, rfl⟩)) (.literal rfl)) (.literal rfl)
  have stays : remainderLessGreatest.StaysExact sevens := by decide
  obtain ⟨result, exact, evaluated⟩ := (value_of_isInteger integer).1 stays
  cases exact
  exact ⟨integer, stays, evaluated⟩

def leastRemainder : Term :=
  arithmetic .remainder (literal (.int (-9223372036854775808))) (literal (.int (-1)))

/-- The least number leaves the remainder 0 by -1, but evaluation gives null. -/
theorem remainder_of_least :
    leastRemainder.IsInteger sevens ∧ (∀ part ∈ leastRemainder.parts, part.ResultFits sevens) ∧
      leastRemainder.exactResult? sevens = some 0 ∧ leastRemainder.value sevens = .null :=
  ⟨.arithmetic (.literal rfl) (.literal rfl), by decide, rfl, rfl⟩

end Term

end SensorThings
