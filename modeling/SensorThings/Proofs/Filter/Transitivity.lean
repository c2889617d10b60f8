import SensorThings.Proofs.Filter.Equality
import SensorThings.Proofs.Filter.Order
import SensorThings.Proofs.Model.Geometries

/-!
Chains of comparisons. Had integers been compared as their nearest doubles throughout, no chain
would contradict itself; as integers compare exactly among themselves, the chains that fail are
those that leave two integers of one double for that double.
-/
namespace SensorThings

theorem compare_then {α : Type} [Ord α] [Std.TransOrd α] {left middle right : α}
    (first : (compare left middle).isLE = true) (second : (compare middle right).isLE = true) :
    compare left right = (compare left middle).then (compare middle right) := by
  cases compared : compare left middle with
  | lt => exact Std.TransCmp.lt_of_lt_of_isLE compared second
  | eq => exact Std.TransCmp.congr_left compared
  | gt =>
    rw [compared] at first
    contradiction

namespace Binary64

theorem compare?_then {left middle right : Float} {order next : Ordering}
    (first : compare? left middle = some order) (second : compare? middle right = some next)
    (orderLE : order.isLE = true) (nextLE : next.isLE = true) :
    compare? left right = some (order.then next) := by
  obtain ⟨leftNumber, -, rfl⟩ := compare?_eq_some_iff.1 first
  obtain ⟨-, rightNumber, rfl⟩ := compare?_eq_some_iff.1 second
  exact compare?_eq_some_iff.2 ⟨leftNumber, rightNumber, compare_then orderLE nextLE⟩

@[simp] theorem same_ofInt_iff {left right : Int} :
    same (ofInt left) (ofInt right) = true ↔
      numericKey (ofInt left) = numericKey (ofInt right) := by
  rw [same_iff]
  exact ⟨(·.2.2), (⟨isNaN_ofInt left, isNaN_ofInt right, ·⟩)⟩

end Binary64

namespace Json

mutual

theorem same_trans {left middle right : Json} (first : left.same middle = true)
    (second : middle.same right = true) : left.same right = true := by
  cases left <;> cases middle <;> simp only [same, Bool.false_eq_true] at first
  all_goals cases right <;> simp only [same, Bool.false_eq_true] at second
  all_goals simp only [same]
  case float => exact Binary64.same_trans first second
  case array => exact sameItems_trans first second
  case object => exact sameMembers_trans first second
  all_goals exact (beq_iff_eq.1 first).trans (beq_iff_eq.1 second) ▸ beq_self_eq_true _

theorem sameItems_trans {lefts middles rights : List Json}
    (first : sameItems lefts middles = true) (second : sameItems middles rights = true) :
    sameItems lefts rights = true := by
  match lefts, middles, rights with
  | [], [], [] => rfl
  | left :: lefts, middle :: middles, right :: rights =>
    rw [sameItems, Bool.and_eq_true] at *
    exact ⟨same_trans first.1 second.1, sameItems_trans first.2 second.2⟩

theorem sameMembers_trans {lefts middles rights : List (String × Json)}
    (first : sameMembers lefts middles = true) (second : sameMembers middles rights = true) :
    sameMembers lefts rights = true := by
  match lefts, middles, rights with
  | [], [], [] => rfl
  | (leftKey, left) :: lefts, (middleKey, middle) :: middles, (rightKey, right) :: rights =>
    simp only [sameMembers, Bool.and_eq_true, beq_iff_eq] at *
    obtain ⟨⟨rfl, same⟩, others⟩ := first
    exact ⟨⟨second.1.1, same_trans same second.1.2⟩, sameMembers_trans others second.2⟩

end

end Json

namespace Scalar

/-- Comparison with integers taken as their nearest doubles. -/
def roundedCompare? : Scalar → Scalar → Option Ordering
  | int left, int right => Binary64.compare? (Binary64.ofInt left) (Binary64.ofInt right)
  | left, right => left.compare? right

/-- Different integers with one nearest double. -/
inductive SharesDouble : Scalar → Scalar → Prop where
  | intro {left right : Int} (different : left ≠ right)
      (same : Binary64.same (Binary64.ofInt left) (Binary64.ofInt right) = true) :
      SharesDouble (int left) (int right)

theorem SharesDouble.roundedCompare?_eq {left right : Scalar} (shared : left.SharesDouble right) :
    left.roundedCompare? right = some .eq := by
  obtain ⟨different, same⟩ := shared
  exact beq_iff_eq.1 same

theorem SharesDouble.compare?_ne {left right : Scalar} (shared : left.SharesDouble right) :
    left.compare? right ≠ some .eq := by
  obtain ⟨different, same⟩ := shared
  rw [compare?, ne_eq, Option.some.injEq, Std.LawfulEqOrd.compare_eq_iff_eq]
  exact different

theorem roundedCompare?_of_lt {left right : Int} (less : left < right)
    (apart : ¬(int left).SharesDouble (int right)) :
    (int left).roundedCompare? (int right) = some .lt := by
  refine Binary64.compare?_eq_some_iff.2
    ⟨Binary64.isNaN_ofInt _, Binary64.isNaN_ofInt _, compare_lt_iff_lt.2 ?_⟩
  refine (Binary64.numericKey_ofInt_mono less.le).lt_of_ne fun same => apart ⟨less.ne, ?_⟩
  exact Binary64.same_ofInt_iff.2 same

theorem compare?_eq_roundedCompare? {left right : Scalar} (apart : ¬left.SharesDouble right) :
    left.compare? right = left.roundedCompare? right := by
  cases left <;> cases right <;> try rfl
  case int.int left right =>
    rw [compare?]
    rcases lt_trichotomy left right with less | rfl | greater
    · rw [roundedCompare?_of_lt less apart, compare_lt_iff_lt.2 less]
    · rw [Std.ReflOrd.compare_self]
      exact (beq_iff_eq.1 (Binary64.same_ofInt_iff.2 rfl)).symm
    · have swapped : ¬(int right).SharesDouble (int left) := by
        rintro ⟨different, same⟩
        exact apart ⟨different.symm, Binary64.same_comm _ _ ▸ same⟩
      have rounded : Binary64.compare? (Binary64.ofInt right) (Binary64.ofInt left) = some .lt :=
        roundedCompare?_of_lt greater swapped
      rw [roundedCompare?, Binary64.compare?_swap, rounded, compare_gt_iff_gt.2 greater]
      rfl

theorem compare?_then_of_not_isOrdered {left middle right : Scalar} {order next : Ordering}
    (unordered : left.isOrdered = false) (first : left.compare? middle = some order)
    (second : middle.compare? right = some next) :
    left.compare? right = some (order.then next) := by
  have equal : order = .eq := by
    rw [compare?_of_not_isOrdered unordered] at first
    split at first <;> cases first
    rfl
  subst equal
  rw [compare?_eq_eq_iff] at first
  have middleUnordered : middle.isOrdered = false := by
    cases left <;> cases middle <;> first | rfl | contradiction
  rw [compare?_of_not_isOrdered middleUnordered] at second
  split at second <;> cases second
  next agreeing =>
    refine (compare?_eq_eq_iff left right).2 ?_
    cases left <;> cases middle <;> try contradiction
    all_goals cases right <;> try contradiction
    · exact Geometry.same_trans first agreeing
    · exact Json.same_trans first agreeing

theorem some_compare_then {α : Type} [Ord α] [Std.TransOrd α] {left middle right : α}
    {order next : Ordering} (first : some (compare left middle) = some order)
    (second : some (compare middle right) = some next) (orderLE : order.isLE = true)
    (nextLE : next.isLE = true) : some (compare left right) = some (order.then next) := by
  cases first
  cases second
  exact congrArg some (compare_then orderLE nextLE)

theorem roundedCompare?_then {left middle right : Scalar} {order next : Ordering}
    (first : left.roundedCompare? middle = some order)
    (second : middle.roundedCompare? right = some next) (orderLE : order.isLE = true)
    (nextLE : next.isLE = true) : left.roundedCompare? right = some (order.then next) := by
  cases left <;> cases middle <;> try (cases first; done)
  case geometry.geometry left middle =>
    change (geometry left).compare? (geometry middle) = some order at first
    change (geometry middle).compare? right = some next at second
    exact compare?_then_of_not_isOrdered rfl first second
  case json.json left middle =>
    change (json left).compare? (json middle) = some order at first
    change (json middle).compare? right = some next at second
    exact compare?_then_of_not_isOrdered rfl first second
  all_goals cases right <;> try (cases second; done)
  all_goals
    first
    | exact some_compare_then first second orderLE nextLE
    | exact Binary64.compare?_then first second orderLE nextLE

theorem roundedCompare?_of_compare? {left right : Scalar} {order : Ordering}
    (compared : left.compare? right = some order) :
    left.roundedCompare? right = some order ∨
      left.SharesDouble right ∧ left.roundedCompare? right = some .eq := by
  by_cases shared : left.SharesDouble right
  · exact .inr ⟨shared, shared.roundedCompare?_eq⟩
  · exact .inl (compare?_eq_roundedCompare? shared ▸ compared)

theorem compare?_eq_trans {left middle right : Scalar} (first : left.compare? middle = some .eq)
    (second : middle.compare? right = some .eq) (apart : ¬left.SharesDouble right) :
    left.compare? right = some .eq := by
  have rounded {left right : Scalar} (equal : left.compare? right = some .eq) :
      left.roundedCompare? right = some .eq :=
    compare?_eq_roundedCompare? (fun shared => shared.compare?_ne equal) ▸ equal
  rw [compare?_eq_roundedCompare? apart]
  exact roundedCompare?_then (rounded first) (rounded second) rfl rfl

theorem SharesDouble.exists_middle {left middle right : Scalar} (shared : left.SharesDouble right)
    (first : left.compare? middle = some .eq) (second : middle.compare? right = some .eq) :
    ∃ double, middle = float double := by
  obtain ⟨different, same⟩ := shared
  cases middle <;> try cases first
  case int middle =>
    rw [compare?, Option.some.injEq, Std.LawfulEqOrd.compare_eq_iff_eq] at first second
    exact absurd (first.trans second) different
  case float double => exact ⟨double, rfl⟩

/-- A chain that descends nowhere ascends with its first step, unless that step was taken between
integers that share a double and the chain ends at it. -/
theorem compare?_lt_trans {left middle right : Scalar} {next : Ordering}
    (first : left.compare? middle = some .lt) (second : middle.compare? right = some next)
    (nextLE : next.isLE = true) :
    left.compare? right = some .lt ∨
      left.SharesDouble middle ∧ (∃ double, right = float double) ∧
        left.compare? right = some .eq := by
  rcases roundedCompare?_of_compare? first with rounded | ⟨shared, rounded⟩
  · have less : left.roundedCompare? right = some .lt := by
      rcases roundedCompare?_of_compare? second with onward | ⟨-, onward⟩
      · exact roundedCompare?_then rounded onward rfl nextLE
      · exact roundedCompare?_then rounded onward rfl rfl
    have apart : ¬left.SharesDouble right := fun shared => by
      rw [shared.roundedCompare?_eq] at less
      contradiction
    exact .inl (compare?_eq_roundedCompare? apart ▸ less)
  · have integers := shared
    obtain ⟨different, same⟩ := integers
    cases right <;> try (cases second; done)
    case int right => exact .inl (some_compare_then first second rfl nextLE)
    case float double =>
      change (int _).roundedCompare? (float double) = some next at second
      have onward := roundedCompare?_then rounded second rfl nextLE
      cases next with
      | lt => exact .inl onward
      | eq => exact .inr ⟨shared, ⟨double, rfl⟩, onward⟩
      | gt => contradiction

theorem SharesDouble.exists_int {left right : Scalar} (shared : left.SharesDouble right) :
    ∃ value other, left = int value ∧ right = int other ∧
      2 ^ 53 ≤ value.natAbs ∧ 2 ^ 53 ≤ other.natAbs := by
  obtain ⟨different, same⟩ := shared
  exact ⟨_, _, rfl, rfl,
    Binary64.le_of_numericKey_ofInt_eq different (Binary64.same_ofInt_iff.1 same)⟩

/-- Comparison read backwards is reversed, and its chains hold together but for two integers that
share a double: both are equal to it, though one of them is less than the other. Both lie at 2 ^ 53
or beyond. -/
theorem compare?_chains (left middle right : Scalar) :
    right.compare? left = (left.compare? right).map Ordering.swap ∧
    (left.compare? middle = some .eq → middle.compare? right = some .eq →
      left.compare? right = some .eq ∨
        left.SharesDouble right ∧ ∃ double, middle = float double) ∧
    (left.compare? middle = some .lt →
      middle.compare? right = some .lt ∨ middle.compare? right = some .eq →
      left.compare? right = some .lt ∨
        left.SharesDouble middle ∧ (∃ double, right = float double) ∧
          left.compare? right = some .eq) ∧
    (left.SharesDouble right → ∃ value other, left = int value ∧ right = int other ∧
      2 ^ 53 ≤ value.natAbs ∧ 2 ^ 53 ≤ other.natAbs) := by
  refine ⟨compare?_swap right left, fun first second => ?_, fun first second => ?_,
    SharesDouble.exists_int⟩
  · by_cases shared : left.SharesDouble right
    · exact .inr ⟨shared, shared.exists_middle first second⟩
    · exact .inl (compare?_eq_trans first second shared)
  · rcases second with second | second
    · exact compare?_lt_trans first second rfl
    · exact compare?_lt_trans first second rfl

/-- 1 is less than 2, by way of the double 2; and 2 ^ 53 and 2 ^ 53 + 1 are equal to one double. -/
theorem compare?_chains_limit :
    (int 1).compare? (int 2) = some .lt ∧ (int (2 ^ 53 + 1)).SharesDouble (int (2 ^ 53)) := by
  constructor
  · refine ((compare?_chains (int 1) (float (Binary64.ofInt 2)) (int 2)).2.2.1
      (by decide +kernel) (.inr (by decide +kernel))).resolve_right ?_
    rintro ⟨⟨⟩, -⟩
  · exact (((compare?_chains (int (2 ^ 53 + 1)) (float (Binary64.ofInt (2 ^ 53)))
      (int (2 ^ 53))).2.1 (by decide +kernel) (by decide +kernel)).resolve_left (by decide)).1

/-- Equality does not pass from 2 ^ 53 + 1 over the double 2 ^ 53 to the integer 2 ^ 53; and 2 ^ 53
is less than 2 ^ 53 + 1, but not less than the double that 2 ^ 53 + 1 is equal to. -/
theorem compare?_broken_chains :
    ((int (2 ^ 53 + 1)).compare? (float (Binary64.ofInt (2 ^ 53))) = some .eq ∧
      (float (Binary64.ofInt (2 ^ 53))).compare? (int (2 ^ 53)) = some .eq ∧
      (int (2 ^ 53 + 1)).compare? (int (2 ^ 53)) ≠ some .eq) ∧
    (int (2 ^ 53)).compare? (int (2 ^ 53 + 1)) = some .lt ∧
      (int (2 ^ 53 + 1)).compare? (float (Binary64.ofInt (2 ^ 53))) = some .eq ∧
      (int (2 ^ 53)).compare? (float (Binary64.ofInt (2 ^ 53))) ≠ some .lt := by
  decide +kernel

end Scalar

end SensorThings
