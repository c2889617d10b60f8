import SensorThings.Proofs.Binary64.Rounding
import SensorThings.Proofs.Filter.Comparison

/-!
The order of sorted values is total. It is lexicographic: first by type, then by what values of the
type are told apart by; what does not apply to a type is the same for all its values. Where one
value compares as less than another, it is sorted before it.
-/
namespace SensorThings

namespace Binary64

theorem compare?_eq_some_iff {left right : Float} {order : Ordering} :
    compare? left right = some order ↔ isNaN left = false ∧ isNaN right = false ∧
      compare (numericKey left) (numericKey right) = order := by
  rw [compare?]
  cases isNaN left <;> cases isNaN right <;> simp

theorem totalCompare_of_compare?_lt {left right : Float} (less : compare? left right = some .lt) :
    totalCompare left right = .lt := by
  obtain ⟨-, -, ordered⟩ := compare?_eq_some_iff.1 less
  refine compare_lt_iff_lt.2 (lt_of_not_ge fun le => ?_)
  exact absurd (compare_lt_iff_lt.1 ordered) (not_lt.2 (numericKey_le_of_totalKey_le le))

end Binary64

namespace Scalar

def nearest : Scalar → Int
  | int value => Binary64.totalKey (Binary64.ofInt value)
  | float value => Binary64.totalKey value
  | _ => 0

/-- An integer follows the double of its value. -/
def afterDouble : Scalar → Nat
  | int _ => 1
  | _ => 0

/-- Integers that share their nearest double still differ. -/
def whole : Scalar → Int
  | bool value => value.toNat
  | int value => value
  | _ => 0

def comparedText : Scalar → String
  | string text => text
  | geometry shape => shape.sortText
  | json document => document.text
  | _ => ""

def comparedTime : Scalar → Instant
  | instant time => time
  | date day => ⟨day, .midnight⟩
  | timeOfDay time => ⟨default, time⟩
  | _ => default

theorem sortCompare_of_rank_ne {left right : Scalar} (different : left.rank ≠ right.rank) :
    left.sortCompare right = compare left.rank right.rank := by
  cases left <;> cases right <;> first | exact absurd rfl different | rfl

theorem compare_nearest_then (left right : Int) :
    (compare (int left).nearest (int right).nearest).then (compare left right) =
      compare left right := by
  rcases lt_trichotomy left right with less | rfl | greater
  · rw [compare_lt_iff_lt.2 less]
    rcases (Binary64.totalKey_ofInt_mono less.le).lt_or_eq with keysLess | same
    · rw [nearest, nearest, compare_lt_iff_lt.2 keysLess]
      rfl
    · rw [nearest, nearest, same, Std.ReflOrd.compare_self]
      rfl
  · rw [Std.ReflOrd.compare_self, Std.ReflOrd.compare_self]
    rfl
  · rw [compare_gt_iff_gt.2 greater]
    rcases (Binary64.totalKey_ofInt_mono greater.le).lt_or_eq with keysLess | same
    · rw [nearest, nearest, compare_gt_iff_gt.2 keysLess]
      rfl
    · rw [nearest, nearest, same, Std.ReflOrd.compare_self]
      rfl

theorem compare_instant (date otherDate : Date) (time otherTime : TimeOfDay) :
    compare (Instant.mk date time) ⟨otherDate, otherTime⟩ =
      (compare date otherDate).then (compare time otherTime) := rfl

theorem sortCompare_eq_lex :
    sortCompare = compareLex (compareOn rank) (compareLex (compareOn nearest)
      (compareLex (compareOn afterDouble) (compareLex (compareOn whole)
        (compareLex (compareOn comparedText) (compareOn comparedTime))))) := by
  funext left right
  rw [compareLex, compareOn]
  rcases lt_trichotomy left.rank right.rank with less | same | greater
  · rw [sortCompare_of_rank_ne less.ne, compare_lt_iff_lt.2 less]
    rfl
  · rw [same, Std.ReflOrd.compare_self, Ordering.eq_then]
    cases left <;> cases right <;> first | cases same; done | skip
    all_goals simp only [compareLex, compareOn, nearest, afterDouble, whole, comparedText,
      comparedTime, Std.ReflOrd.compare_self, Ordering.eq_then, Ordering.then_eq]
    case null.null => rfl
    case bool.bool left right => cases left <;> cases right <;> rfl
    case int.int left right => exact (compare_nearest_then left right).symm
    case date.date left right =>
      rw [compare_instant, Std.ReflOrd.compare_self, Ordering.then_eq]
      rfl
    case timeOfDay.timeOfDay left right =>
      rw [compare_instant, Std.ReflOrd.compare_self, Ordering.eq_then]
      rfl
    all_goals rfl
  · rw [sortCompare_of_rank_ne greater.ne', compare_gt_iff_gt.2 greater]
    rfl

instance : Std.TransCmp sortCompare :=
  sortCompare_eq_lex ▸ inferInstance

theorem sortCompare_of_compare?_lt {left right : Scalar} (less : left.compare? right = some .lt) :
    left.sortCompare right = .lt := by
  cases left <;> cases right <;> simp only [compare?, reduceCtorEq] at less
  case float.float => exact Binary64.totalCompare_of_compare?_lt less
  case int.float =>
    rw [sortCompare, Binary64.totalCompare_of_compare?_lt less]
    rfl
  case float.int =>
    rw [sortCompare, Binary64.totalCompare_of_compare?_lt less]
    rfl
  -- Of geometries and documents comparison tells only whether they are equal.
  case geometry.geometry left right =>
    cases equal : left.same right <;> rw [equal] at less <;> cases less
  case json.json left right =>
    cases equal : left.same right <;> rw [equal] at less <;> cases less
  all_goals exact Option.some.inj less

theorem sortCompare_of_compare?_gt {left right : Scalar}
    (greater : left.compare? right = some .gt) : left.sortCompare right = .gt := by
  have less : right.compare? left = some .lt := by
    rw [compare?_swap, greater]
    rfl
  have reversed : left.sortCompare right = (right.sortCompare left).swap :=
    Std.OrientedCmp.eq_swap
  rw [reversed, sortCompare_of_compare?_lt less]
  rfl

theorem ctorIdx_of_sortCompare_eq {left right : Scalar} (tied : left.sortCompare right = .eq) :
    left.ctorIdx = right.ctorIdx := by
  simp only [sortCompare_eq_lex, compareLex_eq_eq, compareOn, Std.LawfulEqOrd.compare_eq_iff_eq]
    at tied
  obtain ⟨sameRank, -, sameSide, -⟩ := tied
  cases left <;> cases right <;> first | rfl | cases sameRank; done | cases sameSide

/-- Sorting is a total preorder of all values, in which values of different constructors never tie,
and it agrees with comparison wherever one of two values is less. -/
theorem sortCompare_total (left middle right : Scalar) :
    right.sortCompare left = (left.sortCompare right).swap ∧
    ((left.sortCompare middle).isLE = true → (middle.sortCompare right).isLE = true →
      (left.sortCompare right).isLE = true) ∧
    (left.sortCompare right = .eq → left.ctorIdx = right.ctorIdx) ∧
    (left.compare? right = some .lt → left.sortCompare right = .lt) ∧
    (left.compare? right = some .gt → left.sortCompare right = .gt) :=
  ⟨Std.OrientedCmp.eq_swap, Std.TransCmp.isLE_trans, ctorIdx_of_sortCompare_eq,
    sortCompare_of_compare?_lt, sortCompare_of_compare?_gt⟩

/-- The double 2 ^ 53 is sorted before the integer 2 ^ 53, and that before 2 ^ 53 + 1, which has the
same nearest double. -/
theorem sortCompare_total_limit :
    ((float (Binary64.ofInt (2 ^ 53))).sortCompare (int (2 ^ 53 + 1))).isLE = true ∧
      (int (2 ^ 53)).sortCompare (int (2 ^ 53 + 1)) = .lt :=
  ⟨(sortCompare_total _ (int (2 ^ 53)) _).2.1 (by decide +kernel) (by decide +kernel),
    (sortCompare_total (int (2 ^ 53)) null (int (2 ^ 53 + 1))).2.2.2.1 (by decide)⟩

end Scalar

end SensorThings
