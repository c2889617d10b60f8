import SensorThings.Proofs.Binary64.Rounding
import SensorThings.Proofs.Filter.Meaning
import SensorThings.Proofs.Time.Order

/-!
Equality of values in filters. Two values of one type are equal or they differ, and inequality says
the opposite; only of geometries and documents it is never known that they differ.
-/
namespace SensorThings

@[simp] theorem Binary64.isNaN_ofInt (value : Int) : isNaN (ofInt value) = false := by
  rw [isNaN, ofInt, magnitude_ofDyadic]
  simpa using nearestBits_le value.natAbs 0

theorem Binary64.compare?_isSome (left right : Float) :
    (compare? left right).isSome = (!isNaN left && !isNaN right) := by
  rw [compare?]
  cases isNaN left <;> cases isNaN right <;> rfl

namespace Scalar

def isNaN : Scalar → Bool
  | float value => Binary64.isNaN value
  | _ => false

/-- Values of one type, numbers being one; null is of none, and a NaN is no number. -/
def isLike (left right : Scalar) : Bool :=
  left.rank == right.rank && !left.isNull && !left.isNaN && !right.isNaN

def isOrdered : Scalar → Bool
  | null => false
  | geometry _ => false
  | json _ => false
  | _ => true

/-- Equality of values. An integer and a double are equal as doubles. -/
def agrees : Scalar → Scalar → Bool
  | bool left, bool right => left == right
  | int left, int right => left == right
  | int left, float right => Binary64.same (Binary64.ofInt left) right
  | float left, int right => Binary64.same left (Binary64.ofInt right)
  | float left, float right => Binary64.same left right
  | string left, string right => left == right
  | instant left, instant right => left == right
  | date left, date right => left == right
  | timeOfDay left, timeOfDay right => left == right
  | geometry left, geometry right => left.same right
  | json left, json right => left.same right
  | _, _ => false

theorem some_compare_eq_iff {α : Type} [Ord α] [Std.LawfulEqOrd α] [DecidableEq α]
    (left right : α) : some (compare left right) = some .eq ↔ (left == right) = true := by
  rw [Option.some.injEq, Std.LawfulEqOrd.compare_eq_iff_eq, beq_iff_eq]

theorem compare?_eq_eq_iff (left right : Scalar) :
    left.compare? right = some .eq ↔ left.agrees right = true := by
  cases left <;> cases right <;>
    simp only [compare?, agrees, Binary64.same, beq_iff_eq (α := Option Ordering)]
  case bool.bool left right => cases left <;> cases right <;> decide
  case geometry.geometry left right => cases left.same right <;> decide
  case json.json left right => cases left.same right <;> decide
  all_goals first | exact some_compare_eq_iff .. | decide

theorem compare?_isSome {left : Scalar} (ordered : left.isOrdered = true) (right : Scalar) :
    (left.compare? right).isSome = left.isLike right := by
  cases left <;> first | contradiction | cases right
  case int.float left right =>
    rw [compare?, Binary64.compare?_isSome, Binary64.isNaN_ofInt]
    rfl
  case float.int left right =>
    rw [compare?, Binary64.compare?_isSome, Binary64.isNaN_ofInt]
    rfl
  case float.float left right => exact Binary64.compare?_isSome left right
  all_goals simp [compare?, isLike, rank, isNull, isNaN]

theorem compare?_of_not_isOrdered {left : Scalar} (unordered : left.isOrdered = false)
    (right : Scalar) : left.compare? right = if left.agrees right then some .eq else none := by
  cases left <;> first | contradiction | (cases right <;> rfl)

end Scalar

namespace Comparison

variable {left right : Scalar}

theorem truth_notEqual (left right : Reading) :
    notEqual.truthOfReadings left right = (equal.truthOfReadings left right).not := by
  cases left <;> cases right
  case single.single left right =>
    rw [truthOfReadings, truthOfReadings, truth, truth, Truth.not, Option.map_map]
    rfl
  all_goals rfl

theorem equal_truth_eq_true_iff :
    equal.truth left right = some true ↔ left.agrees right = true := by
  rw [← Scalar.compare?_eq_eq_iff, truth_eq_some_iff]
  constructor
  · rintro ⟨order, compared, allowed⟩
    rw [compared, beq_iff_eq.1 allowed]
  · exact fun compared => ⟨.eq, compared, rfl⟩

theorem equal_truth_eq_false_iff :
    equal.truth left right = some false ↔
      left.isLike right = true ∧ left.isOrdered = true ∧ left.agrees right = false := by
  rw [truth_eq_some_iff, Bool.eq_false_iff, ne_eq, ← Scalar.compare?_eq_eq_iff]
  constructor
  · rintro ⟨order, compared, different⟩
    have notEqual : order ≠ .eq := beq_eq_false_iff_ne.1 different
    have ordered : left.isOrdered = true := by
      by_contra unordered
      rw [Scalar.compare?_of_not_isOrdered (Bool.eq_false_iff.2 unordered)] at compared
      split at compared
      · exact notEqual (Option.some.inj compared).symm
      · contradiction
    rw [← Scalar.compare?_isSome ordered, compared]
    exact ⟨rfl, ordered, fun same => notEqual (Option.some.inj same)⟩
  · rintro ⟨like, ordered, different⟩
    rw [← Scalar.compare?_isSome ordered, Option.isSome_iff_exists] at like
    obtain ⟨order, compared⟩ := like
    refine ⟨order, compared, beq_eq_false_iff_ne.2 fun same => different ?_⟩
    rw [compared, same]

theorem equal_truth_of_isLike (like : left.isLike right = true)
    (ordered : left.isOrdered = true) : equal.truth left right = some (left.agrees right) := by
  cases agrees : left.agrees right with
  | true => exact equal_truth_eq_true_iff.2 agrees
  | false => exact equal_truth_eq_false_iff.2 ⟨like, ordered, agrees⟩

end Comparison

namespace Expression

/-- Where an equality is accepted so are the inequality and the negated equality, and on every row
these are its opposite. Of two values of one type that has an order the equality is decided; so an
inequality selects the rows whose values are of one such type and differ. Geometries and documents
it never selects. -/
theorem equality_decided [PlaneGeometry] {context : QueryContext} {left right : Expression}
    {equality : Predicate}
    (accepted : (compare .equal left right).predicate context = .ok equality) :
    ∃ inequality negated,
      (compare .notEqual left right).predicate context = .ok inequality ∧
      (not (compare .equal left right)).predicate context = .ok negated ∧
      ∀ source, inequality.truth source = (equality.truth source).not ∧
        negated.truth source = (equality.truth source).not ∧
        ∀ value other, left.reading context source = .single value →
          right.reading context source = .single other →
          (value.isLike other = true → value.isOrdered = true →
            equality.truth source = some (value.agrees other)) ∧
          (equality.selects source = true ↔ value.agrees other = true) ∧
          (inequality.selects source = true ↔ value.isLike other = true ∧
            value.isOrdered = true ∧ value.agrees other = false) := by
  obtain ⟨leftOperand, rightOperand, leftCompiled, rightCompiled, comparable, rfl⟩ :=
    comparison_eq_ok_iff.1 accepted
  refine ⟨Comparison.notEqual.ofOperands leftOperand rightOperand,
    (Comparison.equal.ofOperands leftOperand rightOperand).negation,
    comparison_eq_ok_iff.2 ⟨_, _, leftCompiled, rightCompiled, comparable, rfl⟩, ?_,
    fun source => ?_⟩
  · rw [predicate, accepted]
    rfl
  · simp only [Predicate.selects, beq_iff_eq, Predicate.truth_negation, Comparison.truth_ofOperands,
      reading_of_operand source leftCompiled, reading_of_operand source rightCompiled,
      Comparison.truth_notEqual, Truth.not_eq_true_iff, true_and]
    rintro value other isValue isOther
    rw [isValue, isOther, Comparison.truthOfReadings]
    exact ⟨Comparison.equal_truth_of_isLike, Comparison.equal_truth_eq_true_iff,
      Comparison.equal_truth_eq_false_iff⟩

def locationContext : QueryContext :=
  ⟨EntityKind.schema, EntityKind.location.propertyMap?.get rfl, dayAfter⟩

/-- A place in the garden, without any points. -/
def gardenPath : RowSource :=
  .standalone fun name =>
    if name = "name" then .string "garden" else .geometry (.lineString [])

/-- The garden is known not to be the roof, but a line is not known to differ from points. -/
theorem equality_decided_garden :
    ∃ elsewhere reshaped,
      (compare .notEqual (member ["name"]) (literal (.string "roof"))).predicate locationContext =
        .ok elsewhere ∧
      (compare .notEqual (member ["location"]) (literal (.geometry (.multiPoint [])))).predicate
        locationContext = .ok reshaped ∧
      elsewhere.selects gardenPath = true ∧ reshaped.selects gardenPath = false := by
  have byName : (compare .equal (member ["name"]) (literal (.string "roof"))).predicate
      locationContext = .ok _ := rfl
  have byShape : (compare .equal (member ["location"])
      (literal (.geometry (.multiPoint [])))).predicate locationContext = .ok _ := rfl
  obtain ⟨elsewhere, _, elsewhereCompiled, -, named⟩ := equality_decided byName
  obtain ⟨reshaped, _, reshapedCompiled, -, shaped⟩ := equality_decided byShape
  refine ⟨elsewhere, reshaped, elsewhereCompiled, reshapedCompiled, ?_, ?_⟩
  · exact ((named gardenPath).2.2 _ _ rfl rfl).2.2.2 ⟨rfl, rfl, rfl⟩
  · rw [Bool.eq_false_iff]
    exact fun selected => absurd (((shaped gardenPath).2.2 _ _ rfl rfl).2.2.1 selected) (by decide)

end Expression

end SensorThings
