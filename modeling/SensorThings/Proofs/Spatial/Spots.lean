import Mathlib.Data.Rat.Lemmas
import Mathlib.Tactic.LinearCombination
import Mathlib.Tactic.Linarith
import SensorThings.Spatial.Shape

/-!
Spots up to scale. A spot has many spellings, one for each positive weight, and every test of the
plane is the sign of a number that a weight only multiplies: so the tests see the same place however
it is spelled.
-/
namespace SensorThings.Spatial

theorem sign_eq_of_mul_eq {left right first second : Int} (leftPositive : 0 < left)
    (rightPositive : 0 < right) (same : left * first = right * second) :
    first.sign = second.sign := by
  have signs := congrArg Int.sign same
  rwa [Int.sign_mul, Int.sign_mul, Int.sign_eq_one_of_pos leftPositive,
    Int.sign_eq_one_of_pos rightPositive, one_mul, one_mul] at signs

section

variable {first second : Int}

theorem pos_congr (same : first.sign = second.sign) : 0 < first ↔ 0 < second := by
  rw [← Int.sign_eq_one_iff_pos, same, Int.sign_eq_one_iff_pos]

theorem neg_congr (same : first.sign = second.sign) : first < 0 ↔ second < 0 := by
  rw [← Int.sign_eq_neg_one_iff_neg, same, Int.sign_eq_neg_one_iff_neg]

theorem eq_zero_congr (same : first.sign = second.sign) : first = 0 ↔ second = 0 := by
  rw [← Int.sign_eq_zero_iff_zero, same, Int.sign_eq_zero_iff_zero]

end

namespace Spot

variable {left right other : Spot}

/-- Spots are meant to have a positive weight. -/
def IsProper (spot : Spot) : Prop :=
  0 < spot.weight

theorem same_iff : left.same right = true ↔
    left.x * right.weight = right.x * left.weight ∧
      left.y * right.weight = right.y * left.weight := by
  rw [same, Bool.and_eq_true, beq_iff_eq, beq_iff_eq]

@[simp] theorem same_self (spot : Spot) : spot.same spot = true :=
  same_iff.2 ⟨rfl, rfl⟩

theorem same_comm (left right : Spot) : left.same right = right.same left := by
  rw [Bool.eq_iff_iff, same_iff, same_iff, eq_comm, eq_comm (a := left.y * _)]

theorem same_trans (proper : right.IsProper) (first : left.same right = true)
    (second : right.same other = true) : left.same other = true := by
  rw [same_iff] at first second ⊢
  have nonzero : right.weight ≠ 0 := ne_of_gt proper
  constructor
  · refine mul_right_cancel₀ nonzero ?_
    linear_combination other.weight * first.1 + left.weight * second.1
  · refine mul_right_cancel₀ nonzero ?_
    linear_combination other.weight * first.2 + left.weight * second.2

theorem middle_isProper (leftProper : left.IsProper) (rightProper : right.IsProper) :
    (middle left right).IsProper :=
  mul_pos (mul_pos two_pos leftProper) rightProper

theorem middle_same {newLeft newRight : Spot} (lefts : left.same newLeft = true)
    (rights : right.same newRight = true) :
    (middle left right).same (middle newLeft newRight) = true := by
  rw [same_iff] at lefts rights ⊢
  rw [middle, middle]
  constructor
  · linear_combination 2 * right.weight * newRight.weight * lefts.1 +
      2 * left.weight * newLeft.weight * rights.1
  · linear_combination 2 * right.weight * newRight.weight * lefts.2 +
      2 * left.weight * newLeft.weight * rights.2

theorem sign_turn_of_same (leftProper : left.IsProper) (rightProper : right.IsProper)
    (same : left.same right = true) (first second : Spot) :
    (turn first second left).sign = (turn first second right).sign := by
  refine sign_eq_of_mul_eq rightProper leftProper ?_
  rw [same_iff] at same
  rw [turn, turn]
  linear_combination (first.y * second.weight - first.weight * second.y) * same.1 +
    (first.weight * second.x - first.x * second.weight) * same.2

theorem sign_along_of_same (leftProper : left.IsProper) (rightProper : right.IsProper)
    (same : left.same right = true) (origin : Spot) (dx dy : Int) :
    (left.along origin dx dy).sign = (right.along origin dx dy).sign := by
  refine sign_eq_of_mul_eq rightProper leftProper ?_
  rw [same_iff] at same
  rw [along, along]
  linear_combination origin.weight * dx * same.1 + origin.weight * dy * same.2

theorem along_scaled {left right dx dy newDx newDy : Int} {origin newOrigin : Spot}
    (same : origin.same newOrigin = true) (horizontal : left * dx = right * newDx)
    (vertical : left * dy = right * newDy) (spot : Spot) :
    newOrigin.weight * left * spot.along origin dx dy =
      origin.weight * right * spot.along newOrigin newDx newDy := by
  rw [same_iff] at same
  rw [along, along]
  linear_combination
    newOrigin.weight * (spot.x * origin.weight - origin.x * spot.weight) * horizontal +
    newOrigin.weight * (spot.y * origin.weight - origin.y * spot.weight) * vertical -
    spot.weight * right * newDx * same.1 - spot.weight * right * newDy * same.2

end Spot

theorem Segment.covers_iff {segment : Segment} {spot : Spot} : segment.covers spot = true ↔
    Spot.turn segment.start segment.stop spot = 0 ∧
      0 ≤ spot.along segment.start segment.dx segment.dy ∧
      spot.along segment.stop segment.dx segment.dy ≤ 0 := by
  rw [covers, Bool.and_eq_true, Bool.and_eq_true, beq_iff_eq, decide_eq_true_iff,
    decide_eq_true_iff, and_assoc]

theorem Segment.covers_of_same {left right : Spot} (leftProper : left.IsProper)
    (rightProper : right.IsProper) (same : left.same right = true) (segment : Segment) :
    segment.covers left = segment.covers right := by
  have turns := eq_zero_congr (Spot.sign_turn_of_same leftProper rightProper same
    segment.start segment.stop)
  have starts := neg_congr (Spot.sign_along_of_same leftProper rightProper same
    segment.start segment.dx segment.dy)
  have stops := pos_congr (Spot.sign_along_of_same leftProper rightProper same
    segment.stop segment.dx segment.dy)
  rw [Bool.eq_iff_iff, covers_iff, covers_iff]
  simp only [← not_lt, turns, starts, stops]

/-- Two spellings of a piece. -/
structure Segment.Same (left right : Segment) : Prop where
  starts : left.start.same right.start = true
  stops : left.stop.same right.stop = true

/-- A piece that is more than a spot. -/
structure Segment.IsProper (segment : Segment) : Prop where
  start : segment.start.IsProper
  stop : segment.stop.IsProper
  apart : ¬segment.start.same segment.stop = true

namespace Shape

section

variable {left right : Spot} (leftProper : left.IsProper) (rightProper : right.IsProper)
  (same : left.same right = true)

include leftProper rightProper same

theorem surrounds_of_same (edges : List Segment) :
    surrounds edges left = surrounds edges right := by
  have above (spot : Spot) : 0 < spot.along left 0 1 ↔ 0 < spot.along right 0 1 := by
    have scaled : right.weight * 1 * spot.along left 0 1 = left.weight * 1 * spot.along right 0 1 :=
      Spot.along_scaled same rfl rfl spot
    rw [mul_one, mul_one] at scaled
    exact pos_congr (sign_eq_of_mul_eq rightProper leftProper scaled)
  have turn (edge : Segment) :=
    Spot.sign_turn_of_same leftProper rightProper same edge.start edge.stop
  have leftward (edge : Segment) := pos_congr (turn edge)
  have rightward (edge : Segment) := neg_congr (turn edge)
  simp only [surrounds, above, leftward, rightward]

theorem locate_of_same (shape : Shape) : shape.locate left = shape.locate right := by
  have covers := Segment.covers_of_same leftProper rightProper same
  have surrounds := surrounds_of_same leftProper rightProper same
  have sames (spot : Spot) : spot.same left = spot.same right := by
    rw [Bool.eq_iff_iff]
    exact ⟨fun first => Spot.same_trans leftProper first same,
      fun first => Spot.same_trans rightProper first (Spot.same_comm left right ▸ same)⟩
  simp only [locate, covers, surrounds, sames]

end

end Shape

namespace Segment

/-- How far ahead of the middle of a piece a spot lies, up to a positive factor. -/
def ahead (piece : Segment) (spot : Spot) : Int :=
  spot.along (Spot.middle piece.start piece.stop) piece.dx piece.dy

def leftward (piece : Segment) (spot : Spot) : Int :=
  spot.along (Spot.middle piece.start piece.stop) (-piece.dy) piece.dx

def height (piece edge : Segment) : Int :=
  let height := piece.leftward edge.start * piece.ahead edge.stop -
    piece.leftward edge.stop * piece.ahead edge.start
  if piece.ahead edge.start < piece.ahead edge.stop then height else -height

end Segment

namespace Shape

theorem sides_eq (edges : List Segment) (piece : Segment) :
    sides edges piece = edges.foldl (fun (left, right) edge =>
      if (0 < piece.ahead edge.start) == (0 < piece.ahead edge.stop) then (left, right)
      else if 0 < piece.height edge then (!left, !right)
      else if piece.height edge = 0 then (left, !right)
      else (left, right)) (false, false) := rfl

end Shape

section

variable {left right : Segment} (leftProper : left.IsProper) (rightProper : right.IsProper)
  (same : left.Same right)

include leftProper rightProper same

theorem Segment.exists_scale : ∃ leftScale rightScale : Int, 0 < leftScale ∧ 0 < rightScale ∧
    (∀ spot, leftScale * left.ahead spot = rightScale * right.ahead spot) ∧
    ∀ spot, leftScale * left.leftward spot = rightScale * right.leftward spot := by
  have starts := Spot.same_iff.1 same.starts
  have stops := Spot.same_iff.1 same.stops
  have middles := Spot.middle_same same.starts same.stops
  let leftWeight := left.start.weight * left.stop.weight
  let rightWeight := right.start.weight * right.stop.weight
  have horizontal : rightWeight * left.dx = leftWeight * right.dx := by
    rw [Segment.dx, Segment.dx]
    linear_combination left.start.weight * right.start.weight * stops.1 -
      left.stop.weight * right.stop.weight * starts.1
  have vertical : rightWeight * left.dy = leftWeight * right.dy := by
    rw [Segment.dy, Segment.dy]
    linear_combination left.start.weight * right.start.weight * stops.2 -
      left.stop.weight * right.stop.weight * starts.2
  have turned : rightWeight * -left.dy = leftWeight * -right.dy := by
    rw [mul_neg, mul_neg, vertical]
  have positive {piece : Segment} (proper : piece.IsProper) :
      0 < (Spot.middle piece.start piece.stop).weight * (piece.start.weight * piece.stop.weight) :=
    mul_pos (Spot.middle_isProper proper.start proper.stop) (mul_pos proper.start proper.stop)
  exact ⟨_, _, positive rightProper, positive leftProper,
    Spot.along_scaled middles horizontal vertical, Spot.along_scaled middles turned horizontal⟩

theorem Segment.sign_height_of_same (edge : Segment) :
    (left.height edge).sign = (right.height edge).sign := by
  obtain ⟨leftScale, rightScale, leftPositive, rightPositive, ahead, leftward⟩ :=
    exists_scale leftProper rightProper same
  have heights : (left.leftward edge.start * left.ahead edge.stop -
        left.leftward edge.stop * left.ahead edge.start).sign =
      (right.leftward edge.start * right.ahead edge.stop -
        right.leftward edge.stop * right.ahead edge.start).sign := by
    refine sign_eq_of_mul_eq (mul_pos leftPositive leftPositive)
      (mul_pos rightPositive rightPositive) ?_
    linear_combination leftScale * left.ahead edge.stop * leftward edge.start +
      rightScale * right.leftward edge.start * ahead edge.stop -
      leftScale * left.ahead edge.start * leftward edge.stop -
      rightScale * right.leftward edge.stop * ahead edge.start
  have forward : left.ahead edge.start < left.ahead edge.stop ↔
      right.ahead edge.start < right.ahead edge.stop := by
    rw [← sub_pos, ← sub_pos (a := right.ahead edge.stop)]
    refine pos_congr (sign_eq_of_mul_eq leftPositive rightPositive ?_)
    rw [mul_sub, mul_sub, ahead, ahead]
  simp only [height, forward]
  split
  · exact heights
  · rw [Int.sign_neg, Int.sign_neg, heights]

theorem Shape.sides_of_same (edges : List Segment) : sides edges left = sides edges right := by
  obtain ⟨_, _, leftPositive, rightPositive, ahead, -⟩ :=
    Segment.exists_scale leftProper rightProper same
  have aheads (spot : Spot) :=
    pos_congr (sign_eq_of_mul_eq leftPositive rightPositive (ahead spot))
  have heights := Segment.sign_height_of_same leftProper rightProper same
  have above (edge : Segment) := pos_congr (heights edge)
  have level (edge : Segment) := eq_zero_congr (heights edge)
  simp only [sides_eq, aheads, above, level]

theorem Shape.sideLocations_of_same (shape : Shape) :
    shape.sideLocations left = shape.sideLocations right := by
  simp only [sideLocations, sides_of_same leftProper rightProper same]

end

end SensorThings.Spatial
