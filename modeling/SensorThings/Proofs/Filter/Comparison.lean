import SensorThings.Filter.Evaluation

/-!
Comparison read from the other side. Whether two values compare does not depend on which is named
first, and exchanging them turns the order around; so a comparison and its flipped one agree.
-/
namespace SensorThings

namespace ValueType

theorem comparable_comm (left right : ValueType) :
    left.comparable right = right.comparable left := by
  rw [comparable, comparable, Bool.or_comm left.isOpen, Bool.beq_comm]

theorem comparable_of_isNumeric {left right : ValueType} (leftNumeric : left.isNumeric = true)
    (rightNumeric : right.isNumeric = true) : left.comparable right = true := by
  revert leftNumeric rightNumeric
  cases left <;> cases right <;> decide

end ValueType

namespace Binary64

theorem compare?_swap (left right : Float) :
    compare? left right = (compare? right left).map Ordering.swap := by
  simp only [compare?, Bool.or_comm (isNaN left)]
  split
  · rfl
  · rw [Option.map_some, ← Std.OrientedOrd.eq_swap]

theorem same_comm (left right : Float) : same left right = same right left := by
  simp only [same, compare?_swap left right]
  rcases compare? right left with _ | _ | _ | _ <;> rfl

end Binary64

theorem Position.same_comm (left right : Position) : left.same right = right.same left := by
  simp only [Position.same, Binary64.same_comm left.x, Binary64.same_comm left.y]

namespace Geometry

theorem sameLists_comm {α : Type} {same : α → α → Bool}
    (comm : ∀ left right, same left right = same right left) (lefts rights : List α) :
    sameLists same lefts rights = sameLists same rights lefts := by
  induction lefts generalizing rights with
  | nil => cases rights <;> rfl
  | cons left lefts ih =>
    cases rights with
    | nil => rfl
    | cons right rights => rw [sameLists, sameLists, comm, ih]

theorem same_comm (left right : Geometry) : left.same right = right.same left := by
  have positions := sameLists_comm Position.same_comm
  have lines := sameLists_comm positions
  cases left <;> cases right <;>
    first
    | rfl
    | exact Position.same_comm ..
    | exact positions ..
    | exact lines ..
    | exact sameLists_comm lines ..

end Geometry

namespace Json

mutual

theorem same_comm (left right : Json) : left.same right = right.same left := by
  cases left <;> cases right <;> simp only [same]
  case array.array lefts rights => exact sameItems_comm lefts rights
  case object.object lefts rights => exact sameMembers_comm lefts rights
  case float.float left right => exact Binary64.same_comm left right
  all_goals exact Bool.beq_comm

theorem sameItems_comm (lefts rights : List Json) :
    sameItems lefts rights = sameItems rights lefts := by
  match lefts, rights with
  | [], [] => rfl
  | [], _ :: _ => rfl
  | _ :: _, [] => rfl
  | left :: lefts, right :: rights =>
    rw [sameItems, sameItems, same_comm left right, sameItems_comm lefts rights]

theorem sameMembers_comm (lefts rights : List (String × Json)) :
    sameMembers lefts rights = sameMembers rights lefts := by
  match lefts, rights with
  | [], [] => rfl
  | [], _ :: _ => rfl
  | _ :: _, [] => rfl
  | (leftKey, left) :: lefts, (rightKey, right) :: rights =>
    rw [sameMembers, sameMembers, Bool.beq_comm, same_comm left right,
      sameMembers_comm lefts rights]

end

end Json

namespace Scalar

theorem compare?_swap (left right : Scalar) :
    left.compare? right = (right.compare? left).map Ordering.swap := by
  cases left <;> cases right <;> simp only [compare?, Option.map_none, Option.map_some]
  case geometry.geometry left right =>
    rw [Geometry.same_comm]
    cases right.same left <;> rfl
  case json.json left right =>
    rw [Json.same_comm]
    cases right.same left <;> rfl
  case float.float left right => exact Binary64.compare?_swap left right
  case float.int left right => exact Binary64.compare?_swap left _
  case int.float left right => exact Binary64.compare?_swap _ right
  all_goals exact congrArg some Std.OrientedOrd.eq_swap

end Scalar

namespace Comparison

theorem truth_eq_some_iff {comparison : Comparison} {left right : Scalar} {value : Bool} :
    comparison.truth left right = some value ↔
      ∃ order, left.compare? right = some order ∧ comparison.allows order = value :=
  Option.map_eq_some_iff

theorem truth_flip (comparison : Comparison) (left right : Scalar) :
    comparison.flip.truth left right = comparison.truth right left := by
  rw [truth, truth, Scalar.compare?_swap, Option.map_map]
  congr 1
  funext order
  exact flip_allows comparison order

end Comparison

end SensorThings
