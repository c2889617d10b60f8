import SensorThings.Change.Summary
import SensorThings.Proofs.Time.Order

/-!
Hulls of intervals. Instants are ordered totally, so the hull of some intervals is determined by
them, and widening it by one more interval gives the hull of all of them.
-/
namespace SensorThings

namespace Instant

theorem eq_of_not_isBefore {left right : Instant} (notBefore : isBefore left right = false)
    (notAfter : isBefore right left = false) : left = right := by
  simp only [isBefore, beq_eq_false_iff_ne, ne_eq, ← Ordering.isGE_iff_ne_lt] at notBefore notAfter
  exact Std.LawfulEqOrd.eq_of_compare (Std.OrientedCmp.isGE_antisymm notBefore notAfter)

theorem earlier_eq_or (left right : Instant) :
    earlier left right = left ∨ earlier left right = right := by
  unfold earlier
  split
  · exact .inr rfl
  · exact .inl rfl

theorem later_eq_or (left right : Instant) :
    later left right = left ∨ later left right = right := by
  unfold later
  split
  · exact .inr rfl
  · exact .inl rfl

end Instant

namespace Interval

variable {α : Type} {items others : α → Prop} {span : α → Interval}

theorem ext_bounds {left right : Interval} (start : left.start = right.start)
    (stop : left.stop = right.stop) : left = right := by
  cases left
  cases right
  cases start
  cases stop
  rfl

/-- Bounds are the smallest interval that covers the spans of all items, or nothing if there is no
item. -/
inductive IsHull (items : α → Prop) (span : α → Interval) : Option Interval → Prop where
  | none (empty : ∀ item, ¬items item) : IsHull items span none
  | some {hull : Interval}
      (covers : ∀ item, items item → Instant.isBefore (span item).start hull.start = false ∧
        Instant.isBefore hull.stop (span item).stop = false)
      (starts : ∃ item, items item ∧ (span item).start = hull.start)
      (stops : ∃ item, items item ∧ (span item).stop = hull.stop) : IsHull items span (some hull)

namespace IsHull

variable {bounds : Option Interval}

theorem congr (isHull : IsHull items span bounds) (same : ∀ item, others item ↔ items item) :
    IsHull others span bounds := by
  obtain rfl : others = items := funext fun item => propext (same item)
  exact isHull

theorem widened (isHull : IsHull items span bounds) (new : α) :
    IsHull (fun item => items item ∨ item = new) span (Interval.widened bounds (span new)) := by
  cases isHull with
  | none empty =>
    constructor
    case covers =>
      rintro item (member | rfl)
      · exact absurd member (empty item)
      · exact ⟨Instant.isBefore_self _, Instant.isBefore_self _⟩
    case starts => exact ⟨new, .inr rfl, rfl⟩
    case stops => exact ⟨new, .inr rfl, rfl⟩
  | @some hull covers starts stops =>
    constructor
    case covers =>
      rintro item (member | rfl)
      · obtain ⟨start, stop⟩ := covers item member
        exact ⟨Instant.not_isBefore_trans start (Instant.not_isBefore_earlier_left ..),
          Instant.not_isBefore_trans (Instant.not_isBefore_later_left ..) stop⟩
      · exact ⟨Instant.not_isBefore_earlier_right .., Instant.not_isBefore_later_right ..⟩
    case starts =>
      obtain same | same := Instant.earlier_eq_or hull.start (span new).start
      · obtain ⟨item, member, first⟩ := starts
        exact ⟨item, .inl member, first.trans same.symm⟩
      · exact ⟨new, .inr rfl, same.symm⟩
    case stops =>
      obtain same | same := Instant.later_eq_or hull.stop (span new).stop
      · obtain ⟨item, member, last⟩ := stops
        exact ⟨item, .inl member, last.trans same.symm⟩
      · exact ⟨new, .inr rfl, same.symm⟩

theorem foldl (isHull : IsHull items span bounds) (list : List α) :
    IsHull (fun item => items item ∨ item ∈ list) span
      (list.foldl (fun bounds item => Interval.widened bounds (span item)) bounds) := by
  induction list generalizing items bounds with
  | nil => exact isHull.congr (by simp)
  | cons new rest ih =>
    apply (ih (isHull.widened new)).congr
    intro item
    rw [List.mem_cons, or_assoc]

theorem of_list (list : List α) :
    IsHull (· ∈ list) span
      (list.foldl (fun bounds item => Interval.widened bounds (span item)) Option.none) := by
  have nothing : IsHull (fun _ => False) span Option.none := .none fun _ => id
  exact (nothing.foldl list).congr (by simp)

theorem unique {left right : Option Interval} (first : IsHull items span left)
    (second : IsHull items span right) : left = right := by
  cases first with
  | none empty =>
    cases second with
    | none => rfl
    | some _ starts =>
      obtain ⟨item, member, -⟩ := starts
      exact absurd member (empty item)
  | @some hull covers starts stops =>
    cases second with
    | none empty =>
      obtain ⟨item, member, -⟩ := starts
      exact absurd member (empty item)
    | @some other coversToo startsToo stopsToo =>
      obtain ⟨earliest, earliestMember, start⟩ := starts
      obtain ⟨latest, latestMember, stop⟩ := stops
      obtain ⟨earliestToo, earliestTooMember, startToo⟩ := startsToo
      obtain ⟨latestToo, latestTooMember, stopToo⟩ := stopsToo
      congr 1
      apply ext_bounds
      · apply Instant.eq_of_not_isBefore
        · exact start ▸ (coversToo earliest earliestMember).1
        · exact startToo ▸ (covers earliestToo earliestTooMember).1
      · apply Instant.eq_of_not_isBefore
        · exact stopToo ▸ (covers latestToo latestTooMember).2
        · exact stop ▸ (coversToo latest latestMember).2

end IsHull

end Interval

end SensorThings
