import SensorThings.Time.Date
import SensorThings.Time.TimeOfDay

/-!
Instants in universal time: a date and a time of day, ordered first by date. Written texts end in a
zone, `Z` in documents and `+00:00` in query fragments.
-/
namespace SensorThings

structure Instant where
  date : Date
  time : TimeOfDay
deriving DecidableEq

namespace Instant

instance : Ord Instant where
  compare := compareLex (compareOn Instant.date) (compareOn Instant.time)

instance : Inhabited Instant := ⟨⟨default, default⟩⟩

instance : Std.TransOrd Instant :=
  inferInstanceAs (Std.TransCmp (compareLex _ _))

def isBefore (left right : Instant) : Bool :=
  compare left right == .lt

@[simp] theorem isBefore_self (instant : Instant) : isBefore instant instant = false := by
  simp [isBefore]

/-- Not being before is transitive, since the order is total. -/
theorem not_isBefore_trans {left middle right : Instant} (first : isBefore left middle = false)
    (second : isBefore middle right = false) : isBefore left right = false := by
  simp only [isBefore, beq_eq_false_iff_ne, ne_eq, ← Ordering.isGE_iff_ne_lt] at *
  exact Std.TransCmp.isGE_trans first second

def earlier (left right : Instant) : Instant :=
  if isBefore right left then right else left

def later (left right : Instant) : Instant :=
  if isBefore left right then right else left

theorem not_isBefore_of_isBefore {left right : Instant} (before : isBefore left right = true) :
    isBefore right left = false := by
  simp only [isBefore, beq_iff_eq, beq_eq_false_iff_ne, ne_eq] at *
  simp [Std.OrientedCmp.gt_of_lt before]

@[simp] theorem not_isBefore_earlier_left (left right : Instant) :
    isBefore left (earlier left right) = false := by
  unfold earlier
  split
  next before => exact not_isBefore_of_isBefore before
  next => exact isBefore_self left

@[simp] theorem not_isBefore_earlier_right (left right : Instant) :
    isBefore right (earlier left right) = false := by
  unfold earlier
  split
  next => exact isBefore_self right
  next notBefore => simpa using notBefore

@[simp] theorem not_isBefore_later_left (left right : Instant) :
    isBefore (later left right) left = false := by
  unfold later
  split
  next before => exact not_isBefore_of_isBefore before
  next => exact isBefore_self left

@[simp] theorem not_isBefore_later_right (left right : Instant) :
    isBefore (later left right) right = false := by
  unfold later
  split
  next => exact isBefore_self right
  next notBefore => simpa using notBefore

def first : Instant := ⟨Date.first, TimeOfDay.midnight⟩
def last : Instant := ⟨Date.last, TimeOfDay.last⟩

/-- The instant whose local reading is given, `offset` seconds east of universal time and less than
a day away from it. The nanoseconds, also of a leap second, stay as they are. -/
def ofLocal? (date : Date) (time : TimeOfDay) (offset : Int) : Option Instant := do
  let second := (time.second : Int) - offset
  let date ← if second < 0 then date.previous? else if 86400 ≤ second then date.next? else some date
  let second := (second % 86400).toNat
  if valid : TimeOfDay.isTime second time.nanosecond = true then
    some ⟨date, ⟨second, time.nanosecond, valid⟩⟩
  else none

def zoned (instant : Instant) (zone : String) : String :=
  instant.date.text ++ "T" ++ instant.time.text ++ zone

def text (instant : Instant) : String :=
  zoned instant "Z"

def queryText (instant : Instant) : String :=
  zoned instant "+00:00"

end Instant

end SensorThings
