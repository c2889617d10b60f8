import SensorThings.Text.Integer

/-!
Times of day to the nanosecond. A leap second continues the last second of its minute, with
nanoseconds from 10⁹ on.
-/
namespace SensorThings

def TimeOfDay.isTime (second nanosecond : Nat) : Bool :=
  second < 86400 && (nanosecond < 1000000000 || (nanosecond < 2000000000 && second % 60 == 59))

/-- Seconds since midnight, and nanoseconds within the second. -/
structure TimeOfDay where
  second : Nat
  nanosecond : Nat
  valid : TimeOfDay.isTime second nanosecond = true
deriving DecidableEq

namespace TimeOfDay

instance : Ord TimeOfDay where
  compare := compareLex (compareOn TimeOfDay.second) (compareOn TimeOfDay.nanosecond)

instance : Std.TransOrd TimeOfDay :=
  inferInstanceAs (Std.TransCmp (compareLex _ _))

def midnight : TimeOfDay := ⟨0, 0, by decide⟩
def last : TimeOfDay := ⟨86399, 999999999, by decide⟩

instance : Inhabited TimeOfDay := ⟨midnight⟩

/-- The time at a clock reading; second 60 is a leap second. -/
def of? (hour minute second nanosecond : Nat) : Option TimeOfDay :=
  if hour < 24 && minute < 60 && nanosecond < 1000000000 then
    let (second, nanosecond) :=
      if second = 60 then (59, nanosecond + 1000000000) else (second, nanosecond)
    if second < 60 then
      let total := hour * 3600 + minute * 60 + second
      if valid : isTime total nanosecond = true then some ⟨total, nanosecond, valid⟩ else none
    else none
  else none

def hour (time : TimeOfDay) : Nat := time.second / 3600
def minute (time : TimeOfDay) : Nat := time.second / 60 % 60
def secondOfMinute (time : TimeOfDay) : Nat := time.second % 60

/-- A fraction of a second in 0, 3, 6 or 9 digits, the fewest that are exact. -/
def fractionText (nanosecond : Nat) : String :=
  if nanosecond = 0 then ""
  else if nanosecond % 1000000 = 0 then "." ++ Text.padded 3 (nanosecond / 1000000)
  else if nanosecond % 1000 = 0 then "." ++ Text.padded 6 (nanosecond / 1000)
  else "." ++ Text.padded 9 nanosecond

def text (time : TimeOfDay) : String :=
  let leap := 1000000000 ≤ time.nanosecond
  let second := if leap then time.secondOfMinute + 1 else time.secondOfMinute
  let nanosecond := if leap then time.nanosecond - 1000000000 else time.nanosecond
  Text.padded 2 time.hour ++ ":" ++ Text.padded 2 time.minute ++ ":" ++ Text.padded 2 second ++
    fractionText nanosecond

end TimeOfDay

end SensorThings
