import SensorThings.Time.Reader
import SensorThings.Text.Split

/-!
Closed intervals of time, and times that are an instant or an interval. An interval never ends
before it starts; the union of two is the smallest interval that covers both.
-/
namespace SensorThings

/-- Why a text is not a time. -/
inductive TimeFault where
  | malformed (text : String)
  | inverted (start stop : Instant)

def TimeFault.message : TimeFault → String
  | malformed text => "Invalid time format: " ++ text
  | inverted start stop => "Interval end precedes start: " ++ start.text ++ "/" ++ stop.text

structure Interval where
  start : Instant
  stop : Instant
  ordered : Instant.isBefore stop start = false
deriving DecidableEq

namespace Interval

def make (start stop : Instant) : Except TimeFault Interval :=
  if ordered : Instant.isBefore stop start = false then .ok ⟨start, stop, ordered⟩
  else .error (.inverted start stop)

def point (instant : Instant) : Interval :=
  ⟨instant, instant, Instant.isBefore_self instant⟩

def union (left right : Interval) : Interval where
  start := Instant.earlier left.start right.start
  stop := Instant.later left.stop right.stop
  ordered := by
    exact Instant.not_isBefore_trans (Instant.not_isBefore_later_left ..)
      (Instant.not_isBefore_trans left.ordered (Instant.not_isBefore_earlier_left ..))

def contains (interval : Interval) (instant : Instant) : Bool :=
  !Instant.isBefore instant interval.start && !Instant.isBefore interval.stop instant

def text (interval : Interval) : String :=
  interval.start.text ++ "/" ++ interval.stop.text

end Interval

def Instant.ofText (text : String) : Except TimeFault Instant :=
  match Instant.ofText? text with
  | some instant => .ok instant
  | none => .error (.malformed (Text.trimmed text))

/-- Read `start/end`. -/
def Interval.ofText (text : String) : Except TimeFault Interval := do
  match Text.splitFirst '/' text.toList with
  | none => .error (.malformed text)
  | some (start, stop) =>
    let start ← Instant.ofText (String.ofList start)
    let stop ← Instant.ofText (String.ofList stop)
    Interval.make start stop

/-- A time such as that of an observed phenomenon. -/
inductive TimeSpan where
  | instant (time : Instant)
  | interval (span : Interval)
deriving DecidableEq

namespace TimeSpan

def start : TimeSpan → Instant
  | instant time => time
  | interval span => span.start

def stop : TimeSpan → Instant
  | instant time => time
  | interval span => span.stop

def toInterval : TimeSpan → Interval
  | instant time => Interval.point time
  | interval span => span

def text : TimeSpan → String
  | instant time => time.text
  | interval span => span.text

def ofText (text : String) : Except TimeFault TimeSpan :=
  if text.toList.contains '/' then return .interval (← Interval.ofText text)
  else return .instant (← Instant.ofText text)

end TimeSpan

end SensorThings
