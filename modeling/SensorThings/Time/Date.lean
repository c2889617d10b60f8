import SensorThings.Text.Integer

/-!
Calendar dates of the proleptic Gregorian calendar. A date keeps its year, month and day, so that
writing and reading need no day count; only the step to a neighbouring day looks at month lengths.
-/
namespace SensorThings

namespace Calendar

def isLeap (year : Int) : Bool :=
  year % 4 == 0 && (year % 100 != 0 || year % 400 == 0)

def monthLength (year : Int) (month : Nat) : Nat :=
  if month = 2 then (if isLeap year then 29 else 28)
  else if month = 4 || month = 6 || month = 9 || month = 11 then 30
  else 31

def firstYear : Int := -262143
def lastYear : Int := 262142

def isDate (year : Int) (month day : Nat) : Bool :=
  firstYear ≤ year && year ≤ lastYear && 1 ≤ month && month ≤ 12 &&
    1 ≤ day && day ≤ monthLength year month

end Calendar

structure Date where
  year : Int
  month : Nat
  day : Nat
  valid : Calendar.isDate year month day = true
deriving DecidableEq

namespace Date

def of? (year : Int) (month day : Nat) : Option Date :=
  if valid : Calendar.isDate year month day = true then some ⟨year, month, day, valid⟩ else none

instance : Ord Date where
  compare := compareLex (compareOn Date.year)
    (compareLex (compareOn Date.month) (compareOn Date.day))

instance : Std.TransOrd Date :=
  inferInstanceAs (Std.TransCmp (compareLex _ (compareLex _ _)))

instance : Inhabited Date := ⟨⟨1970, 1, 1, by decide⟩⟩

def first : Date := ⟨Calendar.firstYear, 1, 1, by decide⟩
def last : Date := ⟨Calendar.lastYear, 12, 31, by decide⟩

/-- The day after; the last date has none. -/
def next? (date : Date) : Option Date :=
  if date.day < Calendar.monthLength date.year date.month then
    of? date.year date.month (date.day + 1)
  else if date.month < 12 then of? date.year (date.month + 1) 1
  else of? (date.year + 1) 1 1

/-- The day before; the first date has none. -/
def previous? (date : Date) : Option Date :=
  if 1 < date.day then of? date.year date.month (date.day - 1)
  else if 1 < date.month then
    of? date.year (date.month - 1) (Calendar.monthLength date.year (date.month - 1))
  else of? (date.year - 1) 12 31

/-- Years 0 to 9999 have four digits; others have a sign and at least four. -/
def yearText (year : Int) : String :=
  if 0 ≤ year && year ≤ 9999 then Text.padded 4 year.natAbs
  else (if year < 0 then "-" else "+") ++ Text.padded 4 year.natAbs

def text (date : Date) : String :=
  yearText date.year ++ "-" ++ Text.padded 2 date.month ++ "-" ++ Text.padded 2 date.day

end Date

end SensorThings
