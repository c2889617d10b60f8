import SensorThings.Binary64.Basic

/-!
The shortest decimal that reads back as a double. Candidates are the two neighbours of the value on
the grids of 1, 2, … 17 digits; the first grid with a neighbour inside the rounding interval gives
the number of digits, the nearer neighbour the digits.
-/
namespace SensorThings.Binary64

/-- Which of two equally near decimals is taken. -/
inductive Tie where
  | toEven
  | up

/-- The number `digits` · 10 ^ `exponent`. -/
structure Decimal where
  digits : Nat
  exponent : Int
deriving DecidableEq, Repr

/-- A quotient of naturals together with the bounds of its rounding interval, over one common
denominator. -/
structure Interval where
  low : Nat
  value : Nat
  high : Nat
  denominator : Nat
  closed : Bool

/-- The reals that round to ± `mantissa` · 2 ^ `exponent`. Below a power of two the neighbours are
closer, and the ends belong to the interval exactly when the mantissa is even. -/
def roundingInterval (mantissa : Nat) (exponent : Int) : Interval :=
  let below := if mantissa = Nat.pow 2 52 && -1074 < exponent then 1 else 2
  let scale := Nat.pow 2 exponent.toNat
  { low := (4 * mantissa - below) * scale
    value := 4 * mantissa * scale
    high := (4 * mantissa + 2) * scale
    denominator := 4 * Nat.pow 2 (-exponent).toNat
    closed := mantissa % 2 == 0 }

def Interval.contains (interval : Interval) (numerator : Nat) : Bool :=
  if interval.closed then interval.low ≤ numerator && numerator ≤ interval.high
  else interval.low < numerator && numerator < interval.high

/-- The interval measured in units of 10 ^ `exponent`. -/
def Interval.inUnits (interval : Interval) (exponent : Int) : Interval :=
  let up := Nat.pow 10 (-exponent).toNat
  { interval with
    low := interval.low * up
    value := interval.value * up
    high := interval.high * up
    denominator := interval.denominator * Nat.pow 10 exponent.toNat }

/-- The multiple of 10 ^ `exponent` in the interval that is nearest to the value. -/
def Interval.onGrid? (interval : Interval) (tie : Tie) (exponent : Int) : Option Nat :=
  let scaled := interval.inUnits exponent
  let down := scaled.value / scaled.denominator
  let rest := scaled.value % scaled.denominator
  let below := scaled.contains (down * scaled.denominator)
  let above := scaled.contains ((down + 1) * scaled.denominator)
  if below && above then
    if 2 * rest < scaled.denominator then some down
    else if scaled.denominator < 2 * rest then some (down + 1)
    else match tie with
      | .toEven => some (if down % 2 = 0 then down else down + 1)
      | .up => some (down + 1)
  else if below then some down
  else if above then some (down + 1)
  else none

/-- Number of decimal digits; 0 has none. -/
def digitCount (value : Nat) : Nat :=
  if value = 0 then 0 else (Nat.toDigits 10 value).length

/-- Position of the leading digit: the value lies in [10 ^ e, 10 ^ (e + 1)). -/
def leadingExponent (interval : Interval) : Int :=
  let whole := interval.value / interval.denominator
  if 0 < whole then digitCount whole - 1
  else
    let guess : Nat := digitCount (interval.denominator / interval.value)
    if interval.denominator ≤ interval.value * Nat.pow 10 (guess - 1) then 1 - (guess : Int)
    else -(guess : Int)

def firstGrid (interval : Interval) (tie : Tie) (leading : Int) : Nat → Nat → Option Decimal
  | _, 0 => none
  | digits, more + 1 =>
    let exponent := leading - digits
    match interval.onGrid? tie exponent with
    | some found => some ⟨found, exponent⟩
    | none => firstGrid interval tie leading (digits + 1) more

/-- Drop trailing zeros; at most 17 can stand there. -/
def Decimal.normal (decimal : Decimal) : Nat → Decimal
  | 0 => decimal
  | more + 1 =>
    if decimal.digits != 0 && decimal.digits % 10 == 0 then
      Decimal.normal ⟨decimal.digits / 10, decimal.exponent + 1⟩ more
    else decimal

/-- The shortest decimal for `mantissa` · 2 ^ `exponent`. -/
def shortest (tie : Tie) (mantissa : Nat) (exponent : Int) : Decimal :=
  if mantissa = 0 then ⟨0, 0⟩
  else
    let interval := roundingInterval mantissa exponent
    match firstGrid interval tie (leadingExponent interval) 0 17 with
    | some decimal => decimal.normal 17
    | none => ⟨0, 0⟩

end SensorThings.Binary64
