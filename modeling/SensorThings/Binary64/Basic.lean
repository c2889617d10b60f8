/-!
Doubles through their bits. A finite double stands for an exact dyadic number, so comparison,
rounding and remainder are integer arithmetic; `ofDyadic` gives the double nearest to a dyadic
number, and a tie goes to the even mantissa.
-/
namespace SensorThings.Binary64

/-- What a double stands for: a finite one for ± `mantissa` · 2 ^ `exponent`. -/
inductive Parts where
  | nan
  | infinite (negative : Bool)
  | finite (negative : Bool) (mantissa : Nat) (exponent : Int)

def isNegative (value : Float) : Bool :=
  Nat.pow 2 63 ≤ value.toBits.toNat

/-- The bits without the sign. Among doubles of one sign they order as the values do. -/
def magnitude (value : Float) : Nat :=
  value.toBits.toNat % Nat.pow 2 63

def infinityBits : Nat := 2047 * Nat.pow 2 52

def isNaN (value : Float) : Bool :=
  infinityBits < magnitude value

def isFinite (value : Float) : Bool :=
  magnitude value < infinityBits

def parts (value : Float) : Parts :=
  let negative := isNegative value
  let biased : Nat := magnitude value / Nat.pow 2 52
  let fraction := magnitude value % Nat.pow 2 52
  if biased = 2047 then
    if fraction = 0 then .infinite negative else .nan
  else if biased = 0 then .finite negative fraction (-1074)
  else .finite negative (fraction + Nat.pow 2 52) ((biased : Int) - 1075)

/-- Position on the number line: both zeros lie at 0. -/
def numericKey (value : Float) : Int :=
  if isNegative value then -(magnitude value : Int) else magnitude value

/-- Position in the total order: -0.0 lies just below 0.0, and NaN beyond the infinities. -/
def totalKey (value : Float) : Int :=
  if isNegative value then -(magnitude value : Int) - 1 else magnitude value

/-- Comparison of values. A NaN compares with nothing. -/
def compare? (left right : Float) : Option Ordering :=
  if isNaN left || isNaN right then none
  else some (compare (numericKey left) (numericKey right))

def totalCompare (left right : Float) : Ordering :=
  compare (totalKey left) (totalKey right)

/-- Equality of values: the zeros are equal, and a NaN is equal to nothing. -/
def same (left right : Float) : Bool :=
  compare? left right == some .eq

/-- The multiple of 2 ^ `shift` nearest to `value`, divided by 2 ^ `shift`; a tie goes to even. -/
def shiftNearest (value shift : Nat) : Nat :=
  let divisor := Nat.pow 2 shift
  let quotient := value / divisor
  let twice := 2 * (value % divisor)
  if divisor < twice || (twice == divisor && quotient % 2 == 1) then quotient + 1 else quotient

/-- The magnitude bits of the double nearest to `mantissa` · 2 ^ `exponent`. A mantissa that rounds
up to the next power of two carries into the exponent field, which is the right double. -/
def nearestBits (mantissa : Nat) (exponent : Int) : Nat :=
  if mantissa = 0 then 0
  else
    let unit := max (exponent + mantissa.log2 - 52) (-1074)
    let kept :=
      if exponent ≤ unit then shiftNearest mantissa (unit - exponent).toNat
      else mantissa * Nat.pow 2 (exponent - unit).toNat
    min ((unit + 1074).toNat * Nat.pow 2 52 + kept) infinityBits

/-- The double nearest to ± `mantissa` · 2 ^ `exponent`. -/
def ofDyadic (negative : Bool) (mantissa : Nat) (exponent : Int) : Float :=
  let sign := if negative then Nat.pow 2 63 else 0
  Float.ofBits (UInt64.ofNat (sign + nearestBits mantissa exponent))

def ofInt (value : Int) : Float :=
  ofDyadic (value < 0) value.natAbs 0

def notANumber : Float := Float.ofBits 0x7FF8000000000000

def infinity (negative : Bool) : Float :=
  Float.ofBits (if negative then 0xFFF0000000000000 else 0x7FF0000000000000)

end SensorThings.Binary64
