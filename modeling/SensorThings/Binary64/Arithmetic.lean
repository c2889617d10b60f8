import SensorThings.Binary64.Basic

/-!
Operations on doubles whose exact result is a dyadic number or the root of one: rounding to
integers, the truncated remainder, and the length of a vector.
-/
namespace SensorThings.Binary64

/-- Round to an integer: `up` decides from the sign, twice the remainder and the divisor whether the
magnitude grows. The sign is kept, also of a zero. -/
private def toInteger (up : Bool → Nat → Nat → Bool) (value : Float) : Float :=
  match parts value with
  | .finite negative mantissa exponent =>
    if 0 ≤ exponent then value
    else
      let divisor := Nat.pow 2 (-exponent).toNat
      let quotient := mantissa / divisor
      let twice := 2 * (mantissa % divisor)
      ofDyadic negative (if up negative twice divisor then quotient + 1 else quotient) 0
  | _ => value

def floor (value : Float) : Float :=
  toInteger (fun negative twice _ => negative && 0 < twice) value

def ceiling (value : Float) : Float :=
  toInteger (fun negative twice _ => !negative && 0 < twice) value

/-- Nearest integer, a half away from zero. -/
def round (value : Float) : Float :=
  toInteger (fun _ twice divisor => divisor ≤ twice) value

/-- Remainder of the division that truncates toward zero, with the dividend's sign. -/
def remainder (dividend divisor : Float) : Float :=
  match parts dividend, parts divisor with
  | .finite negative mantissa exponent, .finite _ divisorMantissa divisorExponent =>
    if divisorMantissa = 0 then notANumber
    else
      let unit := min exponent divisorExponent
      let scaled := mantissa * Nat.pow 2 (exponent - unit).toNat
      let scaledDivisor := divisorMantissa * Nat.pow 2 (divisorExponent - unit).toNat
      ofDyadic negative (scaled % scaledDivisor) unit
  | .finite .., .infinite _ => dividend
  | _, _ => notANumber

/-- The value rounded toward zero to a natural number; negative values and NaN give 0. -/
def toNat (value : Float) : Nat :=
  match parts value with
  | .finite false mantissa exponent =>
    if 0 ≤ exponent then mantissa * Nat.pow 2 exponent.toNat
    else mantissa / Nat.pow 2 (-exponent).toNat
  | .infinite false => Nat.pow 2 64 - 1
  | _ => 0

/-- The double nearest to the square root of `mantissa` · 4 ^ `half`. Beyond the first 64 bits of
the root only whether it is exact matters, which one further bit records. -/
private def rootNearest (mantissa : Nat) (half : Int) : Float :=
  let extra : Nat := 64
  let scaled := mantissa * Nat.pow 4 extra
  let root := Nat.sqrt scaled
  let inexact := if root * root = scaled then 0 else 1
  ofDyadic false (2 * root + inexact) (half - extra - 1)

/-- Length of the vector (`x`, `y`), rounded once. An infinite part gives infinity even beside a
NaN. -/
def hypotenuse (x y : Float) : Float :=
  match parts x, parts y with
  | .infinite _, _ => infinity false
  | _, .infinite _ => infinity false
  | .finite _ mantissa exponent, .finite _ otherMantissa otherExponent =>
    let unit := min exponent otherExponent
    let width := mantissa * Nat.pow 2 (exponent - unit).toNat
    let height := otherMantissa * Nat.pow 2 (otherExponent - unit).toNat
    rootNearest (width * width + height * height) unit
  | _, _ => notANumber

end SensorThings.Binary64
