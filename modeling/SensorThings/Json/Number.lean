import SensorThings.Json.Basic
import SensorThings.Binary64.Text
import SensorThings.Text.Integer

/-!
Numbers in JSON text. A literal without point and exponent is an integer while it fits 64 bits. Any
other is read as its leading digits, as many as fit 64 bits, scaled by a power of ten in double
arithmetic; a number beyond the doubles is refused.
-/
namespace SensorThings.Json

/-- Leading digits of a number as far as 64 bits hold them, and the power of ten they stand for. -/
structure Significand where
  value : Nat
  exponent : Int

private def digitOf (character : Char) : Nat :=
  character.toNat - '0'.toNat

/-- Digits before the point: the first that no longer fits and all after it only raise the
exponent. -/
def wholeDigits : Significand → List Char → Significand
  | significand, [] => significand
  | significand, digit :: rest =>
    let next := significand.value * 10 + digitOf digit
    if next ≤ Text.maxUnsigned then wholeDigits ⟨next, 0⟩ rest
    else ⟨significand.value, significand.exponent + (rest.length + 1)⟩

/-- Digits after the point: the first that no longer fits and all after it are dropped. -/
def fractionDigits : Significand → List Char → Significand
  | significand, [] => significand
  | significand, digit :: rest =>
    let next := significand.value * 10 + digitOf digit
    if next ≤ Text.maxUnsigned then fractionDigits ⟨next, significand.exponent - 1⟩ rest
    else significand

private def powerOfTen (exponent : Nat) : Float :=
  Float.ofScientific 1 false exponent

/-- Divide by 10 ^ 308 as often as `times` says. -/
private def shrink (value : Float) : Nat → Float
  | 0 => value
  | times + 1 => shrink (value / powerOfTen 308) times

/-- Scale by a power of ten; the result may lie beyond the doubles. After four divisions by 10 ^ 308
every significand is zero. -/
def scaled? (significand : Significand) : Option Float :=
  let value := Binary64.ofInt significand.value
  if significand.value = 0 then some value
  else if 0 ≤ significand.exponent then
    if 308 < significand.exponent then none
    else some (value * powerOfTen significand.exponent.toNat)
  else
    let down := (-significand.exponent).toNat
    let times := (down - 1) / 308
    if 4 < times then some (shrink value 4)
    else some (shrink value times / powerOfTen (down - 308 * times))

/-- A double with its sign, unless it lies beyond the doubles. -/
def signedFloat? (negative : Bool) (value : Float) : Option Json :=
  let signed := if negative then -value else value
  if Binary64.isFinite signed then some (.float signed) else none

/-- A literal without point and exponent. Minus zero is a double. -/
def wholeNumber? (negative : Bool) (digits : List Char) : Option Json :=
  let value := Binary64.ofDigits digits
  if negative then
    if 0 < value && value ≤ Nat.pow 2 63 then some (.int (-(value : Int)))
    else (scaled? (wholeDigits ⟨0, 0⟩ digits)).bind (signedFloat? true)
  else if value ≤ Text.maxUnsigned then some (.int value)
  else (scaled? (wholeDigits ⟨0, 0⟩ digits)).bind (signedFloat? false)

/-- The digits of an exponent with an optional sign, and what follows. -/
private def exponentPart? (characters : List Char) : Option (Int × List Char) :=
  let (negative, unsigned) := match characters with
    | '-' :: rest => (true, rest)
    | '+' :: rest => (false, rest)
    | _ => (false, characters)
  let digits := unsigned.takeWhile Char.isDigit
  if digits.isEmpty then none
  else
    let value : Int := Binary64.ofDigits digits
    some (if negative then -value else value, unsigned.dropWhile Char.isDigit)

def scaledNumber? (negative : Bool) (significand : Significand) (characters : List Char) :
    Option (Json × List Char) := do
  let (exponent, rest) ← exponentPart? characters
  let value ← scaled? { significand with exponent := significand.exponent + exponent }
  some (← signedFloat? negative value, rest)

/-- The rest of a number after its digits; only one without point and exponent is `plain`. -/
def numberEnd? (negative plain : Bool) (whole : List Char) (significand : Significand) :
    List Char → Option (Json × List Char)
  | 'e' :: rest => scaledNumber? negative significand rest
  | 'E' :: rest => scaledNumber? negative significand rest
  | rest =>
    if plain then (wholeNumber? negative whole).map fun value => (value, rest)
    else ((scaled? significand).bind (signedFloat? negative)).map fun value => (value, rest)

/-- A number after its sign. A zero is followed by no further digit, and a point by at least one. -/
def unsignedNumber? (negative : Bool) (characters : List Char) : Option (Json × List Char) :=
  let whole := characters.takeWhile Char.isDigit
  if whole.isEmpty || (whole.head? == some '0' && whole.length != 1) then none
  else
    let start := wholeDigits ⟨0, 0⟩ whole
    match characters.dropWhile Char.isDigit with
    | '.' :: rest =>
      let fraction := rest.takeWhile Char.isDigit
      if fraction.isEmpty then none
      else
        numberEnd? negative false whole (fractionDigits start fraction)
          (rest.dropWhile Char.isDigit)
    | rest => numberEnd? negative true whole start rest

def number? : List Char → Option (Json × List Char)
  | '-' :: rest => unsignedNumber? true rest
  | characters => unsignedNumber? false characters

end SensorThings.Json
