/-!
Integers in texts: an optional sign and decimal digits, accepted only inside a range.
-/
namespace SensorThings.Text

/-- Decimal digits alone, at least one. -/
def natural? (characters : List Char) : Option Nat :=
  if characters.isEmpty || !characters.all Char.isDigit then none
  else some (characters.foldl (fun number digit => number * 10 + (digit.toNat - '0'.toNat)) 0)

def hexValue? (character : Char) : Option Nat :=
  let code := character.toNat
  if '0' ≤ character && character ≤ '9' then some (code - '0'.toNat)
  else if 'a' ≤ character && character ≤ 'f' then some (code - 'a'.toNat + 10)
  else if 'A' ≤ character && character ≤ 'F' then some (code - 'A'.toNat + 10)
  else none

/-- The largest unsigned 64-bit number. -/
def maxUnsigned : Nat := Nat.pow 2 64 - 1

/-- An unsigned 64-bit number; a plus sign may stand before it. -/
def unsigned? (characters : List Char) : Option Nat := do
  let digits := match characters with
    | '+' :: rest => rest
    | _ => characters
  let value ← natural? digits
  if value ≤ maxUnsigned then some value else none

/-- The range of signed 64-bit numbers. -/
def fitsSigned (value : Int) : Bool :=
  -(Nat.pow 2 63) ≤ value && value < Nat.pow 2 63

/-- A signed 64-bit number. -/
def signed? (characters : List Char) : Option Int := do
  let value ← match characters with
    | '-' :: rest => (natural? rest).map fun magnitude => -(magnitude : Int)
    | '+' :: rest => (natural? rest).map Int.ofNat
    | _ => (natural? characters).map Int.ofNat
  if fitsSigned value then some value else none

/-- Decimal digits padded with zeros on the left to at least `width` characters. -/
def padded (width value : Nat) : String :=
  let digits := toString value
  String.ofList (List.replicate (width - digits.length) '0') ++ digits

end SensorThings.Text
