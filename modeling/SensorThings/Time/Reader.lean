import SensorThings.Time.Instant
import SensorThings.Text.Blank

/-!
Reading instants. Three forms are tried in turn: a date and time with zone in fixed widths, a date
and time without zone, and a bare date; the last two allow white space and one digit where numbers
stand. Stored times and client patches use a lenient form with a zone.
-/
namespace SensorThings.Time

/-- A reading step: a value and the characters after it. -/
abbrev Step (α : Type) := List Char → Option (α × List Char)

/-- At least `least` and at most `most` decimal digits. -/
def digits (least most : Nat) : Step Nat := fun characters =>
  let taken := (characters.take most).takeWhile Char.isDigit
  if taken.length < least then none
  else
    let value := taken.foldl (fun number digit => number * 10 + (digit.toNat - '0'.toNat)) 0
    some (value, characters.drop taken.length)

def exactly (expected : Char) : Step Unit
  | character :: rest => if character = expected then some ((), rest) else none
  | [] => none

/-- One or two digits, with white space allowed before them. -/
def shortNumber : Step Nat := fun characters =>
  digits 1 2 (Text.trimStart characters)

/-- A year of at most four digits, or of any length with a sign. -/
def signedYear : Step Int := fun characters =>
  match Text.trimStart characters with
  | '-' :: rest => (digits 1 rest.length rest).map fun (year, rest) => (-(year : Int), rest)
  | '+' :: rest => (digits 1 rest.length rest).map fun (year, rest) => ((year : Int), rest)
  | rest => (digits 1 4 rest).map fun (year, rest) => ((year : Int), rest)

/-- An optional fraction in nanoseconds; digits after the ninth are dropped. -/
def fraction : Step Nat
  | '.' :: rest =>
    let taken := rest.takeWhile Char.isDigit
    if taken.isEmpty then none
    else
      let nine := (taken.take 9) ++ List.replicate (9 - taken.length) '0'
      (digits 9 9 nine).map fun (value, _) => (value, rest.drop taken.length)
  | rest => some (0, rest)

/-- Hours and minutes of a zone offset after the sign; `separator` skips what may stand between. -/
def offsetDigits (separator : List Char → Option (List Char)) (sign : Int) : Step Int :=
  fun characters => do
    let (hours, rest) ← digits 2 2 characters
    let rest ← separator rest
    let (minutes, rest) ← digits 2 2 rest
    if hours < 24 && minutes < 60 then
      some (sign * ((hours * 60 + minutes) * 60 : Nat), rest)
    else none

/-- `Z`, or a signed offset; the sign may be the minus sign U+2212. -/
def zone (separator : List Char → Option (List Char)) : Step Int
  | 'Z' :: rest => some (0, rest)
  | 'z' :: rest => some (0, rest)
  | '+' :: rest => offsetDigits separator 1 rest
  | '-' :: rest => offsetDigits separator (-1) rest
  | '−' :: rest => offsetDigits separator (-1) rest
  | _ => none

/-- A date and a time of day are parted by a `T`, a `t` or a space. -/
def divider : Step Unit
  | 'T' :: rest => some ((), rest)
  | 't' :: rest => some ((), rest)
  | ' ' :: rest => some ((), rest)
  | _ => none

def ended {α : Type} : Option (α × List Char) → Option α
  | some (value, []) => some value
  | _ => none

/-- Fixed widths and a zone, as in `2024-01-15T12:00:00.5+01:00`. -/
def zoned? (characters : List Char) : Option Instant := ended do
  let (year, rest) ← digits 4 4 characters
  let (_, rest) ← exactly '-' rest
  let (month, rest) ← digits 2 2 rest
  let (_, rest) ← exactly '-' rest
  let (day, rest) ← digits 2 2 rest
  let (_, rest) ← divider rest
  let (hour, rest) ← digits 2 2 rest
  let (_, rest) ← exactly ':' rest
  let (minute, rest) ← digits 2 2 rest
  let (_, rest) ← exactly ':' rest
  let (second, rest) ← digits 2 2 rest
  let (nanosecond, rest) ← fraction rest
  let (offset, rest) ← zone (fun rest => (exactly ':' rest).map Prod.snd) rest
  let date ← Date.of? year month day
  let time ← TimeOfDay.of? hour minute second nanosecond
  some (← Instant.ofLocal? date time offset, rest)

/-- A date whose numbers may have white space before them. -/
def dateStep : Step Date := fun characters => do
  let (year, rest) ← signedYear characters
  let (_, rest) ← exactly '-' rest
  let (month, rest) ← shortNumber rest
  let (_, rest) ← exactly '-' rest
  let (day, rest) ← shortNumber rest
  some (← Date.of? year month day, rest)

/-- A clock reading whose numbers may have white space before them. -/
def timeStep : Step TimeOfDay := fun characters => do
  let (hour, rest) ← shortNumber characters
  let (_, rest) ← exactly ':' rest
  let (minute, rest) ← shortNumber rest
  let (_, rest) ← exactly ':' rest
  let (second, rest) ← shortNumber rest
  let (nanosecond, rest) ← fraction rest
  some (← TimeOfDay.of? hour minute second nanosecond, rest)

def date? (characters : List Char) : Option Date :=
  ended (dateStep characters)

def timeOfDay? (characters : List Char) : Option TimeOfDay :=
  ended (timeStep characters)

/-- Date and time in universal time without a zone. -/
def unzoned? (characters : List Char) : Option Instant := ended do
  let (date, rest) ← dateStep characters
  let (_, rest) ← exactly 'T' rest
  let (time, rest) ← timeStep rest
  some (⟨date, time⟩, rest)

/-- White space may stand around every number and sign, and the zone may be `UTC` or have no colon.
-/
def lenient? (characters : List Char) : Option Instant := ended do
  let blankThen (expected : Char) : Step Unit := fun rest => exactly expected (Text.trimStart rest)
  let (year, rest) ← signedYear characters
  let (_, rest) ← blankThen '-' rest
  let (month, rest) ← shortNumber rest
  let (_, rest) ← blankThen '-' rest
  let (day, rest) ← shortNumber rest
  let (_, rest) ← divider rest
  let (hour, rest) ← shortNumber rest
  let (_, rest) ← blankThen ':' rest
  let (minute, rest) ← shortNumber rest
  let (_, rest) ← blankThen ':' rest
  let (second, rest) ← shortNumber rest
  let (nanosecond, rest) ← fraction rest
  let rest := Text.trimStart rest
  let (offset, rest) ←
    if String.ofList ((rest.take 3).map Char.toUpper) = "UTC" then some (0, rest.drop 3)
    else zone (fun rest => some (rest.dropWhile fun c => c == ':' || Text.isBlank c)) rest
  let date ← Date.of? year month day
  let time ← TimeOfDay.of? hour minute second nanosecond
  some (← Instant.ofLocal? date time offset, Text.trimStart rest)

end Time

/-- Read an instant in any of the three forms, without surrounding white space. -/
def Instant.ofText? (text : String) : Option Instant :=
  let characters := Text.trim text.toList
  match Time.zoned? characters with
  | some instant => some instant
  | none =>
    match Time.unzoned? characters with
    | some instant => some instant
    | none => (Time.date? characters).map fun date => ⟨date, TimeOfDay.midnight⟩

end SensorThings
