import SensorThings.Binary64.Shortest

/-!
Decimal texts of doubles. A `Layout` holds the decisions of one written form; reading accepts a
sign, digits with an optional point and exponent, and the names of infinity and NaN in any letter
case.
-/
namespace SensorThings.Binary64

/-- How a decimal is laid out. -/
structure Layout where
  tie : Tie
  /-- Leading-digit positions that are written without an exponent; `none` means all of them. -/
  positional : Option (Int × Int)
  /-- Whether a whole number keeps `.0`. -/
  keepsPoint : Bool
  /-- The sign written before a positive exponent. -/
  positiveSign : String

private def zeros (count : Nat) : String :=
  String.ofList (List.replicate count '0')

/-- Without exponent: digits, then zeros or a point as the exponent asks. -/
private def positionalText (layout : Layout) (decimal : Decimal) : String :=
  let digits := toString decimal.digits
  let ending := if layout.keepsPoint then ".0" else ""
  if 0 ≤ decimal.exponent then
    if decimal.digits = 0 then "0" ++ ending
    else digits ++ zeros decimal.exponent.toNat ++ ending
  else
    let places := (-decimal.exponent).toNat
    let padded := (zeros (places + 1 - digits.length) ++ digits).toList
    let whole := padded.length - places
    String.ofList (padded.take whole) ++ "." ++ String.ofList (padded.drop whole)

private def scientificText (layout : Layout) (decimal : Decimal) (leading : Int) : String :=
  let digits := (toString decimal.digits).toList
  let fraction := digits.drop 1
  let mantissa := String.ofList (digits.take 1) ++
    (if fraction.isEmpty then "" else "." ++ String.ofList fraction)
  let sign := if leading < 0 then "-" else layout.positiveSign
  mantissa ++ "e" ++ sign ++ toString leading.natAbs

def Layout.text (layout : Layout) (decimal : Decimal) : String :=
  let leading := decimal.exponent + ((toString decimal.digits).length - 1 : Nat)
  match layout.positional with
  | some (least, most) =>
    if decimal.digits = 0 || (least ≤ leading && leading ≤ most) then positionalText layout decimal
    else scientificText layout decimal leading
  | none => positionalText layout decimal

def Layout.write (layout : Layout) (value : Float) : String :=
  match parts value with
  | .nan => "NaN"
  | .infinite negative => if negative then "-inf" else "inf"
  | .finite negative mantissa exponent =>
    (if negative then "-" else "") ++ layout.text (shortest layout.tie mantissa exponent)

/-- Plain decimals never have an exponent, and a whole number has no point. -/
def plainLayout : Layout where
  tie := .up
  positional := none
  keepsPoint := false
  positiveSign := ""

def plainText (value : Float) : String :=
  plainLayout.write value

/-- A decimal ± `digits` · 10 ^ `exponent` as the nearest double. Outside the range of doubles the
answer is known without computing the power. -/
def ofDecimal (negative : Bool) (digits : Nat) (exponent : Int) : Float :=
  let leading := exponent + digitCount digits
  let value : Float :=
    if digits = 0 || leading < -400 then 0
    else if 400 < leading then infinity false
    else Float.ofScientific digits (exponent < 0) exponent.natAbs
  if negative then -value else value

private def digitValue (character : Char) : Nat :=
  character.toNat - '0'.toNat

def ofDigits (digits : List Char) : Nat :=
  digits.foldl (fun number character => number * 10 + digitValue character) 0

/-- An optional sign and at least one digit. -/
private def exponent? (characters : List Char) : Option Int :=
  let (negative, digits) := match characters with
    | '-' :: rest => (true, rest)
    | '+' :: rest => (false, rest)
    | _ => (false, characters)
  if digits.isEmpty || !digits.all Char.isDigit then none
  else some (if negative then -(ofDigits digits : Int) else ofDigits digits)

/-- An unsigned decimal: digits on at least one side of the point, then perhaps an exponent. -/
private def decimal? (negative : Bool) (characters : List Char) : Option Float := do
  let whole := characters.takeWhile Char.isDigit
  let afterWhole := characters.dropWhile Char.isDigit
  let (fraction, tail) := match afterWhole with
    | '.' :: rest => (rest.takeWhile Char.isDigit, rest.dropWhile Char.isDigit)
    | _ => ([], afterWhole)
  if whole.isEmpty && fraction.isEmpty then none
  else
    let exponent ← match tail with
      | [] => some 0
      | 'e' :: rest => exponent? rest
      | 'E' :: rest => exponent? rest
      | _ => none
    some (ofDecimal negative (ofDigits (whole ++ fraction)) (exponent - fraction.length))

private def special? (negative : Bool) (characters : List Char) : Option Float :=
  let name := String.ofList (characters.map Char.toLower)
  if name = "inf" || name = "infinity" then some (infinity negative)
  else if name = "nan" then some notANumber
  else none

/-- Read a double. -/
def ofText? (characters : List Char) : Option Float :=
  let (negative, unsigned) := match characters with
    | '-' :: rest => (true, rest)
    | '+' :: rest => (false, rest)
    | _ => (false, characters)
  match special? negative unsigned with
  | some value => some value
  | none => decimal? negative unsigned

def isNumeral (character : Char) : Bool :=
  character.isAlphanum || character == '+' || character == '-' || character == '.'

private theorem isNumeral_of_toLower {character : Char}
    (letter : character.toLower.isAlphanum = true) : isNumeral character = true := by
  have alphanumeric : character.isAlphanum = true := by
    by_cases capital : character.val ≥ 'A'.val ∧ character.val ≤ 'Z'.val
    · have upper : character.isUpper = true := decide_eq_true capital
      have either : (character.isUpper || character.isLower || character.isDigit) = true := by
        rw [upper, Bool.true_or, Bool.true_or]
      exact either
    · have kept : character.toLower = character := dif_neg capital
      rwa [kept] at letter
  simp [isNumeral, alphanumeric]

private theorem numerals_of_isDigit {characters : List Char}
    (digits : ∀ character ∈ characters, character.isDigit = true) :
    ∀ character ∈ characters, isNumeral character = true := by
  intro character member
  simp [isNumeral, Char.isAlphanum, digits character member]

private theorem numerals_of_special? {negative : Bool} {characters : List Char}
    (number : (special? negative characters).isSome = true) :
    characters ≠ [] ∧ ∀ character ∈ characters, isNumeral character = true := by
  have named {name : String} (same : String.ofList (characters.map Char.toLower) = name)
      (letters : name.toList.all Char.isAlphanum = true) (inhabited : name.toList ≠ []) :
      characters ≠ [] ∧ ∀ character ∈ characters, isNumeral character = true := by
    have lowered : characters.map Char.toLower = name.toList := by
      rw [← same, String.toList_ofList]
    refine ⟨fun empty => inhabited (by rw [← lowered, empty, List.map_nil]), fun character member =>
      isNumeral_of_toLower (List.all_eq_true.1 letters _ ?_)⟩
    rw [← lowered]
    exact List.mem_map_of_mem member
  simp only [special?] at number
  split at number
  next infinite =>
    rcases (Bool.or_eq_true _ _).mp infinite with same | same
    · exact named (of_decide_eq_true same) rfl (by decide)
    · exact named (of_decide_eq_true same) rfl (by decide)
  next =>
    split at number
    next same => exact named same rfl (by decide)
    next => contradiction

private theorem numerals_of_unsigned {characters rest : List Char} {negative : Bool}
    (shape : (match characters with
      | '-' :: rest => (true, rest)
      | '+' :: rest => (false, rest)
      | _ => (false, characters)) = (negative, rest))
    (numerals : ∀ character ∈ rest, isNumeral character = true) :
    ∀ character ∈ characters, isNumeral character = true := by
  split at shape
  next => exact (Prod.mk.inj shape).2 ▸ List.forall_mem_cons.2 ⟨rfl, numerals⟩
  next => exact (Prod.mk.inj shape).2 ▸ List.forall_mem_cons.2 ⟨rfl, numerals⟩
  next => exact (Prod.mk.inj shape).2 ▸ numerals

private theorem numerals_of_exponent? {characters : List Char}
    (number : (exponent? characters).isSome = true) :
    ∀ character ∈ characters, isNumeral character = true := by
  unfold exponent? at number
  split at number
  next negative digits shape =>
    refine numerals_of_unsigned shape ?_
    split at number
    next => contradiction
    next numbers =>
      rw [Bool.or_eq_true, not_or, Bool.not_eq_true', Bool.not_eq_false] at numbers
      exact numerals_of_isDigit (List.all_eq_true.1 numbers.2)

private theorem numerals_of_bind_exponent? {characters : List Char} {next : Int → Option Float}
    (number : (exponent? characters >>= next).isSome = true) :
    ∀ character ∈ characters, isNumeral character = true := by
  obtain ⟨value, read⟩ := Option.isSome_iff_exists.1 number
  obtain ⟨exponent, read, -⟩ := Option.bind_eq_some_iff.1 read
  exact numerals_of_exponent? (Option.isSome_of_eq_some read)

private theorem numerals_of_decimal? {negative : Bool} {characters : List Char}
    (number : (decimal? negative characters).isSome = true) :
    characters ≠ [] ∧ ∀ character ∈ characters, isNumeral character = true := by
  have taken (characters : List Char) :
      ∀ character ∈ characters.takeWhile Char.isDigit, isNumeral character = true :=
    numerals_of_isDigit fun character member => by
      simpa using List.all_eq_true.1 List.all_takeWhile character member
  constructor
  · rintro rfl
    contradiction
  unfold decimal? at number
  extract_lets whole afterWhole at number
  have parts : whole ++ afterWhole = characters := List.takeWhile_append_dropWhile
  have inWhole : ∀ character ∈ whole, isNumeral character = true := taken characters
  clear_value whole afterWhole
  split at number
  next fraction tail shape =>
    have inTail : ∀ character ∈ tail, isNumeral character = true := by
      split at number
      next => contradiction
      split at number
      next => exact List.forall_mem_nil _
      next rest => exact List.forall_mem_cons.2 ⟨rfl, numerals_of_bind_exponent? number⟩
      next rest => exact List.forall_mem_cons.2 ⟨rfl, numerals_of_bind_exponent? number⟩
      next => contradiction
    have inEnding : ∀ character ∈ afterWhole, isNumeral character = true := by
      split at shape
      next rest =>
        obtain ⟨rfl, rfl⟩ := Prod.mk.inj shape
        rw [List.forall_mem_cons, ← List.takeWhile_append_dropWhile (p := Char.isDigit)
          (l := rest), List.forall_mem_append]
        exact ⟨rfl, taken rest, inTail⟩
      next => exact (Prod.mk.inj shape).2 ▸ inTail
    rw [← parts, List.forall_mem_append]
    exact ⟨inWhole, inEnding⟩

theorem numerals_of_ofText? {characters : List Char} (number : (ofText? characters).isSome = true) :
    characters ≠ [] ∧ ∀ character ∈ characters, isNumeral character = true := by
  have unsigned {negative : Bool} {rest : List Char}
      (read : (match special? negative rest with
        | some value => some value
        | none => decimal? negative rest).isSome = true) :
      rest ≠ [] ∧ ∀ character ∈ rest, isNumeral character = true := by
    split at read
    next special => exact numerals_of_special? (Option.isSome_of_eq_some special)
    next => exact numerals_of_decimal? read
  unfold ofText? at number
  split at number
  next negative rest shape =>
    obtain ⟨inhabited, numerals⟩ := unsigned number
    refine ⟨?_, numerals_of_unsigned shape numerals⟩
    rintro rfl
    exact inhabited (Prod.mk.inj shape).2.symm

end SensorThings.Binary64
