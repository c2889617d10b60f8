import SensorThings.Json.Basic
import SensorThings.Binary64.Text

/-!
JSON text: compact, members in key order, and only the quote, the backslash and control characters
escaped.
-/
namespace SensorThings.Json

/-- Doubles keep a point or an exponent; between 10⁻⁵ and 10¹⁶ they have no exponent. -/
def numberLayout : Binary64.Layout where
  tie := .toEven
  positional := some (-5, 15)
  keepsPoint := true
  positiveSign := "+"

private def hexDigit (value : Nat) : Char :=
  Char.ofNat (if value < 10 then '0'.toNat + value else 'a'.toNat + (value - 10))

def escaped (character : Char) : List Char :=
  match character with
  | '"' => ['\\', '"']
  | '\\' => ['\\', '\\']
  | '\n' => ['\\', 'n']
  | '\r' => ['\\', 'r']
  | '\t' => ['\\', 't']
  | _ =>
    let code := character.toNat
    if code = 8 then ['\\', 'b']
    else if code = 12 then ['\\', 'f']
    else if code < 0x20 then ['\\', 'u', '0', '0', hexDigit (code / 16), hexDigit (code % 16)]
    else [character]

def quoted (text : String) : String :=
  "\"" ++ String.ofList (text.toList.flatMap escaped) ++ "\""

/-- Infinities and NaN have no JSON number and become null. -/
def floatText (value : Float) : String :=
  if Binary64.isFinite value then numberLayout.write value else "null"

mutual

def text : Json → String
  | .null => "null"
  | .bool true => "true"
  | .bool false => "false"
  | .int value => toString value
  | .float value => floatText value
  | .string content => quoted content
  | .array items => "[" ++ itemsText items ++ "]"
  | .object members => "\x7b" ++ membersText members ++ "\x7d"

def itemsText : List Json → String
  | [] => ""
  | [item] => text item
  | item :: next :: rest => text item ++ "," ++ itemsText (next :: rest)

def membersText : List (String × Json) → String
  | [] => ""
  | [(key, value)] => quoted key ++ ":" ++ text value
  | (key, value) :: next :: rest =>
    quoted key ++ ":" ++ text value ++ "," ++ membersText (next :: rest)

end

end SensorThings.Json
