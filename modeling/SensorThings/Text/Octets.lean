import SensorThings.Text.Integer

/-!
Octets in texts: escapes of one octet each, and the characters that octets spell in UTF-8.
-/
namespace SensorThings.Text

/-- The octet that three characters stand for, if they are an escape. -/
def escape? (first second third : Char) : Option UInt8 :=
  if first = '%' then do
    let high ← hexValue? second
    let low ← hexValue? third
    return UInt8.ofNat (16 * high + low)
  else none

/-- The octets of a text. What is not an escape stands for itself. -/
def octets : List Char → List UInt8
  | first :: second :: third :: rest =>
    match escape? first second third with
    | some octet => octet :: octets rest
    | none => String.utf8EncodeChar first ++ octets (second :: third :: rest)
  | first :: rest => String.utf8EncodeChar first ++ octets rest
  | [] => []

/-- The octets that may follow the first octet of a character, as ranges. -/
def continuations (first : UInt8) : List (UInt8 × UInt8) :=
  if 0xC2 ≤ first && first ≤ 0xDF then [(0x80, 0xBF)]
  else if first = 0xE0 then [(0xA0, 0xBF), (0x80, 0xBF)]
  else if first = 0xED then [(0x80, 0x9F), (0x80, 0xBF)]
  else if 0xE1 ≤ first && first ≤ 0xEF then [(0x80, 0xBF), (0x80, 0xBF)]
  else if first = 0xF0 then [(0x90, 0xBF), (0x80, 0xBF), (0x80, 0xBF)]
  else if first = 0xF4 then [(0x80, 0x8F), (0x80, 0xBF), (0x80, 0xBF)]
  else if 0xF1 ≤ first && first ≤ 0xF3 then [(0x80, 0xBF), (0x80, 0xBF), (0x80, 0xBF)]
  else []

def countInside : List (UInt8 × UInt8) → List UInt8 → Nat
  | (low, high) :: ranges, octet :: rest =>
    if low ≤ octet && octet ≤ high then countInside ranges rest + 1 else 0
  | _, _ => 0

/-- The characters that octets spell. A character that breaks off is replaced. -/
def ofOctets : List UInt8 → List Char
  | [] => []
  | first :: rest =>
    match (first :: rest).toByteArray.utf8DecodeChar? 0 with
    | some character => character :: ofOctets (rest.drop (character.utf8Size - 1))
    | none => '\uFFFD' :: ofOctets (rest.drop (countInside (continuations first) rest))
termination_by octets => octets.length
decreasing_by all_goals simp only [List.length_drop, List.length_cons]; omega

/-- The text that octets spell, if they are nothing but characters. -/
def ofOctets? (octets : List UInt8) : Option (List Char) :=
  octets.toByteArray.utf8Decode?.map Array.toList

end SensorThings.Text
