import SensorThings.Json.Number

/-!
Reading JSON text. Each step consumes characters, so the length of the text bounds the work;
containers may nest at most 127 deep.
-/
namespace SensorThings.Json

def skipSpace (characters : List Char) : List Char :=
  characters.dropWhile fun character =>
    character == ' ' || character == '\n' || character == '\t' || character == '\r'

private def hexUnit? : List Char → Option (Nat × List Char)
  | a :: b :: c :: d :: rest => do
    let a ← Text.hexValue? a
    let b ← Text.hexValue? b
    let c ← Text.hexValue? c
    let d ← Text.hexValue? d
    some (((a * 16 + b) * 16 + c) * 16 + d, rest)
  | _ => none

/-- The character of a `\u` escape. A high surrogate needs a low one in the next escape, and a low
one cannot stand first. -/
private def unicodeEscape? (characters : List Char) : Option (Char × List Char) := do
  let (unit, rest) ← hexUnit? characters
  if 0xDC00 ≤ unit && unit ≤ 0xDFFF then none
  else if 0xD800 ≤ unit && unit ≤ 0xDBFF then
    match rest with
    | '\\' :: 'u' :: rest =>
      let (low, rest) ← hexUnit? rest
      if 0xDC00 ≤ low && low ≤ 0xDFFF then
        some (Char.ofNat (0x10000 + (unit - 0xD800) * 0x400 + (low - 0xDC00)), rest)
      else none
    | _ => none
  else some (Char.ofNat unit, rest)

/-- The content of a string up to its closing quote; `content` is what has been read, last character
first. -/
def stringBody (content : List Char) : Nat → List Char → Option (String × List Char)
  | 0, _ => none
  | _, [] => none
  | fuel + 1, character :: rest =>
    if character = '"' then some (String.ofList content.reverse, rest)
    else if character = '\\' then
      match rest with
      | '"' :: rest => stringBody ('"' :: content) fuel rest
      | '\\' :: rest => stringBody ('\\' :: content) fuel rest
      | '/' :: rest => stringBody ('/' :: content) fuel rest
      | 'b' :: rest => stringBody (Char.ofNat 8 :: content) fuel rest
      | 'f' :: rest => stringBody (Char.ofNat 12 :: content) fuel rest
      | 'n' :: rest => stringBody ('\n' :: content) fuel rest
      | 'r' :: rest => stringBody ('\r' :: content) fuel rest
      | 't' :: rest => stringBody ('\t' :: content) fuel rest
      | 'u' :: rest =>
        match unicodeEscape? rest with
        | some (decoded, rest) => stringBody (decoded :: content) fuel rest
        | none => none
      | _ => none
    else if character.toNat < 0x20 then none
    else stringBody (character :: content) fuel rest

/-- The member list of an object as an object: a later value of a key replaces an earlier one. -/
def objectOf (reversed : List (String × Json)) : Json :=
  ofMembers reversed.reverse

mutual

/-- One value from the front of a text; `depth` containers may still be opened. -/
def readValue (depth : Nat) : Nat → List Char → Option (Json × List Char)
  | 0, _ => none
  | fuel + 1, characters =>
    match skipSpace characters with
    | 'n' :: 'u' :: 'l' :: 'l' :: rest => some (.null, rest)
    | 't' :: 'r' :: 'u' :: 'e' :: rest => some (.bool true, rest)
    | 'f' :: 'a' :: 'l' :: 's' :: 'e' :: rest => some (.bool false, rest)
    | '"' :: rest =>
      (stringBody [] (rest.length + 1) rest).map fun (text, rest) => (.string text, rest)
    | '[' :: rest =>
      match depth with
      | 0 => none
      | depth + 1 =>
        match skipSpace rest with
        | ']' :: rest => some (.array [], rest)
        | rest => readItems depth [] fuel rest
    | '\x7b' :: rest =>
      match depth with
      | 0 => none
      | depth + 1 =>
        match skipSpace rest with
        | '\x7d' :: rest => some (.object [], rest)
        | rest => readMembers depth [] fuel rest
    | rest => number? rest

/-- Items after an opening bracket, with the items read so far, last one first. -/
def readItems (depth : Nat) (reversed : List Json) : Nat → List Char → Option (Json × List Char)
  | 0, _ => none
  | fuel + 1, characters =>
    match readValue depth fuel characters with
    | none => none
    | some (item, rest) =>
      match skipSpace rest with
      | ',' :: rest => readItems depth (item :: reversed) fuel rest
      | ']' :: rest => some (.array (item :: reversed).reverse, rest)
      | _ => none

/-- Members after an opening brace, with the members read so far, last one first. -/
def readMembers (depth : Nat) (reversed : List (String × Json)) :
    Nat → List Char → Option (Json × List Char)
  | 0, _ => none
  | fuel + 1, characters =>
    match skipSpace characters with
    | '"' :: rest =>
      match stringBody [] (rest.length + 1) rest with
      | none => none
      | some (key, rest) =>
        match skipSpace rest with
        | ':' :: rest =>
          match readValue depth fuel rest with
          | none => none
          | some (item, rest) =>
            match skipSpace rest with
            | ',' :: rest => readMembers depth ((key, item) :: reversed) fuel rest
            | '\x7d' :: rest => some (objectOf ((key, item) :: reversed), rest)
            | _ => none
        | _ => none
    | _ => none

end

/-- Read a whole text as one value in which containers nest at most `depth` deep. -/
def read? (depth : Nat) (text : String) : Option Json :=
  let characters := text.toList
  match readValue depth (2 * characters.length + 2) characters with
  | some (json, rest) => if (skipSpace rest).isEmpty then some json else none
  | none => none

/-- Read a request body. -/
def ofText? (text : String) : Option Json :=
  read? 127 text

end SensorThings.Json
