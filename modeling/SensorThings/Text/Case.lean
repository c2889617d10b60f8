import SensorThings.Text.CaseTable

/-!
Full Unicode case mapping. A character may become several, and a capital sigma at the end of a
word takes its final form.
-/
namespace SensorThings.Text

private def mapped (runs : List CaseRun) (character : Char) : Char :=
  match runs.find? (·.covers character.toNat) with
  | some run => Char.ofNat (character.toNat + run.offset).toNat
  | none => character

private def within (ranges : List (Nat × Nat)) (character : Char) : Bool :=
  ranges.any fun (first, last) => first ≤ character.toNat && character.toNat ≤ last

def upperOf (character : Char) : List Char :=
  match upperExpansions.lookup character.toNat with
  | some codes => codes.map Char.ofNat
  | none => [mapped upperRuns character]

/-- The dotted capital I is the only character with a longer lower-case form. -/
def lowerOf (character : Char) : List Char :=
  if character.toNat = 0x130 then ['i', Char.ofNat 0x307] else [mapped lowerRuns character]

def casedNext (characters : List Char) : Bool :=
  match characters.dropWhile (within ignorableRanges) with
  | character :: _ => within casedRanges character
  | [] => false

def upper (characters : List Char) : List Char :=
  characters.flatMap upperOf

/-- `before` holds the characters already passed, last one first. -/
def lowerFrom (before : List Char) : List Char → List Char
  | [] => []
  | character :: rest =>
    let form :=
      if character.toNat = 0x3A3 then
        if casedNext before && !casedNext rest then [Char.ofNat 0x3C2] else [Char.ofNat 0x3C3]
      else lowerOf character
    form ++ lowerFrom (character :: before) rest

def lower (characters : List Char) : List Char :=
  lowerFrom [] characters

def lowerAscii (text : String) : String :=
  String.ofList (text.toList.map Char.toLower)

end SensorThings.Text
