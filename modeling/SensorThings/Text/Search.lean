/-!
Finding one text in another. Texts are searched by their octets while positions count characters,
and the empty text is found at the start of every text.
-/
namespace SensorThings.Text

/-- The octets of characters in UTF-8. -/
def encoded (characters : List Char) : List UInt8 :=
  characters.flatMap String.utf8EncodeChar

/-- How many characters the octets spell. The first octet of a character tells itself from the
others. -/
def countCharacters (octets : List UInt8) : Nat :=
  octets.countP fun octet => octet.IsUTF8FirstByte

/-- The least position at which `needle` stands in the list. -/
def indexOf? {α : Type} [BEq α] (needle : List α) : List α → Option Nat
  | [] => if needle.isEmpty then some 0 else none
  | first :: rest =>
    if needle.isPrefixOf (first :: rest) then some 0
    else (indexOf? needle rest).map (· + 1)

/-- Every occurrence of `old` becomes `new`, read from the left. -/
def replaceChar (old : Char) (new : List Char) (characters : List Char) : List Char :=
  characters.flatMap fun character => if character = old then new else [character]

end SensorThings.Text
