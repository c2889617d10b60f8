/-!
White space of texts: the 25 code points of the Unicode property White_Space. Trimming and
splitting into words work on characters, so that laws about them are laws about lists.
-/
namespace SensorThings.Text

/-- The Unicode property White_Space. -/
def isBlank (character : Char) : Bool :=
  let code := character.toNat
  (9 ≤ code && code ≤ 13) || code == 0x20 || code == 0x85 || code == 0xA0 || code == 0x1680 ||
    (0x2000 ≤ code && code ≤ 0x200A) || code == 0x2028 || code == 0x2029 || code == 0x202F ||
    code == 0x205F || code == 0x3000

def trimStart (characters : List Char) : List Char :=
  characters.dropWhile isBlank

def trimEnd (characters : List Char) : List Char :=
  (characters.reverse.dropWhile isBlank).reverse

def trim (characters : List Char) : List Char :=
  trimEnd (trimStart characters)

/-- The text without white space at either end. -/
def trimmed (text : String) : String :=
  String.ofList (trim text.toList)

/-- Maximal runs of characters that are not white space; `current` is the run being read, last
character first. -/
def wordsFrom (current : List Char) : List Char → List (List Char)
  | [] => if current.isEmpty then [] else [current.reverse]
  | character :: rest =>
    if isBlank character then
      if current.isEmpty then wordsFrom [] rest else current.reverse :: wordsFrom [] rest
    else wordsFrom (character :: current) rest

def words (characters : List Char) : List (List Char) :=
  wordsFrom [] characters

@[simp] theorem words_nil : words [] = [] := rfl

end SensorThings.Text
