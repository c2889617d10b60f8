import SensorThings.Text.Octets
import SensorThings.Text.Search
import SensorThings.Text.Split

/-!
Addresses as requests: the path and the parameters that a server is asked for when a client follows
a link to it. Parameters are form-encoded.
-/
namespace SensorThings

namespace Address

/-- A name or a value. A plus sign stands for a blank. -/
def unescaped (text : List Char) : String :=
  String.ofList (Text.ofOctets (Text.octets (Text.replaceChar '+' [' '] text)))

/-- A parameter without an equals sign is a name. -/
def parameter (text : List Char) : String × String :=
  match Text.splitFirst '=' text with
  | some (name, value) => (unescaped name, unescaped value)
  | none => (unescaped text, "")

/-- Of several values of a name the last one counts. -/
def latest : List (String × String) → List (String × String)
  | [] => []
  | (name, value) :: rest =>
    if rest.any (·.1 == name) then latest rest else (name, value) :: latest rest

def parameters (query : List Char) : List (String × String) :=
  latest (((Text.splitAt '&' query).filter (· ≠ [])).map parameter)

/-- What stands in an address after its base. A fragment is not sent. -/
def below? (base address : String) : Option (List Char) :=
  let root := base.toList ++ ['/']
  if root.isPrefixOf address.toList then
    some ((address.toList.drop root.length).takeWhile (· ≠ '#'))
  else none

def request? (base address : String) : Option (String × List (String × String)) := do
  let rest ← below? base address
  let (path, query) := (Text.splitFirst '?' rest).getD (rest, [])
  let path ← Text.ofOctets? (Text.octets path)
  return (String.ofList path, parameters query)

end Address

end SensorThings
