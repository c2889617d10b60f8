import SensorThings.Model.Failure
import SensorThings.Text.Split

/-!
Resource paths: a collection, an entity of a collection by its identifier, or what relates to an
entity.
-/
namespace SensorThings

inductive Resource where
  | collection (kind : EntityKind)
  | entity (kind : EntityKind) (id : EntityId)
  /-- A related collection, or the one related entity if `single` holds. -/
  | related (parent : EntityKind) (id : EntityId) (child : EntityKind) (single : Bool)
deriving DecidableEq, Repr

namespace Resource

def trimSlashes (path : List Char) : List Char :=
  ((path.dropWhile (· == '/')).reverse.dropWhile (· == '/')).reverse

/-- A text without the last character, if that is the given one. -/
def dropLast? (character : Char) (text : List Char) : Option (List Char) :=
  if text.getLast? = some character then some text.dropLast else none

/-- A text without the quotes around it; one quote alone is kept. -/
def unquoted (text : List Char) : List Char :=
  match text with
  | '\'' :: rest => (dropLast? '\'' rest).getD text
  | _ => text

/-- The name of a collection, with an identifier in parentheses or without. -/
def segment? (text : List Char) : Option (String × Option EntityId) :=
  match Text.splitFirst '(' text with
  | none => some (String.ofList text, none)
  | some (name, rest) => do
    let id := unquoted (← dropLast? ')' rest)
    if id.isEmpty then none
    return (String.ofList name, some ⟨String.ofList id⟩)

/-- The kind that a relation leads to: the name of a collection stands for many entities, the name
of a kind for one. -/
def relation? (name : String) : Option (EntityKind × Bool) :=
  match EntityKind.ofCollection? name with
  | some child => some (child, false)
  | none =>
    match EntityKind.ofName? name with
    | some child => if child.isPublic then some (child, true) else none
    | none => none

/-- The resource at a path. Slashes around the path do not count. -/
def ofPath? (path : String) : Option Resource := do
  match Text.splitAt '/' (trimSlashes path.toList) with
  | [] => none
  | first :: rest =>
    let (name, id) ← segment? first
    let kind ← EntityKind.ofCollection? name
    match id, rest with
    | none, [] => some (.collection kind)
    | some id, [] => some (.entity kind id)
    | some id, [relation] =>
      let (child, single) ← relation? (String.ofList relation)
      some (.related kind id child single)
    | _, _ => none

def ofPath (path : String) : Except Failure Resource :=
  match ofPath? path with
  | some resource => .ok resource
  | none => .error (.unknownPath path)

end Resource

end SensorThings
