import SensorThings.Json.Basic

/-!
Reading the members of objects. A missing member and a null are the same thing where a member may be
left out.
-/
namespace SensorThings.Json

def string? : Json → Option String
  | .string text => some text
  | _ => none

def bool? : Json → Option Bool
  | .bool value => some value
  | _ => none

def required? {α : Type} (json : Json) (key : String) (read? : Json → Option α) : Option α :=
  (json.member? key).bind read?

/-- A member that may be missing or null. The outer `none` means that it cannot be read. -/
def optional? {α : Type} (json : Json) (key : String) (read? : Json → Option α) :
    Option (Option α) :=
  match json.member? key with
  | none => some none
  | some .null => some none
  | some value => (read? value).map some

/-- A member with a value of its own when it is missing; a null does not count as missing. -/
def default? {α : Type} (json : Json) (key : String) (standard : α) (read? : Json → Option α) :
    Option α :=
  match json.member? key with
  | none => some standard
  | some value => read? value

def list? {α : Type} (read? : Json → Option α) : Json → Option (List α)
  | .array items => items.mapM read?
  | _ => none

def isObject : Json → Bool
  | .object _ => true
  | _ => false

/-- An optional member to write: nothing for `none`. -/
def present {α : Type} (key : String) (write : α → Json) : Option α → List (String × Json)
  | some value => [(key, write value)]
  | none => []

def free (key : String) : Option Json → List (String × Json) :=
  present key id

end SensorThings.Json
