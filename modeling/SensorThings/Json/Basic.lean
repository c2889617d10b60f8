import SensorThings.Binary64.Basic

/-!
JSON values. Integers are kept apart from doubles, and the members of an object are sorted by key
with each key once, so that equal objects are equal lists.
-/
namespace SensorThings

inductive Json where
  | null
  | bool (value : Bool)
  | int (value : Int)
  | float (value : Float)
  | string (text : String)
  | array (items : List Json)
  | object (members : List (String × Json))

namespace Json

instance : Inhabited Json := ⟨.null⟩

/-- Put a member in its place. A key that is there already gets the new value. -/
def insertMember (key : String) (value : Json) : List (String × Json) → List (String × Json)
  | [] => [(key, value)]
  | (other, old) :: rest =>
    if key < other then (key, value) :: (other, old) :: rest
    else if key = other then (key, value) :: rest
    else (other, old) :: insertMember key value rest

/-- An object from members in any order; the last value of a key counts. -/
def ofMembers (members : List (String × Json)) : Json :=
  .object (members.foldl (fun sorted (key, value) => insertMember key value sorted) [])

theorem ofMembers_eq (members : List (String × Json)) :
    ofMembers members =
      .object (members.foldl (fun sorted member => insertMember member.1 member.2 sorted) []) :=
  rfl

/-- The value of a member; values other than objects have none. -/
def member? (json : Json) (key : String) : Option Json :=
  match json with
  | .object members => members.lookup key
  | _ => none

/-- A number, or null for an infinity or NaN, which JSON does not have. -/
def double (value : Float) : Json :=
  if Binary64.isFinite value then .float value else .null

@[simp] theorem double_of_isFinite {value : Float} (finite : Binary64.isFinite value = true) :
    double value = .float value :=
  if_pos finite

def isNull : Json → Bool
  | .null => true
  | _ => false

theorem sizeOf_lt_of_lookup {members : List (String × Json)} {key : String} {value : Json}
    (found : members.lookup key = some value) : sizeOf value < sizeOf members := by
  induction members with
  | nil => simp at found
  | cons head rest ih =>
    obtain ⟨other, old⟩ := head
    rw [List.lookup_cons] at found
    split at found
    · simp only [Option.some.injEq] at found
      subst found
      simp
      omega
    · have := ih found
      simp
      omega

/-- A member is smaller than its object, so descending through members ends. -/
theorem sizeOf_lt_of_member? {json value : Json} {key : String}
    (found : json.member? key = some value) : sizeOf value < sizeOf json := by
  cases json with
  | object members =>
    have := sizeOf_lt_of_lookup found
    simp
    omega
  | _ => simp [member?] at found

mutual

/-- Equality of values; doubles compare by value, and never equal an integer. -/
def same : Json → Json → Bool
  | .null, .null => true
  | .bool left, .bool right => left == right
  | .int left, .int right => left == right
  | .float left, .float right => Binary64.same left right
  | .string left, .string right => left == right
  | .array left, .array right => sameItems left right
  | .object left, .object right => sameMembers left right
  | _, _ => false

def sameItems : List Json → List Json → Bool
  | [], [] => true
  | left :: lefts, right :: rights => same left right && sameItems lefts rights
  | _, _ => false

def sameMembers : List (String × Json) → List (String × Json) → Bool
  | [], [] => true
  | (leftKey, left) :: lefts, (rightKey, right) :: rights =>
    leftKey == rightKey && same left right && sameMembers lefts rights
  | _, _ => false

end

end Json

end SensorThings
