import SensorThings.Http.Resource
import SensorThings.Json.Reader

/-!
What clients send: a path and a body. A body that is posted to the children of a parent gets the
parent as its relation.
-/
namespace SensorThings

/-- The member of a new child that names its parent, for the children that can be created there. -/
def EntityKind.parentMember? (parent child : EntityKind) (id : EntityId) :
    Option (String × Json) :=
  let reference : Json := .ofMembers [("@iot.id", id.toJson)]
  match parent, child with
  | .thing, .datastream => some (parent.name, reference)
  | .thing, .historicalLocation => some (parent.name, reference)
  | .sensor, .datastream => some (parent.name, reference)
  | .observedProperty, .datastream => some (parent.name, reference)
  | .datastream, .observation => some (parent.name, reference)
  | .featureOfInterest, .observation => some (parent.name, reference)
  | .thing, .location => some ("Things", .array [reference])
  | .location, .thing => some ("Locations", .array [reference])
  | _, _ => none

/-- The body of a new child with its parent as relation, whatever the body says itself. -/
def linkedBody (parent : EntityKind) (id : EntityId) (child : EntityKind) (body : Json) :
    Except Failure Json :=
  match body with
  | .object members =>
    match parent.parentMember? child id with
    | some (name, reference) => .ok (.object (Json.insertMember name reference members))
    | none => .error (.notCreatable parent child)
  | _ => .error .notObject

namespace Submission

def document (body : String) : Except Failure Json :=
  match Json.ofText? body with
  | some json => .ok json
  | none => .error .malformedBody

def target (path : String) : Except Failure (EntityKind × EntityId) := do
  match ← Resource.ofPath path with
  | .entity kind id => return (kind, id)
  | _ => throw .notSingle

/-- What is created by a body posted to a collection. The body is read before the path. -/
def toCollection (path body : String) : Except Failure (EntityKind × Json) := do
  let json ← document body
  match ← Resource.ofPath path with
  | .collection kind => return (kind, json)
  | .related parent id child false => return (child, ← linkedBody parent id child json)
  | _ => throw .notCollection

/-- The entity that a body revises or replaces. The path is read before the body. -/
def toEntity (path body : String) : Except Failure (EntityKind × EntityId × Json) := do
  let (kind, id) ← target path
  return (kind, id, ← document body)

end Submission

end SensorThings
