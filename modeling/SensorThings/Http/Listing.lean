import SensorThings.Http.Parameters
import SensorThings.Http.Representation
import SensorThings.Http.Resource
import SensorThings.Http.Server
import SensorThings.Store.Navigation
import SensorThings.Text.Search

/-!
What clients read: entities, and collections page by page, each page with a link to the next one.
-/
namespace SensorThings

/-- A parameter as it stands in a link: blanks are escaped, and nothing else. -/
def parameterText (name value : String) : String :=
  name ++ "=" ++ String.ofList (Text.replaceChar ' ' "%20".toList value.toList)

/-- The address of a page: the parameters of the request in order of their texts, with the size and
the start of the page in place of its own. -/
def pageLink (base path : String) (parameters : List (String × String)) (top skip : Nat) :
    String :=
  let others := parameters.filter fun (name, _) => name != "$top" && name != "$skip"
  let texts := others.map fun (name, value) => parameterText name value
  let sorted := texts.mergeSort fun left right => decide (left ≤ right)
  let query := sorted ++ ["$top=" ++ toString top, "$skip=" ++ toString skip]
  base ++ "/" ++ path ++ "?" ++ "&".intercalate query

namespace Server

def entity (server : Server) (tables : Tables) (options : QueryOptions) (kind : EntityKind)
    (id : EntityId) : Except Failure Json := do
  let document ← tables.representation server.base kind id
  match options.select with
  | some names => return document.keeping names
  | none => return document

def collection (server : Server) (tables : Tables) (options : QueryOptions) (kind : EntityKind)
    (scope : Option Predicate) (path : String) (parameters : List (String × String)) :
    Except Failure Json := do
  let plan ← options.planFor kind server.config.paging server.now scope
  let page := plan.run tables kind
  let value ← page.ids.mapM (server.entity tables options kind)
  let next := plan.offset + page.items.length
  return .ofMembers
    (Json.present "@iot.count" (fun total => .int (Nat.cast total)) page.total ++
      (if page.hasMore then
        [("@iot.nextLink", .string (pageLink server.base path parameters plan.limit next))]
      else []) ++
      [("value", .array value)])

def relatedEntity (server : Server) (tables : Tables) (options : QueryOptions)
    (parent : EntityKind) (id : EntityId) (child : EntityKind) (scope : Predicate) :
    Except Failure Json := do
  let standard : QueryOptions := {}
  let plan ← standard.planFor child server.config.paging server.now (some scope)
  match (plan.run tables child).ids with
  | first :: _ => server.entity tables options child first
  | [] => throw (.noneRelated parent id child)

def read (server : Server) (tables : Tables) (path : String)
    (parameters : List (String × String)) : Except Failure Json := do
  let resource ← Resource.ofPath path
  let options ← QueryOptions.ofParameters parameters
  match resource with
  | .collection kind => server.collection tables options kind none path parameters
  | .entity kind id => server.entity tables options kind id
  | .related parent id child single =>
    let scope ← tables.scope parent id child
    if single then server.relatedEntity tables options parent id child scope
    else server.collection tables options child (some scope) path parameters

end Server

end SensorThings
