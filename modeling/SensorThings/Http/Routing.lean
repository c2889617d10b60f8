import SensorThings.Change.Request
import SensorThings.Http.Listing
import SensorThings.Http.Message
import SensorThings.Http.Submission

/-!
Routes, and the answer to a request together with the store it leaves behind. A request that is
refused leaves the store as it was.
-/
namespace SensorThings

inductive Route where
  | landing
  | health
  | readiness
  | metrics
  | resource (path : String)
deriving DecidableEq, Repr

def Route.ofPath? (path : String) : Option Route :=
  match path with
  | "/v1.1" => some .landing
  | "/v1.1/" => some .landing
  | "/health" => some .health
  | "/ready" => some .readiness
  | "/metrics" => some .metrics
  | _ =>
    let root := "/v1.1/".toList
    if root.isPrefixOf path.toList then
      some (.resource (String.ofList (path.toList.drop root.length)))
    else none

namespace Server

def landing (server : Server) : Json :=
  let names := EntityKind.all.filterMap EntityKind.collection?
  .ofMembers [("value", .array (names.map fun name =>
    .ofMembers [("name", .string name), ("url", .string (server.base ++ "/" ++ name))]))]

private def answerOf {α : Type} (respond : α → Response) : Except Failure α → Response
  | .ok value => respond value
  | .error failure => .refusal failure

def get (server : Server) (store : Store) (path : String) (parameters : List (String × String)) :
    Response :=
  answerOf .ok (server.read store.tables path parameters)

/-- Make a change, and answer from the store as the change leaves it. -/
def submit {α : Type} (server : Server) (store : Store) (change : Change α)
    (answer : α → Tables → Except Failure Response) : Response × Store :=
  match store.change server.environment change with
  | (.ok value, changed) => (answerOf id (answer value changed.tables), changed)
  | (.error failure, unchanged) => (.refusal failure, unchanged)

def post (server : Server) (store : Store) (path body : String) : Response × Store :=
  match Submission.toCollection path body with
  | .error failure => (.refusal failure, store)
  | .ok (kind, json) =>
    server.submit store (Change.create kind json) fun id tables =>
      (tables.representation server.base kind id).map
        (Response.created (kind.selfLink server.base id))

def patch (server : Server) (store : Store) (path body : String) : Response × Store :=
  match Submission.toEntity path body with
  | .error failure => (.refusal failure, store)
  | .ok (kind, id, json) =>
    server.submit store (Change.revise kind id json) fun _ tables =>
      (tables.representation server.base kind id).map Response.ok

def put (server : Server) (store : Store) (path body : String) : Response × Store :=
  match Submission.toEntity path body with
  | .error failure => (.refusal failure, store)
  | .ok (kind, id, json) =>
    server.submit store (Change.replace kind id json) fun _ _ => .ok (.empty 200)

def delete (server : Server) (store : Store) (path : String) : Response × Store :=
  match Submission.target path with
  | .error failure => (.refusal failure, store)
  | .ok (kind, id) =>
    server.submit store (Change.remove kind id) fun _ _ => .ok (.empty 200)

def handleResource (server : Server) (store : Store) (request : Request) (path : String) :
    Response × Store :=
  match request.method with
  | .get => (server.get store path request.parameters, store)
  | .post => server.post store path request.body
  | .patch => server.patch store path request.body
  | .put => server.put store path request.body
  | .delete => server.delete store path
  | .other _ => (.empty 405, store)

/-- Answer a request for a document that does not depend on the store. -/
def handleFixed (request : Request) (response : Response) : Response :=
  if request.method = .get then response else .empty 405

def handle (server : Server) (store : Store) (request : Request) : Response × Store :=
  match Route.ofPath? request.path with
  | none => (.empty 404, store)
  | some (.resource path) => server.handleResource store request path
  | some .landing => (handleFixed request (.ok server.landing), store)
  | some .health =>
    (handleFixed request (.ok (.ofMembers [("status", .string "ok")])), store)
  | some .readiness => (handleFixed request (.ok (.ofMembers [("ready", .bool true)])), store)
  | some .metrics => (handleFixed request (.empty 200), store)

end Server

end SensorThings
