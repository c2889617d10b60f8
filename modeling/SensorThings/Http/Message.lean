import SensorThings.Model.Failure

/-!
Requests and responses, and the response that a refused request gets.
-/
namespace SensorThings

inductive Method where
  | get
  | post
  | patch
  | put
  | delete
  | other (name : String)
deriving DecidableEq, Repr

def Method.ofName : String → Method
  | "GET" => .get
  | "POST" => .post
  | "PATCH" => .patch
  | "PUT" => .put
  | "DELETE" => .delete
  | name => .other name

structure Request where
  method : Method
  path : String
  parameters : List (String × String)
  body : String

inductive Content where
  | document (json : Json)
  | text (text : String)

structure Response where
  status : Nat
  content : Content
  /-- The address of the entity that the request created. -/
  location : Option String

def FailureClass.status : FailureClass → Nat
  | invalidRequest => 400
  | notFound => 404
  | conflict => 409
  | unsupported => 501
  | internal => 500

namespace Response

def empty (status : Nat) : Response :=
  ⟨status, .text "", none⟩

def ok (document : Json) : Response :=
  ⟨200, .document document, none⟩

def refusal (failure : Failure) : Response :=
  let status := failure.classOf.status
  { status
    content := .document (.ofMembers [
      ("code", .int status),
      ("type", .string "error"),
      ("message", .string failure.message)])
    location := none }

/-- Characters that may stand in a header: all but control characters, and the tab. -/
def isHeaderCharacter (character : Char) : Bool :=
  let code := character.toNat
  code == 9 || (code ≥ 32 && code ≠ 127)

/-- The answer to a request that created an entity. It fails if the address cannot be sent. -/
def created (link : String) (document : Json) : Response :=
  if link.toList.all isHeaderCharacter then ⟨201, .document document, some link⟩
  else ⟨500, .text "failed to parse header value", none⟩

end Response

end SensorThings
