import SensorThings.Http.Routing
import SensorThings.Proofs.Change.SharedKeys
import SensorThings.Proofs.Change.Stored
import SensorThings.Proofs.Json.Numbers
import SensorThings.Proofs.Sequencing

/-!
What requests over HTTP do to a store: nothing, or one change whose body was read from a text. So
its numbers fit, and documents can hold whatever a server ever stores.
-/
namespace SensorThings

namespace Submission

variable {path body : String} {kind : EntityKind} {id : EntityId} {json : Json}

theorem numbersFit_of_document (read : document body = .ok json) : json.numbersFit = true := by
  unfold document at read
  split at read
  next parsed =>
    obtain rfl := Except.ok.inj read
    exact Json.numbersFit_of_ofText? parsed
  next => contradiction

theorem numbersFit_of_linkedBody {parent child : EntityKind} {linked : Json}
    (accepted : linkedBody parent id child json = .ok linked) (fits : json.numbersFit = true) :
    linked.numbersFit = true := by
  unfold linkedBody at accepted
  split at accepted
  next members =>
    split at accepted
    next name reference named =>
      obtain rfl := Except.ok.inj accepted
      have referenceFits : reference.numbersFit = true := by
        cases parent <;> cases child <;> cases named <;> rfl
      exact Json.membersFit_insertMember fits referenceFits
    next => contradiction
  next => contradiction

theorem numbersFit_of_toCollection (accepted : toCollection path body = .ok (kind, json)) :
    json.numbersFit = true := by
  obtain ⟨sent, read, accepted⟩ := bind_eq_ok_iff.1 accepted
  obtain ⟨resource, -, accepted⟩ := bind_eq_ok_iff.1 accepted
  have fits := numbersFit_of_document read
  cases resource
  case collection =>
    cases accepted
    exact fits
  case related parent id child single =>
    cases single with
    | true => contradiction
    | false =>
      obtain ⟨linked, given, same⟩ := bind_eq_ok_iff.1 accepted
      cases same
      exact numbersFit_of_linkedBody given fits
  all_goals contradiction

theorem numbersFit_of_toEntity (accepted : toEntity path body = .ok (kind, id, json)) :
    json.numbersFit = true := by
  obtain ⟨_, -, accepted⟩ := bind_eq_ok_iff.1 accepted
  obtain ⟨sent, read, same⟩ := bind_eq_ok_iff.1 accepted
  cases same
  exact numbersFit_of_document read

end Submission

namespace Store

variable {α β : Type}

theorem change_map (store : Store) (environment : Environment) (change : Change α) (f : α → β) :
    (store.change environment (do return f (← change))).2 =
      (store.change environment change).2 := by
  simp only [Store.change, Change.start, Bind.bind, ReaderT.bind, EStateM.bind]
  cases change environment ⟨.start store.tables, 0⟩ <;> rfl

/-- The store is as it was, or as a change left it whose numbers fit. -/
inductive Becomes (store : Store) (environment : Environment) : Store → Prop where
  | same : Becomes store environment store
  | changed (request : ChangeRequest) (fits : request.numbersFit = true) :
      Becomes store environment (store.change environment (Change.ofRequest request)).2

end Store

namespace Server

variable {α : Type} (server : Server) (store : Store)

@[simp] theorem store_submit (change : Change α) (answer : α → Tables → Except Failure Response) :
    (server.submit store change answer).2 = (store.change server.environment change).2 := by
  unfold submit
  rcases store.change server.environment change with ⟨_ | _, _⟩ <;> rfl

theorem becomes_submit {change : Change α} {answer : α → Tables → Except Failure Response}
    (request : ChangeRequest) (f : α → Option EntityId)
    (asked : Change.ofRequest request = do return f (← change))
    (fits : request.numbersFit = true) :
    store.Becomes server.environment (server.submit store change answer).2 := by
  rw [store_submit, ← store.change_map server.environment change f, ← asked]
  exact .changed request fits

theorem becomes_handleResource (request : Request) (path : String) :
    store.Becomes server.environment (server.handleResource store request path).2 := by
  unfold handleResource
  cases request.method with
  | get => exact .same
  | other => exact .same
  | post =>
    simp only [post]
    split
    next => exact .same
    next kind json accepted =>
      exact server.becomes_submit store (.create kind json) some rfl
        (Submission.numbersFit_of_toCollection accepted)
  | patch =>
    simp only [patch]
    split
    next => exact .same
    next kind id json accepted =>
      exact server.becomes_submit store (.revise kind id json) (fun _ => none) rfl
        (Submission.numbersFit_of_toEntity accepted)
  | put =>
    simp only [put]
    split
    next => exact .same
    next kind id json accepted =>
      exact server.becomes_submit store (.replace kind id json) (fun _ => none) rfl
        (Submission.numbersFit_of_toEntity accepted)
  | delete =>
    simp only [delete]
    split
    next => exact .same
    next kind id _ =>
      exact server.becomes_submit store (.remove kind id) (fun _ => none) rfl rfl

theorem becomes_handle (request : Request) :
    store.Becomes server.environment (server.handle store request).2 := by
  unfold handle
  split
  next => exact .same
  next path _ => exact server.becomes_handleResource store request path
  all_goals exact .same

end Server

namespace Store

/-- Requests over HTTP, to servers with whatever settings, lead from the empty store to this one. -/
inductive Served : Store → Prop where
  | empty : Served ⟨{}, 0⟩
  | handle {store : Store} (server : Server) (request : Request) (served : store.Served) :
      Served (server.handle store request).2

theorem Served.induction {holds : Store → Prop} {store : Store} (served : store.Served)
    (start : holds ⟨{}, 0⟩)
    (step : ∀ (store : Store) environment (request : ChangeRequest), holds store →
      request.numbersFit = true →
      holds (store.change environment (Change.ofRequest request)).2) : holds store := by
  induction served with
  | empty => exact start
  | @handle store server request _ ih =>
    have becomes := server.becomes_handle store request
    generalize (server.handle store request).2 = after at becomes
    cases becomes with
    | same => exact ih
    | changed change fits => exact step store server.environment change ih fits

theorem Served.attained {store : Store} (served : store.Served) : store.Attained :=
  served.induction .empty fun _ environment request attained _ =>
    .change environment request attained

theorem Served.storable {store : Store} (served : store.Served) : store.tables.Storable :=
  @Served.induction (fun store => store.tables.Storable) store served Tables.storable_empty
    fun _ _ _ storable fits =>
      keeps_of_returns storable fun _ _ ran => (Change.stores_ofRequest fits ran storable).1

theorem Served.read_document {store : Store} (served : store.Served) {kind : EntityKind}
    {id : EntityId} {row : kind.Entity} (found : store.tables.find? kind id = some row)
    (inFourDigits : ∀ instant ∈ kind.spanInstants row, instant.InFourDigits) :
    kind.ofDocument? (kind.toDocument row) = some row :=
  EntityKind.ofDocument?_toDocument (served.storable kind id row found) inFourDigits

end Store

end SensorThings
