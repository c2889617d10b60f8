import SensorThings.Proofs.Change.Stored

/-!
Loading stored documents. The document of a row in a reachable store puts that row back into any
tables, under its identifier and nothing else.
-/
namespace SensorThings

namespace Tables

theorem loadDocument_of_ofDocument? {tables : Tables} {kind : EntityKind} {document : Json}
    {entity : kind.Entity} (read : kind.ofDocument? document = some entity) :
    tables.loadDocument kind document = .ok (tables.put kind entity) := by
  rw [loadDocument, read]

@[simp] theorem document?_of_find? {tables : Tables} {kind : EntityKind} {id : EntityId}
    {entity : kind.Entity} (found : tables.find? kind id = some entity) :
    tables.document? ⟨kind, id⟩ = some (kind.toDocument entity) := by
  rw [document?, found, Option.map_some]

end Tables

theorem Transaction.document?_of_mem_pendingWrites {transaction : Transaction} {key : Key}
    {written : Option Json} (member : (key, written) ∈ transaction.pendingWrites) :
    written = transaction.tables.document? key := by
  obtain ⟨touched, -, same⟩ := List.mem_map.1 member
  obtain ⟨rfl, rfl⟩ := Prod.mk.inj same
  rfl

namespace Store

/-- The document of a row is what transactions write for it, and it loads into any tables: the row
is there under its identifier then, and everything else is as it was. -/
theorem reachable_documents_load {store : Store}
    (reachable : store.Reachable fun request => request.numbersFit = true) {kind : EntityKind}
    {id : EntityId} {row : kind.Entity} (found : store.tables.find? kind id = some row)
    (inFourDigits : ∀ instant ∈ kind.instants row, instant.InFourDigits) (tables : Tables) :
    ∃ document loaded, store.tables.document? ⟨kind, id⟩ = some document ∧
      (∀ (transaction : Transaction) (written : Option Json),
        transaction.tables = store.tables → (⟨kind, id⟩, written) ∈ transaction.pendingWrites →
        written = some document) ∧
      tables.loadDocument kind document = .ok loaded ∧ loaded.find? kind id = some row ∧
      ∀ key : Key, key ≠ ⟨kind, id⟩ →
        loaded.find? key.kind key.id = tables.find? key.kind key.id := by
  have storable := reachable.storable fun _ fits => fits
  have read := EntityKind.ofDocument?_toDocument (storable kind id row found)
    fun instant member => inFourDigits instant (kind.spanInstants_subset row member)
  have document := Tables.document?_of_find? found
  have identified := Tables.idOf_of_find? found
  refine ⟨_, _, document, ?_, Tables.loadDocument_of_ofDocument? read, ?_, ?_⟩
  · intro transaction written same member
    rw [Transaction.document?_of_mem_pendingWrites member, same, document]
  · rw [Tables.find?_put, if_pos identified]
  · rintro ⟨other, place⟩ different
    by_cases same : other = kind
    · subst same
      rw [Tables.find?_put, if_neg]
      rintro rfl
      exact different (congrArg (Key.mk other) identified)
    · exact Tables.find?_put_of_ne _ _ _ same

end Store

namespace FirstObservation

theorem instants_observation :
    (store.tables.find? .observation (environment.fresh 7)).map
      (fun row => decide (∀ instant ∈ EntityKind.observation.instants row, instant.InFourDigits)) =
        some true := by
  unfold store Store.change Change.start request
  simp only [Change.ofRequest, Change.create, Change.draft, read_body]
  decide +kernel

end FirstObservation

namespace Store

open FirstObservation in
/-- The one observation of the store loads into empty tables. -/
theorem reachable_documents_load_first_observation :
    ∃ (row : Observation) (document : Json) (loaded : Tables),
      store.tables.find? .observation (environment.fresh 7) = some row ∧
        store.tables.document? ⟨.observation, environment.fresh 7⟩ = some document ∧
        Tables.loadDocument {} .observation document = .ok loaded ∧
        loaded.find? .observation (environment.fresh 7) = some row := by
  obtain ⟨row, found, within⟩ := Option.map_eq_some_iff.1 instants_observation
  obtain ⟨document, loaded, written, -, loads, there, -⟩ :=
    reachable_documents_load (reachable (by decide +kernel)) found (of_decide_eq_true within) {}
  exact ⟨row, document, loaded, found, written, loads, there⟩

end Store

end SensorThings
