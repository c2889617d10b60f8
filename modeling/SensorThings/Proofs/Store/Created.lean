import SensorThings.Proofs.Store.Pending

/-!
The keys that a transaction lists as created. A key is added when its first write finds it empty and
struck off when its row is removed, and it is never added again: a row that is made, removed and made
once more is new to the tables, but not listed.
-/
namespace SensorThings

@[simp] theorem Tables.contains_remove_iff (tables : Tables) (kind : EntityKind) (id : EntityId)
    (key : Key) :
    (tables.remove kind id).contains key.kind key.id = true ↔
      ⟨kind, id⟩ ≠ key ∧ tables.contains key.kind key.id = true := by
  obtain ⟨other, place⟩ := key
  unfold contains
  by_cases same : other = kind
  · subst same
    rw [find?_remove]
    by_cases here : place = id <;> simp [here, eq_comm (a := id)]
  · rw [find?_remove_of_ne _ _ _ same]
    simp [Ne.symm same]

namespace Transaction

def removed? (transaction : Transaction) : Write → Option Key
  | .save .. => none
  | .delete kind id => if transaction.tables.contains kind id then some ⟨kind, id⟩ else none

def removedBy (transaction : Transaction) : List Write → List Key
  | [] => []
  | write :: rest =>
    (transaction.removed? write).toList ++ (transaction.perform write).removedBy rest

/-- What the created keys of a transaction say about tables that it began with, when the rows of
`removed` were taken away meanwhile. A key that was written to has a row unless it is one of them. -/
structure ListsNew (transaction : Transaction) (begun : Tables) (removed : List Key) : Prop where
  created : ∀ key : Key, key ∈ transaction.created ↔
    begun.contains key.kind key.id = false ∧
      transaction.tables.contains key.kind key.id = true ∧ key ∉ removed
  touched : ∀ key ∈ removed, transaction.hasTouched key = true
  kept : ∀ key : Key, transaction.hasTouched key = true → key ∉ removed →
    transaction.tables.contains key.kind key.id = true

theorem listsNew_start (tables : Tables) : (start tables).ListsNew tables [] where
  created key := by simp [start]
  touched := by simp
  kept key touched := by simp [start, hasTouched] at touched

variable {transaction : Transaction} {begun : Tables} {removed : List Key}

@[simp] theorem mem_created_save_iff (kind : EntityKind) (entity : kind.Entity) (key : Key) :
    key ∈ (transaction.save kind entity).created ↔ key ∈ transaction.created ∨
      ⟨kind, kind.idOf entity⟩ = key ∧ transaction.hasTouched key = false ∧
        transaction.tables.contains key.kind key.id = false := by
  rw [Transaction.save]
  split
  next touched =>
    refine ⟨.inl, fun either => either.resolve_right ?_⟩
    rintro ⟨rfl, untouched, -⟩
    rw [touched] at untouched
    contradiction
  next untouched =>
    dsimp only
    split
    next present =>
      refine ⟨.inl, fun either => either.resolve_right ?_⟩
      rintro ⟨rfl, -, absent⟩
      rw [Tables.contains, present] at absent
      contradiction
    next absent =>
      rw [List.mem_cons, or_comm]
      refine or_congr_right ⟨?_, fun new => new.1.symm⟩
      rintro rfl
      exact ⟨rfl, by simpa using untouched, by simpa [Tables.contains] using absent⟩

theorem contains_save_iff (kind : EntityKind) (entity : kind.Entity) (key : Key) :
    (transaction.save kind entity).tables.contains key.kind key.id = true ↔
      ⟨kind, kind.idOf entity⟩ = key ∨ transaction.tables.contains key.kind key.id = true := by
  have rows : (transaction.save kind entity).tables = transaction.tables.put kind entity := by
    rw [Transaction.save]
    split <;> rfl
  obtain ⟨other, id⟩ := key
  rw [rows, Tables.contains_put_iff, Key.mk.injEq, eq_comm (a := other)]

theorem ListsNew.save (lists : transaction.ListsNew begun removed)
    (remembers : transaction.Remembers begun) (kind : EntityKind) (entity : kind.Entity) :
    (transaction.save kind entity).ListsNew begun removed := by
  have reached {key : Key} : (transaction.save kind entity).hasTouched key = true ↔
      ⟨kind, kind.idOf entity⟩ = key ∨ transaction.hasTouched key = true := by
    have written := @hasTouched_perform transaction (.save kind entity) key
    rwa [reached?, Option.some.injEq] at written
  refine ⟨fun key => ?_, fun key member => reached.2 (.inr (lists.touched key member)),
    fun key touched survives => ?_⟩
  · rw [mem_created_save_iff, contains_save_iff, lists.created]
    cases before : transaction.hasTouched key with
    | true =>
      -- Its row is still there, so the write does not make it present.
      have present := lists.kept key before
      grind
    | false =>
      -- Its row is that of the start, and it was not removed.
      have unremoved : key ∉ removed := fun member => by
        simp [lists.touched key member] at before
      have same : transaction.tables.contains key.kind key.id = begun.contains key.kind key.id := by
        rw [Tables.contains, Tables.contains, remembers.others _ _ before]
      rw [same]
      grind
  · rw [contains_save_iff]
    exact (reached.1 touched).imp_right fun before => lists.kept key before survives

theorem contains_iff_delete {kind : EntityKind} {id : EntityId} :
    transaction.tables.contains kind id = true ↔
      ∃ result, transaction.delete kind id = .ok result := by
  rw [Tables.contains, Transaction.delete]
  split <;> simp [*]

theorem ListsNew.delete {after : Transaction} {kind : EntityKind} {id : EntityId}
    {entity : kind.Entity} (lists : transaction.ListsNew begun removed)
    (deleted : transaction.delete kind id = .ok (entity, after)) :
    after.ListsNew begun (removed ++ [⟨kind, id⟩]) := by
  have performed : transaction.perform (.delete kind id) = after := by
    rw [perform, deleted]
  have reached {key : Key} : after.hasTouched key = true ↔
      ⟨kind, id⟩ = key ∨ transaction.hasTouched key = true := by
    have present := contains_iff_delete.2 ⟨_, deleted⟩
    rw [← performed, hasTouched_perform, reached?, if_pos present, Option.some.injEq]
  have rows : after.tables = transaction.tables.remove kind id ∧
      after.created = transaction.created.filter (· != ⟨kind, id⟩) := by
    rw [Transaction.delete] at deleted
    split at deleted
    next => contradiction
    next =>
      obtain ⟨-, rfl⟩ := Prod.mk.inj (Except.ok.inj deleted)
      exact ⟨rfl, rfl⟩
  have gone {key : Key} : key ∉ removed ++ [⟨kind, id⟩] ↔ key ∉ removed ∧ ⟨kind, id⟩ ≠ key := by
    rw [List.mem_append, List.mem_singleton, not_or, ne_comm]
  refine ⟨fun key => ?_, fun key member => ?_, fun key touched survives => ?_⟩
  · rw [rows.1, rows.2, List.mem_filter, lists.created, Tables.contains_remove_iff, gone,
      bne_iff_ne, ne_comm]
    tauto
  · rw [List.mem_append, List.mem_singleton] at member
    exact reached.2 (member.symm.imp Eq.symm (lists.touched key))
  · obtain ⟨before, different⟩ := gone.1 survives
    rw [rows.1, Tables.contains_remove_iff]
    exact ⟨different, lists.kept key ((reached.1 touched).resolve_left different) before⟩

theorem ListsNew.perform (lists : transaction.ListsNew begun removed)
    (remembers : transaction.Remembers begun) (write : Write) :
    (transaction.perform write).ListsNew begun
      (removed ++ (transaction.removed? write).toList) := by
  cases write with
  | save kind entity =>
    rw [removed?, Option.toList_none, List.append_nil]
    exact lists.save remembers kind entity
  | delete kind id =>
    cases deleted : transaction.delete kind id with
    | ok result =>
      obtain ⟨entity, after⟩ := result
      rw [Transaction.perform, deleted, removed?, if_pos (contains_iff_delete.2 ⟨_, deleted⟩)]
      exact lists.delete deleted
    | error failure =>
      have absent : ¬transaction.tables.contains kind id = true := fun present => by
        obtain ⟨result, succeeded⟩ := contains_iff_delete.1 present
        simp [deleted] at succeeded
      rw [Transaction.perform, deleted, removed?, if_neg absent, Option.toList_none,
        List.append_nil]
      exact lists

theorem ListsNew.performAll (lists : transaction.ListsNew begun removed)
    (remembers : transaction.Remembers begun) (writes : List Write) :
    (transaction.performAll writes).ListsNew begun (removed ++ transaction.removedBy writes) := by
  induction writes generalizing transaction removed with
  | nil => rwa [removedBy, List.append_nil]
  | cons write rest ih =>
    rw [removedBy, ← List.append_assoc]
    exact ih (lists.perform remembers write) (remembers.perform write)

/-- Whatever is saved and deleted, in whatever order and however often: the created keys are listed
each once and in order, and they are those that had no row at the start, have one now, and had none
taken away meanwhile. -/
theorem createdKeys_performAll (tables : Tables) (writes : List Write) :
    let begun := start tables
    let finished := begun.performAll writes
    finished.createdKeys.Pairwise Key.Precedes ∧ finished.createdKeys.Nodup ∧
      ∀ key : Key, key ∈ finished.createdKeys ↔
        tables.contains key.kind key.id = false ∧
          finished.tables.contains key.kind key.id = true ∧ key ∉ begun.removedBy writes := by
  intro begun finished
  have sorted : finished.createdKeys.Pairwise Key.Precedes := Key.ordered_sorted _
  refine ⟨sorted, sorted.imp Key.Precedes.ne, fun key => ?_⟩
  rw [createdKeys, Key.mem_ordered_iff]
  exact ((listsNew_start tables).performAll (remembers_start tables) writes).created key

end Transaction

end SensorThings
