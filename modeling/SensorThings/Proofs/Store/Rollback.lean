import SensorThings.Proofs.Store.View

/-!
Rolling back. Writes go into the tables at once and only the first write to a key is remembered, so
the log holds what every key it names held at the start, and every other key still holds it.
-/
namespace SensorThings

/-- One write to the tables. -/
inductive Write where
  | save (kind : EntityKind) (entity : kind.Entity)
  | delete (kind : EntityKind) (id : EntityId)

namespace Transaction

/-- Deleting what is not there fails and leaves everything as it is. -/
def perform (transaction : Transaction) : Write → Transaction
  | .save kind entity => transaction.save kind entity
  | .delete kind id =>
    match transaction.delete kind id with
    | .ok (_, after) => after
    | .error _ => transaction

def performAll (transaction : Transaction) (writes : List Write) : Transaction :=
  writes.foldl perform transaction

@[simp] theorem performAll_nil (transaction : Transaction) :
    transaction.performAll [] = transaction :=
  rfl

@[simp] theorem performAll_append (transaction : Transaction) (first second : List Write) :
    transaction.performAll (first ++ second) =
      (transaction.performAll first).performAll second :=
  List.foldl_append

/-- The log of a transaction that began at `start`, as far as a roll-back needs it. -/
structure Remembers (transaction : Transaction) (start : Tables) : Prop where
  entries : ∀ entry ∈ transaction.log, entry.previous = start.find? entry.kind entry.id
  others : ∀ kind id, transaction.hasTouched ⟨kind, id⟩ = false →
    transaction.tables.find? kind id = start.find? kind id

theorem remembers_start (tables : Tables) : (start tables).Remembers tables :=
  ⟨by simp [start], fun _ _ _ => rfl⟩

private theorem hasTouched_cons {entry : Remembered} {log : List Remembered} {tables : Tables}
    {created : List Key} {key : Key} :
    (Transaction.mk tables (entry :: log) created).hasTouched key = false ↔
      entry.key ≠ key ∧ log.any (·.key == key) = false := by
  simp [hasTouched]

private theorem Remembers.write {transaction : Transaction} {start tables : Tables}
    {kind : EntityKind} {id : EntityId} (remembers : transaction.Remembers start)
    (created : List Key)
    (frame : ∀ other place, (⟨other, place⟩ : Key) ≠ ⟨kind, id⟩ →
      tables.find? other place = transaction.tables.find? other place) :
    (Transaction.mk tables
      (if transaction.hasTouched ⟨kind, id⟩ then transaction.log
        else ⟨kind, id, transaction.tables.find? kind id⟩ :: transaction.log)
      created).Remembers start := by
  by_cases touched : transaction.hasTouched ⟨kind, id⟩ = true
  · rw [if_pos touched]
    refine ⟨remembers.entries, fun other place untouched => ?_⟩
    have different : (⟨other, place⟩ : Key) ≠ ⟨kind, id⟩ := by
      rintro ⟨⟩
      exact absurd untouched (by simpa [hasTouched] using touched)
    rw [frame other place different]
    exact remembers.others other place untouched
  · rw [if_neg touched]
    have first : transaction.tables.find? kind id = start.find? kind id :=
      remembers.others kind id (by simpa using touched)
    refine ⟨fun entry member => ?_, fun other place untouched => ?_⟩
    · rcases List.mem_cons.1 member with rfl | earlier
      · exact first
      · exact remembers.entries entry earlier
    · rw [hasTouched_cons] at untouched
      rw [frame other place (Ne.symm untouched.1)]
      exact remembers.others other place untouched.2

theorem Remembers.save {transaction : Transaction} {start : Tables}
    (remembers : transaction.Remembers start) (kind : EntityKind) (entity : kind.Entity) :
    (transaction.save kind entity).Remembers start := by
  have frame : ∀ other place, (⟨other, place⟩ : Key) ≠ ⟨kind, kind.idOf entity⟩ →
      (transaction.tables.put kind entity).find? other place =
        transaction.tables.find? other place := by
    intro other place different
    by_cases same : other = kind
    · subst same
      rw [Tables.find?_put, if_neg fun here => different (by rw [here])]
    · exact Tables.find?_put_of_ne _ _ _ same
  have written := remembers.write transaction.created frame
  simp only [Transaction.save]
  split
  next touched => simpa only [touched, if_true] using written
  next untouched =>
    rw [if_neg untouched] at written
    exact ⟨written.entries, written.others⟩

theorem Remembers.delete {transaction after : Transaction} {start : Tables} {kind : EntityKind}
    {id : EntityId} {entity : kind.Entity} (remembers : transaction.Remembers start)
    (deleted : transaction.delete kind id = .ok (entity, after)) : after.Remembers start := by
  unfold Transaction.delete at deleted
  split at deleted
  next => contradiction
  next found here =>
    obtain ⟨-, rfl⟩ := Prod.mk.inj (Except.ok.inj deleted)
    rw [← here]
    refine remembers.write _ fun other place different => ?_
    by_cases same : other = kind
    · subst same
      rw [Tables.find?_remove, if_neg fun here => different (by rw [here])]
    · exact Tables.find?_remove_of_ne _ _ _ same

theorem Remembers.perform {transaction : Transaction} {start : Tables}
    (remembers : transaction.Remembers start) (write : Write) :
    (transaction.perform write).Remembers start := by
  cases write with
  | save kind entity => exact remembers.save kind entity
  | delete kind id =>
    simp only [Transaction.perform]
    split
    next entity after deleted => exact remembers.delete deleted
    next => exact remembers

theorem Remembers.performAll {transaction : Transaction} {start : Tables}
    (remembers : transaction.Remembers start) (writes : List Write) :
    (transaction.performAll writes).Remembers start := by
  induction writes generalizing transaction with
  | nil => exact remembers
  | cons write rest ih => exact ih (remembers.perform write)

private theorem find?_undo {start tables : Tables} {entry : Remembered}
    (remembered : entry.previous = start.find? entry.kind entry.id) (kind : EntityKind)
    (id : EntityId) :
    (entry.undo tables).find? kind id =
      if entry.key = ⟨kind, id⟩ then start.find? kind id else tables.find? kind id := by
  obtain ⟨entryKind, entryId, previous⟩ := entry
  simp only at remembered
  by_cases same : kind = entryKind
  · subst same
    simp only [Remembered.undo, Remembered.key, Key.mk.injEq, true_and]
    cases previous with
    | some entity =>
      have identified : kind.idOf entity = entryId := Tables.idOf_of_find? remembered.symm
      rw [Tables.find?_put, identified, remembered]
      split
      next here => rw [here]
      next => rfl
    | none =>
      rw [Tables.find?_remove, remembered]
      by_cases here : entryId = id
      · rw [if_pos here, if_pos here.symm, here]
      · rw [if_neg here, if_neg (Ne.symm here)]
  · have different : ¬(⟨entryKind, entryId⟩ : Key) = ⟨kind, id⟩ := fun keys =>
      same (congrArg Key.kind keys).symm
    simp only [Remembered.undo, Remembered.key, different, if_false]
    cases previous with
    | some entity => exact Tables.find?_put_of_ne _ _ _ same
    | none => exact Tables.find?_remove_of_ne _ _ _ same

private theorem find?_undoAll {start : Tables} (log : List Remembered) (tables : Tables)
    (remembered : ∀ entry ∈ log, entry.previous = start.find? entry.kind entry.id)
    (kind : EntityKind) (id : EntityId)
    (untouched : log.any (·.key == ⟨kind, id⟩) = false →
      tables.find? kind id = start.find? kind id) :
    (log.foldl Remembered.undo tables).find? kind id = start.find? kind id := by
  induction log generalizing tables with
  | nil => exact untouched rfl
  | cons entry rest ih =>
    refine ih (entry.undo tables) (fun other member =>
      remembered other (List.mem_cons_of_mem _ member)) fun later => ?_
    rw [find?_undo (remembered entry List.mem_cons_self)]
    split
    next => rfl
    next different => exact untouched (by simp [different, later])

theorem Remembers.rollback {transaction : Transaction} {start : Tables}
    (remembers : transaction.Remembers start) : transaction.rollback = start :=
  Tables.ext_find? fun kind id =>
    find?_undoAll transaction.log transaction.tables remembers.entries kind id
      (remembers.others kind id)

@[simp] theorem rollback_performAll (tables : Tables) (writes : List Write) :
    ((start tables).performAll writes).rollback = tables :=
  ((remembers_start tables).performAll writes).rollback

end Transaction

end SensorThings
