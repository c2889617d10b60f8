import Mathlib.Logic.Function.Basic
import SensorThings.Proofs.Store.Loading
import SensorThings.Proofs.Store.Rollback

/-!
What a transaction hands on to be kept. The pending writes name every key that was written to, each
once and in order, with what it holds now; every other key holds what it held at the start, so the
list says all that the transaction changed.
-/
namespace SensorThings

namespace Key

/-- The order in which changes are listed: by kind, then by identifier. -/
def Precedes (left right : Key) : Prop :=
  left.kind.index < right.kind.index ∨ left.kind = right.kind ∧ left.id < right.id

theorem Precedes.ne {left right : Key} (precedes : left.Precedes right) : left ≠ right := by
  rintro rfl
  rcases precedes with kinds | ⟨-, ids⟩
  · exact Nat.lt_irrefl _ kinds
  · exact EntityId.lt_irrefl _ ids

@[simp]
theorem mem_ordered_iff {keys : List Key} {key : Key} : key ∈ ordered keys ↔ key ∈ keys := by
  obtain ⟨kind, id⟩ := key
  simp only [ordered, List.mem_flatMap, List.mem_map, IdSet.mem_ofIds_iff, List.mem_filter,
    beq_iff_eq]
  constructor
  · rintro ⟨_, -, _, ⟨found, ⟨member, rfl⟩, rfl⟩, same⟩
    exact same ▸ member
  · intro member
    exact ⟨kind, kind.mem_all, id, ⟨⟨kind, id⟩, ⟨member, rfl⟩, rfl⟩, rfl⟩

private theorem all_sorted :
    EntityKind.all.Pairwise fun left right => left.index < right.index := by
  decide

theorem ordered_sorted (keys : List Key) : (ordered keys).Pairwise Precedes := by
  refine List.pairwise_flatMap.2 ⟨fun kind _ => ?_, all_sorted.imp fun {left right} less => ?_⟩
  · exact List.pairwise_map.2 ((IdSet.ofIds _).sorted.imp fun less => .inr ⟨rfl, less⟩)
  · intro earlier inLeft later inRight
    obtain ⟨_, -, rfl⟩ := List.mem_map.1 inLeft
    obtain ⟨_, -, rfl⟩ := List.mem_map.1 inRight
    exact .inl less

end Key

namespace Tables

def apply (tables : Tables) : Key × Option Json → Except Failure Tables
  | (key, some document) => tables.loadDocument key.kind document
  | (key, none) => .ok (tables.remove key.kind key.id)

theorem exists_apply (tables other : Tables) {key : Key}
    (readsBack : ∀ row, other.find? key.kind key.id = some row →
      key.kind.ofDocument? (key.kind.toDocument row) = some row) :
    ∃ applied, tables.apply (key, other.document? key) = .ok applied ∧ ∀ kind id,
      applied.find? kind id =
        if ⟨kind, id⟩ = key then other.find? kind id else tables.find? kind id := by
  obtain ⟨here, place⟩ := key
  cases found : other.find? here place with
  | none =>
    refine ⟨tables.remove here place, by simp [document?, found, apply], fun kind id => ?_⟩
    by_cases same : kind = here
    · subst same
      simp only [find?_remove, Key.mk.injEq, true_and]
      split
      next equal => rw [equal, found]
      next => rfl
    · rw [find?_remove_of_ne _ _ _ same, if_neg fun keys => same (congrArg Key.kind keys)]
  | some row =>
    refine ⟨tables.put here row, ?_, fun kind id => ?_⟩
    · rw [document?_of_find? found]
      exact loadDocument_of_ofDocument? (readsBack row found)
    by_cases same : kind = here
    · subst same
      simp only [find?_put, idOf_of_find? found, Key.mk.injEq, true_and, eq_comm (a := place)]
      split
      next equal => rw [equal, found]
      next => rfl
    · rw [find?_put_of_ne _ _ _ same, if_neg fun keys => same (congrArg Key.kind keys)]

theorem exists_applyAll (tables other : Tables) {keys : List Key}
    (readsBack : ∀ key ∈ keys, ∀ row, other.find? key.kind key.id = some row →
      key.kind.ofDocument? (key.kind.toDocument row) = some row) :
    ∃ applied, (keys.map fun key => (key, other.document? key)).foldlM apply tables = .ok applied ∧
      ∀ kind id, applied.find? kind id =
        if ⟨kind, id⟩ ∈ keys then other.find? kind id else tables.find? kind id := by
  induction keys generalizing tables with
  | nil => exact ⟨tables, rfl, fun _ _ => by simp⟩
  | cons key rest ih =>
    rw [List.forall_mem_cons] at readsBack
    obtain ⟨next, applied, one⟩ := exists_apply tables other readsBack.1
    obtain ⟨last, appliedAll, all⟩ := ih next readsBack.2
    refine ⟨last, ?_, fun kind id => ?_⟩
    · rw [List.map_cons, List.foldlM_cons, applied]
      exact appliedAll
    · rw [all, one]
      by_cases later : ⟨kind, id⟩ ∈ rest <;> by_cases now : ⟨kind, id⟩ = key <;>
        simp [later, now]

end Tables

theorem foldl_update {α β : Type} [DecidableEq α] (keys : List α) (values other : α → β) :
    (keys.map fun key => (key, other key)).foldl
        (fun values write => Function.update values write.1 write.2) values =
      fun key => if key ∈ keys then other key else values key := by
  induction keys generalizing values with
  | nil => simp
  | cons first rest ih =>
    rw [List.map_cons, List.foldl_cons, ih]
    funext key
    by_cases later : key ∈ rest <;> by_cases now : key = first <;> simp [later, now]

namespace Transaction

/-- The key that a write reaches. Deleting what is not there reaches none. -/
def reached? (transaction : Transaction) : Write → Option Key
  | .save kind entity => some ⟨kind, kind.idOf entity⟩
  | .delete kind id => if transaction.tables.contains kind id then some ⟨kind, id⟩ else none

def reachedBy (transaction : Transaction) : List Write → List Key
  | [] => []
  | write :: rest =>
    (transaction.reached? write).toList ++ (transaction.perform write).reachedBy rest

@[simp] theorem mem_touched_iff {transaction : Transaction} {key : Key} :
    key ∈ transaction.touched ↔ transaction.hasTouched key = true := by
  rw [touched, Key.mem_ordered_iff, List.mem_map, hasTouched, List.any_eq_true]
  simp only [beq_iff_eq]

@[simp] theorem hasTouched_perform {transaction : Transaction} {write : Write} {key : Key} :
    (transaction.perform write).hasTouched key = true ↔
      transaction.reached? write = some key ∨ transaction.hasTouched key = true := by
  have added (entry : Remembered) (tables : Tables) (created : List Key) :
      (Transaction.mk tables (entry :: transaction.log) created).hasTouched key = true ↔
        entry.key = key ∨ transaction.hasTouched key = true := by
    simp [hasTouched]
  have known {place : Key} (touched : transaction.hasTouched place = true) :
      place = key ∨ transaction.hasTouched key = true ↔ transaction.hasTouched key = true :=
    or_iff_right_of_imp fun same => same ▸ touched
  cases write with
  | save kind entity =>
    rw [reached?, Option.some.injEq, perform, save]
    split
    next touched => exact (known touched).symm
    next => exact added ..
  | delete kind id =>
    rw [perform, Transaction.delete, reached?, Tables.contains]
    cases transaction.tables.find? kind id with
    | none => simp
    | some entity =>
      simp only [Option.isSome_some, if_true, Option.some.injEq]
      split
      next touched => exact (known touched).symm
      next => exact added ..

@[simp]
theorem hasTouched_performAll {transaction : Transaction} {writes : List Write} {key : Key} :
    (transaction.performAll writes).hasTouched key = true ↔
      key ∈ transaction.reachedBy writes ∨ transaction.hasTouched key = true := by
  induction writes generalizing transaction with
  | nil => simp [reachedBy]
  | cons write rest ih =>
    have later : (transaction.performAll (write :: rest)).hasTouched key = true ↔
        key ∈ (transaction.perform write).reachedBy rest ∨
          (transaction.perform write).hasTouched key = true := ih
    rw [later, hasTouched_perform, reachedBy, List.mem_append, Option.mem_toList, or_assoc,
      or_left_comm]

@[simp] theorem pendingWrites_keys (transaction : Transaction) :
    transaction.pendingWrites.map Prod.fst = transaction.touched := by
  rw [pendingWrites, List.map_map]
  exact List.map_id _

@[simp] theorem isEmpty_iff {transaction : Transaction} :
    transaction.isEmpty = true ↔ transaction.pendingWrites = [] := by
  rw [isEmpty, List.isEmpty_iff, pendingWrites, List.map_eq_nil_iff]
  constructor
  · intro nothing
    rw [touched, nothing]
    rfl
  · intro nothing
    rw [List.eq_nil_iff_forall_not_mem] at nothing ⊢
    intro entry member
    exact nothing entry.key (Key.mem_ordered_iff.2 (List.mem_map_of_mem member))

/-- Whatever is saved and deleted, in whatever order and however often: the pending writes list the
keys that were reached, each once and in order, with the document that each has now. The rows of all
other keys are those of the start, so the list turns the documents of the start into those of now,
and the tables of the start into those of now, if documents can hold the listed rows and the years
of their intervals have four digits. Committing counts one version more, unless nothing is
listed. -/
theorem pendingWrites_performAll (store : Store) (writes : List Write) :
    let begun := start store.tables
    let finished := begun.performAll writes
    let listed := finished.pendingWrites
    (listed.map Prod.fst).Pairwise Key.Precedes ∧ (listed.map Prod.fst).Nodup ∧
      (∀ key, key ∈ listed.map Prod.fst ↔ key ∈ begun.reachedBy writes) ∧
      (∀ key document, (key, document) ∈ listed → document = finished.tables.document? key) ∧
      (∀ kind id, ⟨kind, id⟩ ∉ listed.map Prod.fst →
        finished.tables.find? kind id = store.tables.find? kind id) ∧
      listed.foldl (fun documents write => Function.update documents write.1 write.2)
        store.tables.document? = finished.tables.document? ∧
      ((∀ key ∈ listed.map Prod.fst, ∀ row, finished.tables.find? key.kind key.id = some row →
          key.kind.IsStorable row ∧
            ∀ instant ∈ key.kind.spanInstants row, instant.InFourDigits) →
        listed.foldlM Tables.apply store.tables = .ok finished.tables) ∧
      store.commit finished =
        ⟨finished.tables, if listed = [] then store.version else store.version + 1⟩ := by
  intro begun finished listed
  have keys : listed.map Prod.fst = finished.touched := pendingWrites_keys finished
  have sorted : finished.touched.Pairwise Key.Precedes := Key.ordered_sorted _
  have others : ∀ kind id, ⟨kind, id⟩ ∉ finished.touched →
      finished.tables.find? kind id = store.tables.find? kind id := by
    intro kind id unlisted
    rw [mem_touched_iff, Bool.not_eq_true] at unlisted
    exact ((remembers_start store.tables).performAll writes).others kind id unlisted
  rw [keys]
  refine ⟨sorted, sorted.imp Key.Precedes.ne, fun key => ?_,
    fun key document => document?_of_mem_pendingWrites, others, ?_, fun granted => ?_, ?_⟩
  · rw [mem_touched_iff, hasTouched_performAll]
    simp [begun, start, hasTouched]
  · refine (foldl_update finished.touched store.tables.document? _).trans (funext fun key => ?_)
    split
    next => rfl
    next unlisted => rw [Tables.document?, Tables.document?, others _ _ unlisted]
  · obtain ⟨applied, run, rows⟩ := store.tables.exists_applyAll finished.tables
      fun key member row found => EntityKind.ofDocument?_toDocument (granted key member row found).1
        (granted key member row found).2
    refine run.trans (congrArg _ (Tables.ext_find? fun kind id => ?_))
    rw [rows]
    split
    next => rfl
    next unlisted => exact (others kind id unlisted).symm
  · rw [Store.commit]
    congr 1
    simp only [isEmpty_iff, listed]

def named (id name : String) : Thing :=
  ⟨⟨id⟩, name, "d", none, []⟩

def observedAt (time : Instant) : Datastream :=
  ⟨⟨"d"⟩, "n", "d", .text, ⟨"u"⟩, ⟨"f"⟩, ⟨"t"⟩, ⟨"s"⟩, ⟨"p"⟩, some (.point time), none, none⟩

def twoThings : Tables :=
  (({} : Tables).put .thing (named "a" "old")).put .thing (named "c" "old")

/-- Writes that create, replace, delete, save again, and delete what is not there. -/
def manyWrites : List Write :=
  [.save .thing (named "b" "new"), .save .thing (named "a" "new"), .delete .sensor ⟨"x"⟩,
    .delete .thing ⟨"b"⟩, .delete .thing ⟨"c"⟩, .save .thing (named "c" "new"),
    .save .datastream (observedAt default)]

def afterMany : Transaction :=
  (start twoThings).performAll manyWrites

theorem pendingWrites_performAll_many :
    afterMany.pendingWrites.map Prod.fst =
        [⟨.thing, ⟨"a"⟩⟩, ⟨.thing, ⟨"b"⟩⟩, ⟨.thing, ⟨"c"⟩⟩, ⟨.datastream, ⟨"d"⟩⟩] ∧
      afterMany.pendingWrites.foldlM Tables.apply twoThings = .ok afterMany.tables ∧
      ((afterMany.tables.find? .thing ⟨"a"⟩).map Thing.name,
        (afterMany.tables.find? .thing ⟨"b"⟩).map Thing.name,
        (afterMany.tables.find? .thing ⟨"c"⟩).map Thing.name) = (some "new", none, some "new") ∧
      (Store.mk twoThings 4).commit afterMany = ⟨afterMany.tables, 5⟩ := by
  have keys : afterMany.pendingWrites.map Prod.fst =
      [⟨.thing, ⟨"a"⟩⟩, ⟨.thing, ⟨"b"⟩⟩, ⟨.thing, ⟨"c"⟩⟩, ⟨.datastream, ⟨"d"⟩⟩] := by
    decide +kernel
  obtain ⟨-, -, -, -, -, -, applied, committed⟩ :=
    pendingWrites_performAll ⟨twoThings, 4⟩ manyWrites
  refine ⟨keys, applied ?_, by decide +kernel, committed⟩
  change ∀ key ∈ afterMany.pendingWrites.map Prod.fst, _
  rw [keys]
  simp only [List.forall_mem_cons]
  refine ⟨?_, nofun, ?_, ?_, nofun⟩
  · intro row found
    obtain rfl : named "a" "new" = row := Option.some.inj found
    exact ⟨nofun, List.forall_mem_nil _⟩
  · intro row found
    obtain rfl : named "c" "new" = row := Option.some.inj found
    exact ⟨nofun, List.forall_mem_nil _⟩
  · intro row found
    obtain rfl : observedAt default = row := Option.some.inj found
    exact ⟨nofun, by decide⟩

def nullThing : Thing :=
  { named "t" "n" with properties := some .null }

def farStream : Datastream :=
  observedAt ⟨⟨10000, 1, 1, rfl⟩, .midnight⟩

/-- Properties that are a null read back as none at all, and the year 10000 is not read back. -/
theorem pendingWrites_performAll_unread :
    (∃ applied, ((start {}).performAll [.save .thing nullThing]).pendingWrites.foldlM Tables.apply
        {} = .ok applied ∧
      applied.find? .thing ⟨"t"⟩ ≠
        ((start {}).performAll [.save .thing nullThing]).tables.find? .thing ⟨"t"⟩) ∧
    ((start {}).performAll [.save .datastream farStream]).pendingWrites.foldlM Tables.apply {} =
      .error .document := by
  refine ⟨⟨_, rfl, fun same => ?_⟩, rfl⟩
  have shown := congrArg (fun found => found.map fun thing : Thing => thing.properties.isSome) same
  revert shown
  decide +kernel

end Transaction

end SensorThings
