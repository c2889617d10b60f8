import SensorThings.Store.Tables

/-!
Transactions write into the tables at once and keep a log of what each key held before its first
write. Rolling back replays the log, newest entry first.
-/
namespace SensorThings

/-- What a key held before a transaction first wrote to it. -/
structure Remembered where
  kind : EntityKind
  id : EntityId
  previous : Option kind.Entity

namespace Remembered

def key (entry : Remembered) : Key :=
  ⟨entry.kind, entry.id⟩

def undo (tables : Tables) (entry : Remembered) : Tables :=
  match entry.previous with
  | some entity => tables.put entry.kind entity
  | none => tables.remove entry.kind entry.id

end Remembered

def Key.ordered (keys : List Key) : List Key :=
  EntityKind.all.flatMap fun kind =>
    let ids := (keys.filter (·.kind == kind)).map Key.id
    (IdSet.ofIds ids).items.map (Key.mk kind)

/-- The log has its newest entry first, and one entry for each key written to. -/
structure Transaction where
  tables : Tables
  log : List Remembered
  created : List Key

namespace Transaction

instance : Inhabited Transaction := ⟨⟨{}, [], []⟩⟩

def start (tables : Tables) : Transaction :=
  ⟨tables, [], []⟩

def hasTouched (transaction : Transaction) (key : Key) : Bool :=
  transaction.log.any (·.key == key)

/-- Add or replace an entity. A key counts as created if the transaction found it empty. -/
def save (transaction : Transaction) (kind : EntityKind) (entity : kind.Entity) : Transaction :=
  let id := kind.idOf entity
  let tables := transaction.tables.put kind entity
  if transaction.hasTouched ⟨kind, id⟩ then { transaction with tables }
  else
    let previous := transaction.tables.find? kind id
    { tables
      log := ⟨kind, id, previous⟩ :: transaction.log
      created :=
        if previous.isSome then transaction.created else ⟨kind, id⟩ :: transaction.created }

def delete (transaction : Transaction) (kind : EntityKind) (id : EntityId) :
    Except Failure (kind.Entity × Transaction) :=
  match transaction.tables.find? kind id with
  | none => .error (.notFound kind id)
  | some entity =>
    let key : Key := ⟨kind, id⟩
    .ok (entity, {
      tables := transaction.tables.remove kind id
      log :=
        if transaction.hasTouched key then transaction.log
        else ⟨kind, id, some entity⟩ :: transaction.log
      created := transaction.created.filter (· != key) })

def rollback (transaction : Transaction) : Tables :=
  transaction.log.foldl Remembered.undo transaction.tables

def touched (transaction : Transaction) : List Key :=
  Key.ordered (transaction.log.map Remembered.key)

def createdKeys (transaction : Transaction) : List Key :=
  Key.ordered transaction.created

/-- The documents of all keys written to, as they are now; none for what is gone. -/
def pendingWrites (transaction : Transaction) : List (Key × Option Json) :=
  transaction.touched.map fun key => (key, transaction.tables.document? key)

def isEmpty (transaction : Transaction) : Bool :=
  transaction.log.isEmpty

end Transaction

/-- The tables and how often they have changed. -/
structure Store where
  tables : Tables
  version : Nat

namespace Store

instance : Inhabited Store := ⟨⟨{}, 0⟩⟩

def commit (store : Store) (transaction : Transaction) : Store where
  tables := transaction.tables
  version := if transaction.isEmpty then store.version else store.version + 1

def abandon (store : Store) (transaction : Transaction) : Store where
  tables := transaction.rollback
  version := store.version

end Store

end SensorThings
