import SensorThings.Change.Config
import SensorThings.Store.Transaction

/-!
Changes: programs that write through one transaction, draw new identifiers, and may fail. A failed
change keeps what it wrote in the log of the transaction, so that it can be rolled back.
-/
namespace SensorThings

/-- What a change is given from outside. -/
structure Environment where
  now : Instant
  config : Config
  /-- The identifiers to draw, numbered from 1. -/
  fresh : Nat → EntityId

/-- The transaction so far, and how many identifiers were drawn. -/
structure Progress where
  transaction : Transaction
  drawn : Nat

abbrev Change (α : Type) := ReaderT Environment (EStateM Failure Progress) α

namespace Change

def now : Change Instant :=
  return (← read).now

def config : Change Config :=
  return (← read).config

def tables : Change Tables :=
  return (← get).transaction.tables

def draw : Change EntityId := do
  let number := (← get).drawn + 1
  modify fun progress => { progress with drawn := number }
  return (← read).fresh number

def save (kind : EntityKind) (entity : kind.Entity) : Change Unit :=
  modify fun progress =>
    { progress with transaction := progress.transaction.save kind entity }

def delete (kind : EntityKind) (id : EntityId) : Change kind.Entity := fun _ progress =>
  match progress.transaction.delete kind id with
  | .ok (entity, transaction) => .ok entity { progress with transaction }
  | .error failure => .error failure progress

def find? (kind : EntityKind) (id : EntityId) : Change (Option kind.Entity) :=
  return (← tables).find? kind id

def ofExcept {α : Type} : Except Failure α → Change α
  | .ok value => return value
  | .error failure => throw failure

def fetch (kind : EntityKind) (id : EntityId) : Change kind.Entity := do
  ofExcept ((← tables).get kind id)

def existing (kind : EntityKind) (id : EntityId) : Change EntityId := do
  let _ ← fetch kind id
  return id

def idWhere? (kind : EntityKind) (predicate : Predicate) : Change (Option EntityId) :=
  return ((← tables).findWhere? kind predicate).map kind.idOf

def idsWhere (kind : EntityKind) (keep : kind.Entity → Bool) : Change (List EntityId) :=
  return (← tables).idsWhere kind keep

def missing {α : Type} (kind : EntityKind) (property : String) : Change α :=
  throw (.missing kind property)

def require {α : Type} (kind : EntityKind) (property : String) : Option α → Change α
  | some value => return value
  | none => missing kind property

def requireThat (kind : EntityKind) (property : String) (given : Bool) : Change Unit :=
  if given then return () else missing kind property

/-- The identifier that a client gave, if it is free, or a new one. -/
def claim (kind : EntityKind) : Option EntityId → Change EntityId
  | none => draw
  | some id => do
    if (← tables).contains kind id then throw (.conflict kind id) else return id

def start (change : Change α) (environment : Environment) (tables : Tables) :
    EStateM.Result Failure Progress α :=
  change environment ⟨.start tables, 0⟩

end Change

/-- Make a change to a store: all of it, or nothing. -/
def Store.change {α : Type} (store : Store) (environment : Environment) (change : Change α) :
    Except Failure α × Store :=
  match change.start environment store.tables with
  | .ok value progress => (.ok value, store.commit progress.transaction)
  | .error failure progress => (.error failure, store.abandon progress.transaction)

end SensorThings
