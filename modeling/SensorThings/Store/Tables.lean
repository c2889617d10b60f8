import SensorThings.Filter.Evaluation
import SensorThings.Model.Columns
import SensorThings.Model.Document
import SensorThings.Model.Failure
import SensorThings.Spatial.Measure

/-!
All entities: one table for each kind. What a table holds after a write is said once, for all kinds
together, by the lemmas about `find?`.
-/
namespace SensorThings

structure Tables where
  things : Table .thing := .empty
  locations : Table .location := .empty
  historicalLocations : Table .historicalLocation := .empty
  sensors : Table .sensor := .empty
  observedProperties : Table .observedProperty := .empty
  datastreams : Table .datastream := .empty
  features : Table .featureOfInterest := .empty
  observations : Table .observation := .empty
  datasets : Table .dataset := .empty
  units : Table .unitOfMeasurement := .empty
  formats : Table .format := .empty

/-- A kind and an identifier name at most one entity. -/
structure Key where
  kind : EntityKind
  id : EntityId
deriving DecidableEq, Repr

/-- An entity together with its kind. -/
structure SomeEntity where
  kind : EntityKind
  entity : kind.Entity

namespace Tables

instance : Inhabited Tables := ⟨{}⟩

def table (tables : Tables) : (kind : EntityKind) → Table kind
  | .thing => tables.things
  | .location => tables.locations
  | .historicalLocation => tables.historicalLocations
  | .sensor => tables.sensors
  | .observedProperty => tables.observedProperties
  | .datastream => tables.datastreams
  | .featureOfInterest => tables.features
  | .observation => tables.observations
  | .dataset => tables.datasets
  | .unitOfMeasurement => tables.units
  | .format => tables.formats

def setTable (tables : Tables) : (kind : EntityKind) → Table kind → Tables
  | .thing, table => { tables with things := table }
  | .location, table => { tables with locations := table }
  | .historicalLocation, table => { tables with historicalLocations := table }
  | .sensor, table => { tables with sensors := table }
  | .observedProperty, table => { tables with observedProperties := table }
  | .datastream, table => { tables with datastreams := table }
  | .featureOfInterest, table => { tables with features := table }
  | .observation, table => { tables with observations := table }
  | .dataset, table => { tables with datasets := table }
  | .unitOfMeasurement, table => { tables with units := table }
  | .format, table => { tables with formats := table }

@[simp] theorem table_setTable_self (tables : Tables) (kind : EntityKind) (table : Table kind) :
    (tables.setTable kind table).table kind = table := by
  cases kind <;> rfl

@[simp]
theorem table_setTable_of_ne (tables : Tables) {kind other : EntityKind} (table : Table kind)
    (different : other ≠ kind) : (tables.setTable kind table).table other = tables.table other := by
  cases kind <;> cases other <;> first | rfl | exact absurd rfl different

def find? (tables : Tables) (kind : EntityKind) (id : EntityId) : Option kind.Entity :=
  (tables.table kind).find? id

def contains (tables : Tables) (kind : EntityKind) (id : EntityId) : Bool :=
  (tables.find? kind id).isSome

def get (tables : Tables) (kind : EntityKind) (id : EntityId) : Except Failure kind.Entity :=
  match tables.find? kind id with
  | some entity => .ok entity
  | none => .error (.notFound kind id)

def put (tables : Tables) (kind : EntityKind) (entity : kind.Entity) : Tables :=
  tables.setTable kind ((tables.table kind).insert entity)

def remove (tables : Tables) (kind : EntityKind) (id : EntityId) : Tables :=
  tables.setTable kind ((tables.table kind).erase id)

theorem find?_put (tables : Tables) (kind : EntityKind) (entity : kind.Entity) (id : EntityId) :
    (tables.put kind entity).find? kind id =
      if kind.idOf entity = id then some entity else tables.find? kind id := by
  simp [find?, put, Roster.find?_insert]

@[simp] theorem find?_put_of_ne (tables : Tables) {kind other : EntityKind} (entity : kind.Entity)
    (id : EntityId) (different : other ≠ kind) :
    (tables.put kind entity).find? other id = tables.find? other id := by
  simp [find?, put, table_setTable_of_ne _ _ different]

theorem find?_remove (tables : Tables) (kind : EntityKind) (removed id : EntityId) :
    (tables.remove kind removed).find? kind id =
      if id = removed then none else tables.find? kind id := by
  simp [find?, remove, Roster.find?_erase]

@[simp]
theorem find?_remove_of_ne (tables : Tables) {kind other : EntityKind} (removed id : EntityId)
    (different : other ≠ kind) :
    (tables.remove kind removed).find? other id = tables.find? other id := by
  simp [find?, remove, table_setTable_of_ne _ _ different]

def entities (tables : Tables) (kind : EntityKind) : List kind.Entity :=
  (tables.table kind).items

def idsWhere (tables : Tables) (kind : EntityKind) (keep : kind.Entity → Bool) : List EntityId :=
  ((tables.entities kind).filter keep).map kind.idOf

def counts (tables : Tables) : List (EntityKind × Nat) :=
  EntityKind.all.map fun kind => (kind, (tables.entities kind).length)

def follow? (tables : Tables) (start : SomeEntity) : List Hop → Option SomeEntity
  | [] => some start
  | hop :: rest => do
    let id ← start.kind.related? start.entity hop.relation
    let target ← EntityKind.ofName? hop.target
    let next ← tables.find? target id
    follow? tables ⟨target, next⟩ rest

def source (tables : Tables) (kind : EntityKind) (entity : kind.Entity) : RowSource := fun hops =>
  (tables.follow? ⟨kind, entity⟩ hops).map fun found => found.kind.column found.entity

def selects (tables : Tables) (kind : EntityKind) (predicate : Predicate)
    (entity : kind.Entity) : Bool :=
  predicate.selects (tables.source kind entity)

def filter (tables : Tables) (kind : EntityKind) (predicate : Predicate) : List kind.Entity :=
  (tables.entities kind).filter (tables.selects kind predicate)

def findWhere? (tables : Tables) (kind : EntityKind) (predicate : Predicate) : Option kind.Entity :=
  (tables.entities kind).find? (tables.selects kind predicate)

def document? (tables : Tables) (key : Key) : Option Json :=
  (tables.find? key.kind key.id).map key.kind.toDocument

def loadDocument (tables : Tables) (kind : EntityKind) (document : Json) : Except Failure Tables :=
  match kind.ofDocument? document with
  | some entity => .ok (tables.put kind entity)
  | none => .error .document

end Tables

end SensorThings
