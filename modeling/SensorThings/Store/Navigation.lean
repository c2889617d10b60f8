import SensorThings.Model.Schema
import SensorThings.Store.Query

/-!
Navigation: the entities of one kind that relate to an entity of another kind, as a predicate, and
the plans for queries on a collection.
-/
namespace SensorThings

namespace Predicate

/-- Rows whose to-one relation leads to an entity. A relation has the name of its target. -/
def relatedTo (target : EntityKind) (id : EntityId) : Predicate :=
  .equal (.column ⟨[⟨target.name, target.name⟩], "id", []⟩) (.text id.text)

def oneOf (ids : List EntityId) : Predicate :=
  .anyOf (ids.map fun id => .equal (.here "id") (.text id.text))

end Predicate

namespace EntityKind

/-- How the children of a parent are found, for the pairs of kinds that relate. -/
def navigation? : (parent child : EntityKind) → Option (Tables → parent.Entity → Predicate)
  | .thing, .location => some fun _ (thing : Thing) => .oneOf thing.locations
  | .thing, .datastream => some fun _ (thing : Thing) => .relatedTo .thing thing.id
  | .thing, .historicalLocation => some fun _ (thing : Thing) => .relatedTo .thing thing.id
  | .location, .thing => some fun tables (location : Location) =>
    .oneOf (tables.idsWhere .thing fun (thing : Thing) => thing.locations.contains location.id)
  | .location, .historicalLocation => some fun _ (location : Location) =>
    .oneOf location.historicalLocations.items
  | .historicalLocation, .thing => some fun _ (historical : HistoricalLocation) =>
    .oneOf [historical.thing]
  | .historicalLocation, .location => some fun _ (historical : HistoricalLocation) =>
    .oneOf historical.locations.items
  | .sensor, .datastream => some fun _ (sensor : Sensor) => .relatedTo .sensor sensor.id
  | .observedProperty, .datastream => some fun _ (property : ObservedProperty) =>
    .relatedTo .observedProperty property.id
  | .datastream, .thing => some fun _ (datastream : Datastream) => .oneOf [datastream.thing]
  | .datastream, .sensor => some fun _ (datastream : Datastream) => .oneOf [datastream.sensor]
  | .datastream, .observedProperty => some fun _ (datastream : Datastream) =>
    .oneOf [datastream.observedProperty]
  | .datastream, .observation => some fun _ (datastream : Datastream) =>
    .relatedTo .datastream datastream.id
  | .featureOfInterest, .observation => some fun _ (feature : FeatureOfInterest) =>
    .relatedTo .featureOfInterest feature.id
  | .observation, .datastream => some fun _ (observation : Observation) =>
    .oneOf [observation.datastream]
  | .observation, .featureOfInterest => some fun _ (observation : Observation) =>
    .oneOf [observation.feature]
  | _, _ => none

end EntityKind

/-- The children of a parent. That the kinds do not relate is found before the parent is looked up.
-/
def Tables.scope (tables : Tables) (parent : EntityKind) (id : EntityId) (child : EntityKind) :
    Except Failure Predicate :=
  match parent.navigation? child with
  | none => .error (.unrelated parent child)
  | some related => (tables.get parent id).map (related tables)

def QueryOptions.planFor (options : QueryOptions) (kind : EntityKind) (paging : Paging)
    (now : Instant) (scope : Option Predicate) : Except Failure QueryPlan :=
  match kind.propertyMap? with
  | none => .error (.notQueryable kind)
  | some root =>
    (options.plan { schema := EntityKind.schema, root, now } paging scope).mapError .query

def Page.ids {kind : EntityKind} (page : Page kind) : List EntityId :=
  page.items.map kind.idOf

end SensorThings
