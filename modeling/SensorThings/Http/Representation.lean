import SensorThings.Store.Tables
import SensorThings.Text.Integer

/-!
Entities as clients see them: their own members, an address, and a link for each relation.
-/
namespace SensorThings

namespace EntityKind

/-- The name in addresses; kinds without a collection have their own name. -/
def addressName (kind : EntityKind) : String :=
  kind.collection?.getD kind.name

/-- The address of an entity. Only identifiers that are numbers stand without quotes. -/
def selfLink (kind : EntityKind) (base : String) (id : EntityId) : String :=
  let shown :=
    if (Text.signed? id.text.toList).isSome then id.text else "'" ++ id.text ++ "'"
  base ++ "/" ++ kind.addressName ++ "(" ++ shown ++ ")"

/-- The relations of a kind, each under the name that its link ends in. -/
def relations : EntityKind → List String
  | thing => ["Locations", "HistoricalLocations", "Datastreams"]
  | location => ["Things", "HistoricalLocations"]
  | historicalLocation => ["Thing", "Locations"]
  | sensor => ["Datastreams"]
  | observedProperty => ["Datastreams"]
  | datastream => ["Thing", "Sensor", "ObservedProperty", "Observations"]
  | featureOfInterest => ["Observations"]
  | observation => ["Datastream", "FeatureOfInterest"]
  | dataset => []
  | unitOfMeasurement => []
  | format => []

end EntityKind

private def textOrNull : Option String → Json
  | some text => .string text
  | none => .null

/-- A unit as a member of its datastreams; an empty object if it is gone. -/
def UnitOfMeasurement.represent : Option UnitOfMeasurement → Json
  | none => .ofMembers []
  | some unit => .ofMembers [
    ("name", textOrNull unit.name),
    ("symbol", textOrNull unit.symbol),
    ("definition", textOrNull unit.definition)]

namespace Tables

/-- The members of an entity that are its own, not links. Only public kinds have any. -/
def ownMembers (tables : Tables) : (kind : EntityKind) → kind.Entity → List (String × Json)
  | .thing, (thing : Thing) =>
    [("name", .string thing.name), ("description", .string thing.description)] ++
      Json.free "properties" thing.properties
  | .location, (location : Location) =>
    [("name", .string location.name), ("description", .string location.description),
      ("encodingType", .string location.encodingType),
      ("location", location.location.toJson)] ++
      Json.free "properties" location.properties
  | .historicalLocation, (historical : HistoricalLocation) =>
    [("time", historical.time.toJson)]
  | .sensor, (sensor : Sensor) =>
    [("name", .string sensor.name), ("description", .string sensor.description),
      ("encodingType", .string sensor.encodingType), ("metadata", .string sensor.metadata)] ++
      Json.free "properties" sensor.properties
  | .observedProperty, (property : ObservedProperty) =>
    [("name", .string property.name), ("definition", .string property.definition),
      ("description", .string property.description)] ++
      Json.free "properties" property.properties
  | .datastream, (datastream : Datastream) =>
    [("name", .string datastream.name), ("description", .string datastream.description),
      ("unitOfMeasurement",
        UnitOfMeasurement.represent (tables.find? .unitOfMeasurement datastream.unit)),
      ("observationType", .string datastream.observationType.uri)] ++
      Json.present "phenomenonTime" Interval.toJson datastream.phenomenonTime ++
      Json.present "resultTime" Interval.toJson datastream.resultTime ++
      Json.free "properties" datastream.properties
  | .featureOfInterest, (feature : FeatureOfInterest) =>
    [("name", .string feature.name), ("description", .string feature.description),
      ("encodingType", .string feature.featureType), ("feature", feature.feature.toJson)] ++
      Json.free "properties" feature.properties
  | .observation, (observation : Observation) =>
    [("phenomenonTime", observation.phenomenonTime.toJson),
      ("resultTime", observation.resultTime.toJson)] ++
      Json.present "validTime" Interval.toJson observation.validTime ++
      [("result", observation.result.toJson)] ++
      Json.free "parameters" observation.parameters
  | .dataset, _ => []
  | .unitOfMeasurement, _ => []
  | .format, _ => []

/-- An entity as clients see it. -/
def represent (tables : Tables) (base : String) (kind : EntityKind) (entity : kind.Entity) :
    Json :=
  let id := kind.idOf entity
  let link := kind.selfLink base id
  .ofMembers
    ([("@iot.id", id.toJson), ("@iot.selfLink", .string link)] ++
      tables.ownMembers kind entity ++
      kind.relations.map fun relation =>
        (relation ++ "@iot.navigationLink", .string (link ++ "/" ++ relation)))

def representation (tables : Tables) (base : String) (kind : EntityKind) (id : EntityId) :
    Except Failure Json :=
  if kind.isPublic then (tables.get kind id).map (tables.represent base kind)
  else .error (.notEntitySet kind)

end Tables

/-- An object with the named members alone; other values are left as they are. -/
def Json.keeping (names : List String) : Json → Json
  | .object members => .object (members.filter fun (name, _) => names.contains name)
  | other => other

end SensorThings
