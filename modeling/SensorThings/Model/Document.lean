import SensorThings.Model.Entity
import SensorThings.Time.Reader

/-!
Stored documents: every entity as an object whose member `@iot.id` is its identifier. What is
missing in an entity is left out of its document, but for the members of a unit, which are then
null.
-/
namespace SensorThings

def Instant.ofDocument? (json : Json) : Option Instant :=
  json.string?.bind fun text => Time.lenient? text.toList

def Instant.toJson (instant : Instant) : Json :=
  .string instant.text

def Interval.ofJson? (json : Json) : Option Interval :=
  json.string?.bind fun text => (Interval.ofText text).toOption

def Interval.toJson (interval : Interval) : Json :=
  .string interval.text

def TimeSpan.ofJson? (json : Json) : Option TimeSpan :=
  json.string?.bind fun text => (TimeSpan.ofText text).toOption

def TimeSpan.toJson (time : TimeSpan) : Json :=
  .string time.text

def textOf (json : Json) (key : String) : Option String :=
  json.required? key Json.string?

def linkOf (json : Json) (key : String) : Option EntityId :=
  json.required? key EntityId.ofJson?

def freeOf (json : Json) (key : String) : Option (Option Json) :=
  json.optional? key some

def nullable : Option String → Json
  | some text => .string text
  | none => .null

namespace Thing

def toDocument (thing : Thing) : Json :=
  .ofMembers <| [
    ("@iot.id", thing.id.toJson),
    ("name", .string thing.name),
    ("description", .string thing.description),
    ("locations", .array (thing.locations.map EntityId.toJson))] ++
    Json.free "properties" thing.properties

def ofDocument? (json : Json) : Option Thing := do
  return {
    id := ← linkOf json "@iot.id"
    name := ← textOf json "name"
    description := ← textOf json "description"
    properties := ← freeOf json "properties"
    locations := ← json.default? "locations" [] (Json.list? EntityId.ofJson?) }

end Thing

namespace Location

def toDocument (location : Location) : Json :=
  .ofMembers <| [
    ("@iot.id", location.id.toJson),
    ("name", .string location.name),
    ("description", .string location.description),
    ("encodingType", .string location.encodingType),
    ("location", location.location.toJson),
    ("historicalLocations", IdSet.toJson location.historicalLocations)] ++
      Json.free "properties" location.properties

def ofDocument? (json : Json) : Option Location := do
  return {
    id := ← linkOf json "@iot.id"
    name := ← textOf json "name"
    description := ← textOf json "description"
    encodingType := ← textOf json "encodingType"
    location := ← json.required? "location" Geometry.ofJson?
    properties := ← freeOf json "properties"
    historicalLocations := ← json.default? "historicalLocations" .empty IdSet.ofJson? }

end Location

namespace HistoricalLocation

def toDocument (historical : HistoricalLocation) : Json :=
  .ofMembers [
    ("@iot.id", historical.id.toJson),
    ("time", historical.time.toJson),
    ("thingId", historical.thing.toJson),
    ("locationIds", IdSet.toJson historical.locations)]

def ofDocument? (json : Json) : Option HistoricalLocation := do
  return {
    id := ← linkOf json "@iot.id"
    time := ← json.required? "time" Instant.ofDocument?
    thing := ← linkOf json "thingId"
    locations := ← json.required? "locationIds" IdSet.ofJson? }

end HistoricalLocation

namespace Sensor

def toDocument (sensor : Sensor) : Json :=
  .ofMembers <| [
    ("@iot.id", sensor.id.toJson),
    ("name", .string sensor.name),
    ("description", .string sensor.description),
    ("encodingType", .string sensor.encodingType),
    ("metadata", .string sensor.metadata)] ++ Json.free "properties" sensor.properties

def ofDocument? (json : Json) : Option Sensor := do
  return {
    id := ← linkOf json "@iot.id"
    name := ← textOf json "name"
    description := ← textOf json "description"
    encodingType := ← textOf json "encodingType"
    metadata := ← textOf json "metadata"
    properties := ← freeOf json "properties" }

end Sensor

namespace ObservedProperty

def toDocument (property : ObservedProperty) : Json :=
  .ofMembers <| [
    ("@iot.id", property.id.toJson),
    ("name", .string property.name),
    ("definition", .string property.definition),
    ("description", .string property.description)] ++ Json.free "properties" property.properties

def ofDocument? (json : Json) : Option ObservedProperty := do
  return {
    id := ← linkOf json "@iot.id"
    name := ← textOf json "name"
    definition := ← textOf json "definition"
    description := ← textOf json "description"
    properties := ← freeOf json "properties" }

end ObservedProperty

namespace Datastream

def toDocument (datastream : Datastream) : Json :=
  .ofMembers <| [
    ("@iot.id", datastream.id.toJson),
    ("name", .string datastream.name),
    ("description", .string datastream.description),
    ("observationType", .string datastream.observationType.name),
    ("unitId", datastream.unit.toJson),
    ("formatId", datastream.format.toJson),
    ("thingId", datastream.thing.toJson),
    ("sensorId", datastream.sensor.toJson),
    ("observedPropertyId", datastream.observedProperty.toJson)] ++
      Json.present "phenomenonTime" Interval.toJson datastream.phenomenonTime ++
      Json.present "resultTime" Interval.toJson datastream.resultTime ++
      Json.free "properties" datastream.properties

def ofDocument? (json : Json) : Option Datastream := do
  return {
    id := ← linkOf json "@iot.id"
    name := ← textOf json "name"
    description := ← textOf json "description"
    observationType := ← ObservationType.ofName? (← textOf json "observationType")
    unit := ← linkOf json "unitId"
    format := ← linkOf json "formatId"
    thing := ← linkOf json "thingId"
    sensor := ← linkOf json "sensorId"
    observedProperty := ← linkOf json "observedPropertyId"
    phenomenonTime := ← json.optional? "phenomenonTime" Interval.ofJson?
    resultTime := ← json.optional? "resultTime" Interval.ofJson?
    properties := ← freeOf json "properties" }

end Datastream

namespace FeatureOfInterest

def toDocument (feature : FeatureOfInterest) : Json :=
  .ofMembers <| [
    ("@iot.id", feature.id.toJson),
    ("name", .string feature.name),
    ("description", .string feature.description),
    ("featureType", .string feature.featureType),
    ("feature", feature.feature.toJson),
    ("autoGenerated", .bool feature.autoGenerated)] ++ Json.free "properties" feature.properties

def ofDocument? (json : Json) : Option FeatureOfInterest := do
  return {
    id := ← linkOf json "@iot.id"
    name := ← textOf json "name"
    description := ← textOf json "description"
    featureType := ← textOf json "featureType"
    feature := ← json.required? "feature" Geometry.ofJson?
    properties := ← freeOf json "properties"
    autoGenerated := ← json.default? "autoGenerated" false Json.bool? }

end FeatureOfInterest

namespace Observation

def toDocument (observation : Observation) : Json :=
  .ofMembers <| [
    ("@iot.id", observation.id.toJson),
    ("datastreamId", observation.datastream.toJson),
    ("datasetId", observation.dataset.toJson),
    ("featureId", observation.feature.toJson),
    ("phenomenonTime", observation.phenomenonTime.toJson),
    ("resultTime", observation.resultTime.toJson),
    ("result", observation.result.toDocument)] ++
      Json.present "validTime" Interval.toJson observation.validTime ++
      Json.free "parameters" observation.parameters

def ofDocument? (json : Json) : Option Observation := do
  return {
    id := ← linkOf json "@iot.id"
    datastream := ← linkOf json "datastreamId"
    dataset := ← linkOf json "datasetId"
    feature := ← linkOf json "featureId"
    phenomenonTime := ← json.required? "phenomenonTime" TimeSpan.ofJson?
    resultTime := ← json.required? "resultTime" Instant.ofDocument?
    validTime := ← json.optional? "validTime" Interval.ofJson?
    parameters := ← freeOf json "parameters"
    result := ← json.required? "result" ObservedValue.ofDocument? }

end Observation

namespace ObservationPointer

def toDocument (pointer : ObservationPointer) : Json :=
  .ofMembers [
    ("observationId", pointer.observation.toJson),
    ("time", pointer.time.toJson),
    ("value", pointer.value.toDocument)]

def ofDocument? (json : Json) : Option ObservationPointer := do
  return {
    observation := ← linkOf json "observationId"
    time := ← json.required? "time" Instant.ofDocument?
    value := ← json.required? "value" ObservedValue.ofDocument? }

end ObservationPointer

namespace Dataset

def toDocument (dataset : Dataset) : Json :=
  .ofMembers <| [
    ("@iot.id", dataset.id.toJson),
    ("datastreamId", dataset.datastream.toJson),
    ("procedureId", dataset.procedure.toJson),
    ("phenomenonId", dataset.phenomenon.toJson),
    ("featureId", dataset.feature.toJson),
    ("offeringId", dataset.offering.toJson)] ++
      Json.present "firstObservation" ObservationPointer.toDocument dataset.firstObservation ++
      Json.present "lastObservation" ObservationPointer.toDocument dataset.lastObservation

def ofDocument? (json : Json) : Option Dataset := do
  return {
    id := ← linkOf json "@iot.id"
    datastream := ← linkOf json "datastreamId"
    procedure := ← linkOf json "procedureId"
    phenomenon := ← linkOf json "phenomenonId"
    feature := ← linkOf json "featureId"
    offering := ← linkOf json "offeringId"
    firstObservation := ← json.optional? "firstObservation" ObservationPointer.ofDocument?
    lastObservation := ← json.optional? "lastObservation" ObservationPointer.ofDocument? }

end Dataset

namespace UnitOfMeasurement

def toDocument (unit : UnitOfMeasurement) : Json :=
  .ofMembers [
    ("@iot.id", unit.id.toJson),
    ("name", nullable unit.name),
    ("symbol", nullable unit.symbol),
    ("definition", nullable unit.definition)]

def ofDocument? (json : Json) : Option UnitOfMeasurement := do
  return {
    id := ← linkOf json "@iot.id"
    name := ← json.optional? "name" Json.string?
    symbol := ← json.optional? "symbol" Json.string?
    definition := ← json.optional? "definition" Json.string? }

end UnitOfMeasurement

namespace Format

def toDocument (format : Format) : Json :=
  .ofMembers [("@iot.id", format.id.toJson), ("format", .string format.format)]

def ofDocument? (json : Json) : Option Format := do
  return { id := ← linkOf json "@iot.id", format := ← textOf json "format" }

end Format

namespace EntityKind

def toDocument : (kind : EntityKind) → kind.Entity → Json
  | thing => Thing.toDocument
  | location => Location.toDocument
  | historicalLocation => HistoricalLocation.toDocument
  | sensor => Sensor.toDocument
  | observedProperty => ObservedProperty.toDocument
  | datastream => Datastream.toDocument
  | featureOfInterest => FeatureOfInterest.toDocument
  | observation => Observation.toDocument
  | dataset => Dataset.toDocument
  | unitOfMeasurement => UnitOfMeasurement.toDocument
  | format => Format.toDocument

def ofDocument? : (kind : EntityKind) → Json → Option kind.Entity
  | thing => Thing.ofDocument?
  | location => Location.ofDocument?
  | historicalLocation => HistoricalLocation.ofDocument?
  | sensor => Sensor.ofDocument?
  | observedProperty => ObservedProperty.ofDocument?
  | datastream => Datastream.ofDocument?
  | featureOfInterest => FeatureOfInterest.ofDocument?
  | observation => Observation.ofDocument?
  | dataset => Dataset.ofDocument?
  | unitOfMeasurement => UnitOfMeasurement.ofDocument?
  | format => Format.ofDocument?

end EntityKind

end SensorThings
