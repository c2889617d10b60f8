import SensorThings.Model.Entity

/-!
Columns and to-one relations of entities, as filters read them. A name that a kind does not have
reads as null.
-/
namespace SensorThings

private def idScalar (id : EntityId) : Scalar :=
  .string id.text

private def freeScalar : Option Json → Scalar :=
  Scalar.ofOption .json

private def startScalar : Option Interval → Scalar :=
  Scalar.ofOption fun interval => .instant interval.start

private def stopScalar : Option Interval → Scalar :=
  Scalar.ofOption fun interval => .instant interval.stop

def Thing.column (thing : Thing) : String → Scalar
  | "id" => idScalar thing.id
  | "name" => .string thing.name
  | "description" => .string thing.description
  | "properties" => freeScalar thing.properties
  | _ => .null

def Location.column (location : Location) : String → Scalar
  | "id" => idScalar location.id
  | "name" => .string location.name
  | "description" => .string location.description
  | "encodingType" => .string location.encodingType
  | "location" => .geometry location.location
  | "properties" => freeScalar location.properties
  | _ => .null

def HistoricalLocation.column (historical : HistoricalLocation) : String → Scalar
  | "id" => idScalar historical.id
  | "time" => .instant historical.time
  | _ => .null

def Sensor.column (sensor : Sensor) : String → Scalar
  | "id" => idScalar sensor.id
  | "name" => .string sensor.name
  | "description" => .string sensor.description
  | "encodingType" => .string sensor.encodingType
  | "metadata" => .string sensor.metadata
  | "properties" => freeScalar sensor.properties
  | _ => .null

def ObservedProperty.column (property : ObservedProperty) : String → Scalar
  | "id" => idScalar property.id
  | "name" => .string property.name
  | "definition" => .string property.definition
  | "description" => .string property.description
  | "properties" => freeScalar property.properties
  | _ => .null

def Datastream.column (datastream : Datastream) : String → Scalar
  | "id" => idScalar datastream.id
  | "name" => .string datastream.name
  | "description" => .string datastream.description
  | "observationType" => .string datastream.observationType.uri
  | "phenomenonTimeStart" => startScalar datastream.phenomenonTime
  | "phenomenonTimeEnd" => stopScalar datastream.phenomenonTime
  | "resultTimeStart" => startScalar datastream.resultTime
  | "resultTimeEnd" => stopScalar datastream.resultTime
  | "properties" => freeScalar datastream.properties
  | _ => .null

def FeatureOfInterest.column (feature : FeatureOfInterest) : String → Scalar
  | "id" => idScalar feature.id
  | "name" => .string feature.name
  | "description" => .string feature.description
  | "featureType" => .string feature.featureType
  | "feature" => .geometry feature.feature
  | "properties" => freeScalar feature.properties
  | _ => .null

def Observation.column (observation : Observation) : String → Scalar
  | "id" => idScalar observation.id
  | "samplingTimeStart" => .instant observation.phenomenonTime.start
  | "samplingTimeEnd" => .instant observation.phenomenonTime.stop
  | "resultTime" => .instant observation.resultTime
  | "validTimeStart" => startScalar observation.validTime
  | "validTimeEnd" => stopScalar observation.validTime
  | "result" => observation.result.toScalar
  | "parameters" => freeScalar observation.parameters
  | _ => .null

def Dataset.column (dataset : Dataset) : String → Scalar
  | "id" => idScalar dataset.id
  | "datastreamId" => idScalar dataset.datastream
  | "featureId" => idScalar dataset.feature
  | _ => .null

def UnitOfMeasurement.column (unit : UnitOfMeasurement) : String → Scalar
  | "id" => idScalar unit.id
  | "name" => Scalar.ofOption .string unit.name
  | "symbol" => Scalar.ofOption .string unit.symbol
  | "definition" => Scalar.ofOption .string unit.definition
  | _ => .null

def Format.column (format : Format) : String → Scalar
  | "id" => idScalar format.id
  | "format" => .string format.format
  | _ => .null

namespace EntityKind

def column : (kind : EntityKind) → kind.Entity → String → Scalar
  | thing => Thing.column
  | location => Location.column
  | historicalLocation => HistoricalLocation.column
  | sensor => Sensor.column
  | observedProperty => ObservedProperty.column
  | datastream => Datastream.column
  | featureOfInterest => FeatureOfInterest.column
  | observation => Observation.column
  | dataset => Dataset.column
  | unitOfMeasurement => UnitOfMeasurement.column
  | format => Format.column

def related? : (kind : EntityKind) → kind.Entity → String → Option EntityId
  | historicalLocation, historical, "Thing" => some (HistoricalLocation.thing historical)
  | datastream, stream, "Thing" => some (Datastream.thing stream)
  | datastream, stream, "Sensor" => some (Datastream.sensor stream)
  | datastream, stream, "ObservedProperty" => some (Datastream.observedProperty stream)
  | observation, result, "Datastream" => some (Observation.datastream result)
  | observation, result, "FeatureOfInterest" => some (Observation.feature result)
  | dataset, group, "Datastream" => some (Dataset.datastream group)
  | dataset, group, "FeatureOfInterest" => some (Dataset.feature group)
  | _, _, _ => none

end EntityKind

end SensorThings
