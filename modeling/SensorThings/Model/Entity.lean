import SensorThings.Model.EntityKind
import SensorThings.Model.ObservedValue
import SensorThings.Model.Roster

/-!
Stored entities. A relation is kept as an identifier on the side that owns it: a datastream names
its thing, a thing lists its locations. Every relation to many is found from the other side.
-/
namespace SensorThings

structure Thing where
  id : EntityId
  name : String
  description : String
  properties : Option Json
  /-- Where the thing is now; the last one was added last. -/
  locations : List EntityId

structure Location where
  id : EntityId
  name : String
  description : String
  encodingType : String
  location : Geometry
  properties : Option Json
  historicalLocations : IdSet

/-- Where a thing was from some time on. -/
structure HistoricalLocation where
  id : EntityId
  time : Instant
  thing : EntityId
  locations : IdSet

structure Sensor where
  id : EntityId
  name : String
  description : String
  encodingType : String
  metadata : String
  properties : Option Json

structure ObservedProperty where
  id : EntityId
  name : String
  definition : String
  description : String
  properties : Option Json

/-- The bounds cover the times of all observations, and are missing while there is none. -/
structure Datastream where
  id : EntityId
  name : String
  description : String
  observationType : ObservationType
  unit : EntityId
  format : EntityId
  thing : EntityId
  sensor : EntityId
  observedProperty : EntityId
  phenomenonTime : Option Interval
  resultTime : Option Interval
  properties : Option Json

structure FeatureOfInterest where
  id : EntityId
  name : String
  description : String
  featureType : String
  feature : Geometry
  properties : Option Json
  /-- Made from the location of a thing, not by a client. -/
  autoGenerated : Bool

structure Observation where
  id : EntityId
  datastream : EntityId
  dataset : EntityId
  feature : EntityId
  phenomenonTime : TimeSpan
  resultTime : Instant
  validTime : Option Interval
  parameters : Option Json
  result : ObservedValue

/-- The first or last observation of a dataset. -/
structure ObservationPointer where
  observation : EntityId
  time : Instant
  value : ObservedValue

/-- The observations of one datastream about one feature. -/
structure Dataset where
  id : EntityId
  datastream : EntityId
  procedure : EntityId
  phenomenon : EntityId
  feature : EntityId
  offering : EntityId
  firstObservation : Option ObservationPointer
  lastObservation : Option ObservationPointer

structure UnitOfMeasurement where
  id : EntityId
  name : Option String
  symbol : Option String
  definition : Option String

structure Format where
  id : EntityId
  format : String

def Thing.currentLocation? (thing : Thing) : Option EntityId :=
  thing.locations.getLast?

namespace EntityKind

/-- The entities of a kind. -/
abbrev Entity : EntityKind → Type
  | thing => Thing
  | location => Location
  | historicalLocation => HistoricalLocation
  | sensor => Sensor
  | observedProperty => ObservedProperty
  | datastream => Datastream
  | featureOfInterest => FeatureOfInterest
  | observation => Observation
  | dataset => Dataset
  | unitOfMeasurement => UnitOfMeasurement
  | format => Format

def idOf : (kind : EntityKind) → kind.Entity → EntityId
  | thing => Thing.id
  | location => Location.id
  | historicalLocation => HistoricalLocation.id
  | sensor => Sensor.id
  | observedProperty => ObservedProperty.id
  | datastream => Datastream.id
  | featureOfInterest => FeatureOfInterest.id
  | observation => Observation.id
  | dataset => Dataset.id
  | unitOfMeasurement => UnitOfMeasurement.id
  | format => Format.id

end EntityKind

/-- The entities of one kind by identifier. -/
abbrev Table (kind : EntityKind) := Roster kind.Entity kind.idOf

end SensorThings
