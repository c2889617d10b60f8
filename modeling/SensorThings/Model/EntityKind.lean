/-!
Kinds of entities. Eight are collections that clients see; datasets, units and formats are kept
behind them.
-/
namespace SensorThings

inductive EntityKind where
  | thing
  | location
  | historicalLocation
  | sensor
  | observedProperty
  | datastream
  | featureOfInterest
  | observation
  | dataset
  | unitOfMeasurement
  | format
deriving DecidableEq, Repr

namespace EntityKind

def all : List EntityKind :=
  [thing, location, historicalLocation, sensor, observedProperty, datastream, featureOfInterest,
    observation, dataset, unitOfMeasurement, format]

theorem mem_all (kind : EntityKind) : kind ∈ all := by
  cases kind <;> decide

/-- The place of a kind in `all`. -/
def index : EntityKind → Nat
  | thing => 0
  | location => 1
  | historicalLocation => 2
  | sensor => 3
  | observedProperty => 4
  | datastream => 5
  | featureOfInterest => 6
  | observation => 7
  | dataset => 8
  | unitOfMeasurement => 9
  | format => 10

def name : EntityKind → String
  | thing => "Thing"
  | location => "Location"
  | historicalLocation => "HistoricalLocation"
  | sensor => "Sensor"
  | observedProperty => "ObservedProperty"
  | datastream => "Datastream"
  | featureOfInterest => "FeatureOfInterest"
  | observation => "Observation"
  | dataset => "Dataset"
  | unitOfMeasurement => "UnitOfMeasurement"
  | format => "Format"

/-- The name of the collection in resource paths. -/
def collection? : EntityKind → Option String
  | thing => some "Things"
  | location => some "Locations"
  | historicalLocation => some "HistoricalLocations"
  | sensor => some "Sensors"
  | observedProperty => some "ObservedProperties"
  | datastream => some "Datastreams"
  | featureOfInterest => some "FeaturesOfInterest"
  | observation => some "Observations"
  | dataset => none
  | unitOfMeasurement => none
  | format => none

/-- Clients see the kinds that have a collection. -/
def isPublic (kind : EntityKind) : Bool :=
  kind.collection?.isSome

def ofName? (name : String) : Option EntityKind :=
  all.find? (·.name == name)

def ofCollection? (name : String) : Option EntityKind :=
  all.find? (·.collection? == some name)

end EntityKind

end SensorThings
