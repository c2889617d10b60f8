import SensorThings.Change.Summary

/-!
Removing entities together with all that depends on them.
-/
namespace SensorThings.Change

def removeDatasets (ids : List EntityId) : Change Unit := do
  ids.forM fun id => do
    let dataset : Dataset ← fetch .dataset id
    save .dataset dataset.withoutPointers
  let observations ← idsWhere .observation fun observation =>
    ids.contains (Observation.dataset observation)
  observations.forM fun id => do
    let _ ← delete .observation id
  ids.forM fun id => do
    let _ ← delete .dataset id

def removeObservation (id : EntityId) : Change Unit := do
  let observation : Observation ← delete .observation id
  summarizeDataset observation.dataset
  summarizeDatastream observation.datastream

def removeDatastream (id : EntityId) : Change Unit := do
  let _ ← existing .datastream id
  let datasets ← idsWhere .dataset fun dataset => Dataset.datastream dataset == id
  removeDatasets datasets
  let _ ← delete .datastream id

/-- The observations of a feature go with it, and their datastreams find their bounds anew. -/
def removeFeature (id : EntityId) : Change Unit := do
  let _ ← existing .featureOfInterest id
  let all : List Dataset := (← tables).entities .dataset
  let datasets := all.filter fun dataset => dataset.feature == id
  removeDatasets (datasets.map Dataset.id)
  let _ ← delete .featureOfInterest id
  (IdSet.ofIds (datasets.map Dataset.datastream)).items.forM summarizeDatastream

/-- The locations of a historical location no longer list it. -/
def removeHistoricalLocation (id : EntityId) : Change Unit := do
  let historical : HistoricalLocation ← delete .historicalLocation id
  historical.locations.items.forM fun locationId => do
    match ← find? .location locationId with
    | none => return ()
    | some (location : Location) =>
      save .location
        { location with historicalLocations := location.historicalLocations.erase id }

def removeThing (id : EntityId) : Change Unit := do
  let _ ← existing .thing id
  let datastreams ← idsWhere .datastream fun datastream => Datastream.thing datastream == id
  datastreams.forM removeDatastream
  let historicals ← idsWhere .historicalLocation fun historical =>
    HistoricalLocation.thing historical == id
  historicals.forM removeHistoricalLocation
  let _ ← delete .thing id

def removeSensor (id : EntityId) : Change Unit := do
  let _ ← existing .sensor id
  let datastreams ← idsWhere .datastream fun datastream => Datastream.sensor datastream == id
  datastreams.forM removeDatastream
  let _ ← delete .sensor id

def removeObservedProperty (id : EntityId) : Change Unit := do
  let _ ← existing .observedProperty id
  let datastreams ← idsWhere .datastream fun datastream =>
    Datastream.observedProperty datastream == id
  datastreams.forM removeDatastream
  let _ ← delete .observedProperty id

/-- Things leave the location, and a historical location that lists no other goes with it. -/
def removeLocation (id : EntityId) : Change Unit := do
  let location : Location ← delete .location id
  let things ← idsWhere .thing fun thing => (Thing.locations thing).contains id
  things.forM fun thingId => do
    let thing : Thing ← fetch .thing thingId
    save .thing { thing with locations := thing.locations.filter (· != id) }
  location.historicalLocations.items.forM fun historicalId => do
    match ← find? .historicalLocation historicalId with
    | none => return ()
    | some (historical : HistoricalLocation) =>
      let rest := historical.locations.erase id
      if rest.items.isEmpty then
        let _ ← delete .historicalLocation historicalId
      else save .historicalLocation { historical with locations := rest }

/-- Remove an entity of a kind that clients see. -/
def remove (kind : EntityKind) (id : EntityId) : Change Unit :=
  match kind with
  | .thing => removeThing id
  | .location => removeLocation id
  | .historicalLocation => removeHistoricalLocation id
  | .sensor => removeSensor id
  | .observedProperty => removeObservedProperty id
  | .datastream => removeDatastream id
  | .featureOfInterest => removeFeature id
  | .observation => removeObservation id
  | .dataset => throw (.notEntitySet .dataset)
  | .unitOfMeasurement => throw (.notEntitySet .unitOfMeasurement)
  | .format => throw (.notEntitySet .format)

end SensorThings.Change
