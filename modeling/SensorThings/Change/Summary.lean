import SensorThings.Change.Basic

/-!
What datastreams and datasets keep about their observations: the bounds of their times, and the
first and the last one. A new observation extends them; any other change finds them anew.
-/
namespace SensorThings

namespace ObservationPointer

/-- Order by time, and at one time by identifier. -/
def comesBefore (left right : ObservationPointer) : Bool :=
  left.time.isBefore right.time ||
    (left.time == right.time && decide (left.observation < right.observation))

def startOf (observation : Observation) : ObservationPointer :=
  ⟨observation.id, observation.phenomenonTime.start, observation.result⟩

def stopOf (observation : Observation) : ObservationPointer :=
  ⟨observation.id, observation.phenomenonTime.stop, observation.result⟩

/-- The earlier of a pointer, if there is one, and the start of an observation. -/
def orEarlier (pointer : Option ObservationPointer) (observation : Observation) :
    Option ObservationPointer :=
  match pointer with
  | none => some (startOf observation)
  | some current =>
    if (startOf observation).comesBefore current then some (startOf observation) else pointer

/-- The later of a pointer, if there is one, and the end of an observation. -/
def orLater (pointer : Option ObservationPointer) (observation : Observation) :
    Option ObservationPointer :=
  match pointer with
  | none => some (stopOf observation)
  | some current =>
    if current.comesBefore (stopOf observation) then some (stopOf observation) else pointer

end ObservationPointer

/-- Bounds, if there are any, widened to cover an interval. -/
def Interval.widened (bounds : Option Interval) (interval : Interval) : Option Interval :=
  match bounds with
  | none => some interval
  | some current => some (current.union interval)

namespace Datastream

def cover (datastream : Datastream) (observation : Observation) : Datastream :=
  { datastream with
    phenomenonTime :=
      Interval.widened datastream.phenomenonTime observation.phenomenonTime.toInterval
    resultTime := Interval.widened datastream.resultTime (.point observation.resultTime) }

def summarize (datastream : Datastream) (observations : List Observation) : Datastream :=
  observations.foldl cover { datastream with phenomenonTime := none, resultTime := none }

end Datastream

namespace Dataset

def cover (dataset : Dataset) (observation : Observation) : Dataset :=
  { dataset with
    firstObservation := ObservationPointer.orEarlier dataset.firstObservation observation
    lastObservation := ObservationPointer.orLater dataset.lastObservation observation }

def withoutPointers (dataset : Dataset) : Dataset :=
  { dataset with firstObservation := none, lastObservation := none }

/-- The dataset with the first and the last of these observations alone. -/
def summarize (dataset : Dataset) (observations : List Observation) : Dataset :=
  observations.foldl cover dataset.withoutPointers

end Dataset

namespace Change

/-- The dataset for the observations of a datastream about a feature, made at first use. -/
def datasetFor (datastream : Datastream) (feature : EntityId) : Change EntityId := do
  let sameGroup := Predicate.both
    (.equal (.here "datastreamId") (.text datastream.id.text))
    (.equal (.here "featureId") (.text feature.text))
  match ← idWhere? .dataset sameGroup with
  | some id => return id
  | none =>
    let id ← draw
    save .dataset {
      id
      datastream := datastream.id
      procedure := datastream.sensor
      phenomenon := datastream.observedProperty
      feature
      offering := datastream.id
      firstObservation := none
      lastObservation := none }
    return id

def observationAdded (observation : Observation) : Change Unit := do
  let datastream : Datastream ← fetch .datastream observation.datastream
  save .datastream (datastream.cover observation)
  let dataset : Dataset ← fetch .dataset observation.dataset
  save .dataset (dataset.cover observation)

def summarizeDataset (id : EntityId) : Change Unit := do
  match ← find? .dataset id with
  | none => return ()
  | some dataset =>
    let observations : List Observation := (← tables).entities .observation
    let members := observations.filter fun observation => observation.dataset == id
    save .dataset (Dataset.summarize dataset members)

/-- Find the bounds of a datastream anew, from the observations in its datasets. -/
def summarizeDatastream (id : EntityId) : Change Unit := do
  match ← find? .datastream id with
  | none => return ()
  | some datastream =>
    let datasets ← idsWhere .dataset fun dataset => Dataset.datastream dataset == id
    let observations : List Observation := (← tables).entities .observation
    let members := observations.filter fun observation => datasets.contains observation.dataset
    save .datastream (Datastream.summarize datastream members)

/-- Find the first and the last observation of a dataset anew, and of another one where it is
another. -/
def summarizeBoth (dataset other : EntityId) : Change Unit := do
  summarizeDataset dataset
  if other ≠ dataset then summarizeDataset other

/-- Find bounds and pointers anew after an observation was edited; it may have come from another
dataset. -/
def observationEdited (previousDataset : EntityId) (observation : Observation) : Change Unit := do
  summarizeBoth previousDataset observation.dataset
  summarizeDatastream observation.datastream

end Change

end SensorThings
