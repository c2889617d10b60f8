import SensorThings.Change.Removal
import SensorThings.Change.Revision
import SensorThings.Draft.Reader

/-!
Changes that clients ask for, by kind of entity and with bodies in JSON.
-/
namespace SensorThings

/-- A request for one change. -/
inductive ChangeRequest where
  | create (kind : EntityKind) (body : Json)
  | revise (kind : EntityKind) (id : EntityId) (body : Json)
  | replace (kind : EntityKind) (id : EntityId) (body : Json)
  | remove (kind : EntityKind) (id : EntityId)

namespace Change

def draft {α : Type} (kind : EntityKind) (read? : Json → Option α) (body : Json) : Change α :=
  match read? body with
  | some draft => return draft
  | none => throw (.malformed kind)

def create (kind : EntityKind) (body : Json) : Change EntityId :=
  match kind with
  | .thing => do createThing (← draft kind ThingDraft.ofJson? body).link
  | .location => do createLocation (← draft kind LocationDraft.ofJson? body).link
  | .historicalLocation => do
    createHistory (← draft kind HistoricalLocationDraft.ofJson? body).link
  | .sensor => do createSensor (← draft kind SensorDraft.ofJson? body).link
  | .observedProperty => do
    createObservedProperty (← draft kind ObservedPropertyDraft.ofJson? body).link
  | .datastream => do createDatastream (← draft kind DatastreamDraft.ofJson? body).link
  | .featureOfInterest => do createFeature (← draft kind FeatureDraft.ofJson? body).link
  | .observation => do createObservation (← draft kind ObservationDraft.ofJson? body).link
  | .dataset => throw (.notEntitySet .dataset)
  | .unitOfMeasurement => throw (.notEntitySet .unitOfMeasurement)
  | .format => throw (.notEntitySet .format)

def revise (kind : EntityKind) (id : EntityId) (body : Json) : Change Unit :=
  match kind with
  | .thing => do reviseThing id (← draft kind ThingDraft.ofJson? body)
  | .location => do reviseLocation id (← draft kind LocationDraft.ofJson? body)
  | .historicalLocation => do
    reviseHistoricalLocation id (← draft kind HistoricalLocationDraft.ofJson? body)
  | .sensor => do reviseSensor id (← draft kind SensorDraft.ofJson? body)
  | .observedProperty => do
    reviseObservedProperty id (← draft kind ObservedPropertyDraft.ofJson? body)
  | .datastream => do reviseDatastream id (← draft kind DatastreamDraft.ofJson? body)
  | .featureOfInterest => do reviseFeature id (← draft kind FeatureDraft.ofJson? body)
  | .observation => do reviseObservation id (← draft kind ObservationDraft.ofJson? body)
  | .dataset => throw (.notEntitySet .dataset)
  | .unitOfMeasurement => throw (.notEntitySet .unitOfMeasurement)
  | .format => throw (.notEntitySet .format)

private def isDraft (kind : EntityKind) (body : Json) : Bool :=
  match kind with
  | .thing => (ThingDraft.ofJson? body).isSome
  | .location => (LocationDraft.ofJson? body).isSome
  | .historicalLocation => (HistoricalLocationDraft.ofJson? body).isSome
  | .sensor => (SensorDraft.ofJson? body).isSome
  | .observedProperty => (ObservedPropertyDraft.ofJson? body).isSome
  | .datastream => (DatastreamDraft.ofJson? body).isSome
  | .featureOfInterest => (FeatureDraft.ofJson? body).isSome
  | .observation => (ObservationDraft.ofJson? body).isSome
  | .dataset => false
  | .unitOfMeasurement => false
  | .format => false

private def demand (failure : Failure) (holds : Bool) : Change Unit :=
  if holds then return () else throw failure

/-- No entity can be replaced as a whole; a request to do so is still checked. -/
def replace (kind : EntityKind) (id : EntityId) (body : Json) : Change Unit := do
  demand (.notEntitySet kind) kind.isPublic
  let _ ← existing kind id
  demand (.malformed kind) (isDraft kind body)
  throw (.notReplaceable kind)

/-- The change a request asks for. Creating gives the identifier of the entity. -/
def ofRequest : ChangeRequest → Change (Option EntityId)
  | .create kind body => do return some (← create kind body)
  | .revise kind id body => do
    revise kind id body
    return none
  | .replace kind id body => do
    replace kind id body
    return none
  | .remove kind id => do
    remove kind id
    return none

end Change

end SensorThings
