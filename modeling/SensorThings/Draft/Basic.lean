import SensorThings.Geometry.GeoJson
import SensorThings.Model.EntityId
import SensorThings.Time.Interval

/-!
Drafts: entities as clients send them, with any member left out and related entities nested. An
object with an identifier and nothing else refers to an entity that exists.
-/
namespace SensorThings

/-- A related entity: one that exists, or one to make. -/
inductive Link (α : Type) where
  | reference (id : EntityId)
  | body (draft : α)

def Link.isBody {α : Type} : Link α → Bool
  | reference _ => false
  | body _ => true

structure UnitDraft where
  name : Option String
  symbol : Option String
  definition : Option String

mutual

structure ThingDraft where
  id : Option EntityId
  name : Option String
  description : Option String
  properties : Option Json
  locations : Option (List (Link LocationDraft))
  datastreams : Option (List (Link DatastreamDraft))
  historicalLocations : Option (List (Link HistoricalLocationDraft))

structure LocationDraft where
  id : Option EntityId
  name : Option String
  description : Option String
  encodingType : Option String
  location : Option SentGeometry
  properties : Option Json
  things : Option (List (Link ThingDraft))
  historicalLocations : Option (List (Link HistoricalLocationDraft))

structure HistoricalLocationDraft where
  id : Option EntityId
  time : Option Instant
  thing : Option (Link ThingDraft)
  locations : Option (List (Link LocationDraft))

structure SensorDraft where
  id : Option EntityId
  name : Option String
  description : Option String
  encodingType : Option String
  metadata : Option String
  properties : Option Json
  datastreams : Option (List (Link DatastreamDraft))

structure ObservedPropertyDraft where
  id : Option EntityId
  name : Option String
  definition : Option String
  description : Option String
  properties : Option Json
  datastreams : Option (List (Link DatastreamDraft))

structure DatastreamDraft where
  id : Option EntityId
  name : Option String
  description : Option String
  unit : Option UnitDraft
  observationType : Option String
  properties : Option Json
  thing : Option (Link ThingDraft)
  sensor : Option (Link SensorDraft)
  observedProperty : Option (Link ObservedPropertyDraft)
  observations : Option (List (Link ObservationDraft))

structure FeatureDraft where
  id : Option EntityId
  name : Option String
  description : Option String
  encodingType : Option String
  feature : Option SentGeometry
  properties : Option Json
  observations : Option (List (Link ObservationDraft))

structure ObservationDraft where
  id : Option EntityId
  phenomenonTime : Option TimeSpan
  resultTime : Option Instant
  validTime : Option Interval
  parameters : Option Json
  result : Option Json
  datastream : Option (Link DatastreamDraft)
  feature : Option (Link FeatureDraft)

end

/-- An identifier alone is a reference. -/
def Link.make {α : Type} (draft : α) (hasFields : Bool) : Option EntityId → Link α
  | some id => if hasFields then .body draft else .reference id
  | none => .body draft

private def anyBody {α : Type} : Option (List (Link α)) → Bool
  | some links => links.any Link.isBody
  | none => false

private def oneBody {α : Type} : Option (Link α) → Bool
  | some link => link.isBody
  | none => false

namespace ThingDraft

/-- Any member but the identifier is there. -/
def hasFields (draft : ThingDraft) : Bool :=
  draft.name.isSome || draft.description.isSome || draft.properties.isSome ||
    draft.locations.isSome || draft.datastreams.isSome || draft.historicalLocations.isSome

def hasBodies (draft : ThingDraft) : Bool :=
  anyBody draft.locations || anyBody draft.datastreams || anyBody draft.historicalLocations

def link (draft : ThingDraft) : Link ThingDraft :=
  .make draft draft.hasFields draft.id

def ofId (id : EntityId) : ThingDraft :=
  ⟨id, none, none, none, none, none, none⟩

end ThingDraft

namespace LocationDraft

def hasFields (draft : LocationDraft) : Bool :=
  draft.name.isSome || draft.description.isSome || draft.encodingType.isSome ||
    draft.location.isSome || draft.properties.isSome || draft.things.isSome ||
    draft.historicalLocations.isSome

def hasBodies (draft : LocationDraft) : Bool :=
  anyBody draft.things || anyBody draft.historicalLocations

def link (draft : LocationDraft) : Link LocationDraft :=
  .make draft draft.hasFields draft.id

def ofId (id : EntityId) : LocationDraft :=
  ⟨id, none, none, none, none, none, none, none⟩

end LocationDraft

namespace HistoricalLocationDraft

def hasFields (draft : HistoricalLocationDraft) : Bool :=
  draft.time.isSome || draft.thing.isSome || draft.locations.isSome

def hasBodies (draft : HistoricalLocationDraft) : Bool :=
  oneBody draft.thing || anyBody draft.locations

def link (draft : HistoricalLocationDraft) : Link HistoricalLocationDraft :=
  .make draft draft.hasFields draft.id

def ofId (id : EntityId) : HistoricalLocationDraft :=
  ⟨id, none, none, none⟩

end HistoricalLocationDraft

namespace SensorDraft

def hasFields (draft : SensorDraft) : Bool :=
  draft.name.isSome || draft.description.isSome || draft.encodingType.isSome ||
    draft.metadata.isSome || draft.properties.isSome || draft.datastreams.isSome

def hasBodies (draft : SensorDraft) : Bool :=
  anyBody draft.datastreams

def link (draft : SensorDraft) : Link SensorDraft :=
  .make draft draft.hasFields draft.id

def ofId (id : EntityId) : SensorDraft :=
  ⟨id, none, none, none, none, none, none⟩

end SensorDraft

namespace ObservedPropertyDraft

def hasFields (draft : ObservedPropertyDraft) : Bool :=
  draft.name.isSome || draft.definition.isSome || draft.description.isSome ||
    draft.properties.isSome || draft.datastreams.isSome

def hasBodies (draft : ObservedPropertyDraft) : Bool :=
  anyBody draft.datastreams

def link (draft : ObservedPropertyDraft) : Link ObservedPropertyDraft :=
  .make draft draft.hasFields draft.id

def ofId (id : EntityId) : ObservedPropertyDraft :=
  ⟨id, none, none, none, none, none⟩

end ObservedPropertyDraft

namespace DatastreamDraft

def hasFields (draft : DatastreamDraft) : Bool :=
  draft.name.isSome || draft.description.isSome || draft.unit.isSome ||
    draft.observationType.isSome || draft.properties.isSome || draft.thing.isSome ||
    draft.sensor.isSome || draft.observedProperty.isSome || draft.observations.isSome

def hasBodies (draft : DatastreamDraft) : Bool :=
  oneBody draft.thing || oneBody draft.sensor || oneBody draft.observedProperty ||
    anyBody draft.observations

def link (draft : DatastreamDraft) : Link DatastreamDraft :=
  .make draft draft.hasFields draft.id

def ofId (id : EntityId) : DatastreamDraft :=
  ⟨id, none, none, none, none, none, none, none, none, none⟩

end DatastreamDraft

namespace FeatureDraft

def hasFields (draft : FeatureDraft) : Bool :=
  draft.name.isSome || draft.description.isSome || draft.encodingType.isSome ||
    draft.feature.isSome || draft.properties.isSome || draft.observations.isSome

def hasBodies (draft : FeatureDraft) : Bool :=
  anyBody draft.observations

def link (draft : FeatureDraft) : Link FeatureDraft :=
  .make draft draft.hasFields draft.id

def ofId (id : EntityId) : FeatureDraft :=
  ⟨id, none, none, none, none, none, none⟩

end FeatureDraft

namespace ObservationDraft

def hasFields (draft : ObservationDraft) : Bool :=
  draft.phenomenonTime.isSome || draft.resultTime.isSome || draft.validTime.isSome ||
    draft.parameters.isSome || draft.result.isSome || draft.datastream.isSome ||
    draft.feature.isSome

def hasBodies (draft : ObservationDraft) : Bool :=
  oneBody draft.datastream || oneBody draft.feature

def link (draft : ObservationDraft) : Link ObservationDraft :=
  .make draft draft.hasFields draft.id

def ofId (id : EntityId) : ObservationDraft :=
  ⟨id, none, none, none, none, none, none, none⟩

end ObservationDraft

end SensorThings
