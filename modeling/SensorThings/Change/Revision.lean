import SensorThings.Change.Creation

/-!
Revising entities by drafts: what a draft holds replaces what the entity held, and the rest stays.
Related entities can only be referred to, and most relations stay as they are.
-/
namespace SensorThings

namespace Link

def id? {α : Type} (idOf : α → Option EntityId) : Link α → Option EntityId
  | reference id => some id
  | body draft => idOf draft

def references {α : Type} (links : List (Link α)) : List EntityId :=
  links.filterMap (id? fun _ => none)

end Link

namespace Change

def refuseBodies (kind : EntityKind) (hasBodies : Bool) : Change Unit :=
  if hasBodies then throw (.relatedBody kind) else return ()

def refuse (relation : FixedRelation) (given : Bool) : Change Unit :=
  if given then throw (.fixed relation) else return ()

/-- A relation that a revision may repeat but not change. -/
def keeps {α : Type} (relation : FixedRelation) (current : EntityId) :
    Option (Link α) → Change Unit
  | some (.reference id) => refuse relation (id != current)
  | some (.body _) => refuse relation true
  | none => return ()

def reviseThing (id : EntityId) (draft : ThingDraft) : Change Unit := do
  let thing : Thing ← fetch .thing id
  refuseBodies .thing draft.hasBodies
  refuse .ofThing (draft.datastreams.isSome || draft.historicalLocations.isSome)
  save .thing { thing with
    name := draft.name.getD thing.name
    description := draft.description.getD thing.description
    properties := draft.properties.or thing.properties }
  match draft.locations with
  | none => return ()
  | some links =>
    let locations ← (Link.references links).mapM fun location => existing .location location
    moveThing id locations.eraseDups

def reviseLocation (id : EntityId) (draft : LocationDraft) : Change Unit := do
  let location : Location ← fetch .location id
  refuseBodies .location draft.hasBodies
  refuse .ofLocation (draft.things.isSome || draft.historicalLocations.isSome)
  save .location { location with
    name := draft.name.getD location.name
    description := draft.description.getD location.description
    encodingType := draft.encodingType.getD location.encodingType
    location := (draft.location.map SentGeometry.geometry).getD location.location
    properties := draft.properties.or location.properties }

def reviseHistoricalLocation (id : EntityId) (draft : HistoricalLocationDraft) : Change Unit := do
  let historical : HistoricalLocation ← fetch .historicalLocation id
  refuseBodies .historicalLocation draft.hasBodies
  refuse .ofHistoricalLocation (draft.thing.isSome || draft.locations.isSome)
  save .historicalLocation { historical with time := draft.time.getD historical.time }

def reviseSensor (id : EntityId) (draft : SensorDraft) : Change Unit := do
  let sensor : Sensor ← fetch .sensor id
  refuseBodies .sensor draft.hasBodies
  refuse .ofSensor draft.datastreams.isSome
  save .sensor { sensor with
    name := draft.name.getD sensor.name
    description := draft.description.getD sensor.description
    encodingType := draft.encodingType.getD sensor.encodingType
    metadata := draft.metadata.getD sensor.metadata
    properties := draft.properties.or sensor.properties }

def reviseObservedProperty (id : EntityId) (draft : ObservedPropertyDraft) : Change Unit := do
  let property : ObservedProperty ← fetch .observedProperty id
  refuseBodies .observedProperty draft.hasBodies
  refuse .ofObservedProperty draft.datastreams.isSome
  save .observedProperty { property with
    name := draft.name.getD property.name
    definition := draft.definition.getD property.definition
    description := draft.description.getD property.description
    properties := draft.properties.or property.properties }

/-- A type can change only while there is no observation. -/
def refuseObserved (datastream : EntityId) : Change Unit := do
  let observations : List Observation := (← tables).entities .observation
  if observations.any fun observation => observation.datastream == datastream then
    throw .observedTypeFixed
  else return ()

/-- A datastream with the observation type that a draft gives, if it gives one. -/
def retyped (datastream : Datastream) : Option String → Change Datastream
  | none => return datastream
  | some uri => do
    let type ← ofExcept (ObservationType.ofUri uri)
    if type = datastream.observationType then return datastream
    else do
      refuseObserved datastream.id
      return { datastream with observationType := type, format := ← formatFor type }

def revisedUnit (current : EntityId) : Option UnitDraft → Change EntityId
  | none => return current
  | some unit => unitFor unit

/-- The unit is replaced as a whole. -/
def reviseDatastream (id : EntityId) (draft : DatastreamDraft) : Change Unit := do
  let datastream : Datastream ← fetch .datastream id
  refuseBodies .datastream draft.hasBodies
  keeps (.datastreamOwner .thing) datastream.thing draft.thing
  keeps (.datastreamOwner .sensor) datastream.sensor draft.sensor
  keeps (.datastreamOwner .observedProperty) datastream.observedProperty draft.observedProperty
  refuse .ofDatastream draft.observations.isSome
  let unit ← revisedUnit datastream.unit draft.unit
  let revised ← retyped { datastream with
    name := draft.name.getD datastream.name
    description := draft.description.getD datastream.description
    properties := draft.properties.or datastream.properties
    unit } draft.observationType
  save .datastream revised

def reviseFeature (id : EntityId) (draft : FeatureDraft) : Change Unit := do
  let feature : FeatureOfInterest ← fetch .featureOfInterest id
  refuseBodies .featureOfInterest draft.hasBodies
  refuse .ofFeature draft.observations.isSome
  save .featureOfInterest { feature with
    name := draft.name.getD feature.name
    description := draft.description.getD feature.description
    featureType := draft.encodingType.getD feature.featureType
    feature := (draft.feature.map SentGeometry.geometry).getD feature.feature
    properties := draft.properties.or feature.properties }

/-- Move an observation to another feature, and so to another dataset, if a draft refers to one. -/
def refocused (observation : Observation) (datastream : Datastream) :
    Option (Link FeatureDraft) → Change Observation
  | some (.reference feature) => do
    let feature ← existing .featureOfInterest feature
    if feature = observation.feature then return observation
    else return { observation with dataset := ← datasetFor datastream feature, feature }
  | _ => return observation

def revisedResult (type : ObservationType) (current : ObservedValue) :
    Option Json → Change ObservedValue
  | none => return current
  | some raw => ofExcept (type.result raw)

def reviseObservation (id : EntityId) (draft : ObservationDraft) : Change Unit := do
  let observation : Observation ← fetch .observation id
  refuseBodies .observation draft.hasBodies
  keeps .observationDatastream observation.datastream draft.datastream
  let datastream : Datastream ← fetch .datastream observation.datastream
  let placed ← refocused observation datastream draft.feature
  let result ← revisedResult datastream.observationType observation.result draft.result
  let revised : Observation := { placed with
    phenomenonTime := draft.phenomenonTime.getD observation.phenomenonTime
    resultTime := draft.resultTime.getD observation.resultTime
    validTime := draft.validTime.or observation.validTime
    parameters := draft.parameters.or observation.parameters
    result }
  save .observation revised
  observationEdited observation.dataset revised

end Change

end SensorThings
