import SensorThings.Change.Movement
import SensorThings.Draft.Basic

/-!
Making entities from drafts. A draft is made together with all entities nested in it, depth first; a
nested draft gets the entity it stands in as its relation. Units, formats, locations, observed
properties and features that exist already are used again.
-/
namespace SensorThings

/-- The entity whose draft lists a datastream. -/
inductive DatastreamOwner where
  | thing (id : EntityId)
  | sensor (id : EntityId)
  | observedProperty (id : EntityId)

namespace DatastreamOwner

def thing? : Option DatastreamOwner → Option EntityId
  | some (thing id) => some id
  | _ => none

def sensor? : Option DatastreamOwner → Option EntityId
  | some (sensor id) => some id
  | _ => none

def observedProperty? : Option DatastreamOwner → Option EntityId
  | some (observedProperty id) => some id
  | _ => none

def adopt (owner : DatastreamOwner) (datastream : Datastream) : Datastream :=
  match owner with
  | thing id => { datastream with thing := id }
  | sensor id => { datastream with sensor := id }
  | observedProperty id => { datastream with observedProperty := id }

end DatastreamOwner

/-- The entity whose draft lists an observation. -/
inductive ObservationOwner where
  | datastream (id : EntityId)
  | feature (id : EntityId)

namespace ObservationOwner

def datastream? : Option ObservationOwner → Option EntityId
  | some (datastream id) => some id
  | _ => none

def feature? : Option ObservationOwner → Option EntityId
  | some (feature id) => some id
  | _ => none

/-- An observation that exists stays where it is. -/
def fixed : ObservationOwner → FixedRelation
  | datastream _ => .observationOfDatastream
  | feature _ => .observationOfFeature

end ObservationOwner

/-- The entity whose draft lists a historical location. -/
inductive HistoryOwner where
  | thing (id : EntityId)
  | location (id : EntityId)

namespace HistoryOwner

def thing? : Option HistoryOwner → Option EntityId
  | some (thing id) => some id
  | _ => none

def location? : Option HistoryOwner → Option EntityId
  | some (location id) => some id
  | _ => none

end HistoryOwner

/-- A feature that was made from a location, and that a client may send again. -/
def FeatureOfInterest.repeats (feature : FeatureOfInterest) (geometry : Geometry)
    (description : String) : Bool :=
  feature.autoGenerated && feature.feature.same geometry && feature.description == description

namespace Change

def unitOfSymbol? : Option String → Change (Option EntityId)
  | some symbol => idWhere? .unitOfMeasurement (.equal (.here "symbol") (.text symbol))
  | none => return none

/-- The unit of a datastream. Units with a symbol are shared by symbol. -/
def unitFor (draft : UnitDraft) : Change EntityId := do
  match ← unitOfSymbol? draft.symbol with
  | some id => return id
  | none =>
    let id ← draw
    save .unitOfMeasurement
      { id, name := draft.name, symbol := draft.symbol, definition := draft.definition }
    return id

/-- The format of an observation type, shared by all datastreams of that type. -/
def formatFor (type : ObservationType) : Change EntityId := do
  match ← idWhere? .format (.equal (.here "format") (.text type.uri)) with
  | some id => return id
  | none =>
    let id ← draw
    save .format { id, format := type.uri }
    return id

def locationNamed? (name : String) : Change (Option EntityId) :=
  idWhere? .location (.equal (.here "name") (.text name))

def propertyDefined? (definition : String) : Change (Option EntityId) :=
  idWhere? .observedProperty (.equal (.here "definition") (.text definition))

/-- The first feature with this geometry and description. -/
def featureLike? (geometry : Geometry) (description : String) : Change (Option EntityId) :=
  idWhere? .featureOfInterest <| .both
    (.equal (.here "feature") (.literal (.geometry geometry)))
    (.equal (.here "description") (.text description))

/-- A new feature gets the identifier of its location if no feature has it. -/
def featureId (location : EntityId) : Change EntityId := do
  if (← tables).contains .featureOfInterest location then draw else return location

/-- The feature of an observation that names none: where its thing was put last. -/
def featureOfThing (id : EntityId) : Change EntityId := do
  let thing : Thing ← fetch .thing id
  match thing.currentLocation? with
  | none => throw (.noLocation id)
  | some locationId =>
    let location : Location ← fetch .location locationId
    match ← featureLike? location.location location.description with
    | some feature => return feature
    | none =>
      let id ← featureId location.id
      save .featureOfInterest {
        id
        name := location.name
        description := location.description
        featureType := location.encodingType
        feature := location.location
        properties := location.properties
        autoGenerated := true }
      return id

/-- The feature that a draft stands for, if there is one already. A draft with an identifier may
repeat a feature made from a location. -/
def featureRepeated? (id : Option EntityId) (geometry : Geometry) (description : String) :
    Change (Option EntityId) := do
  match id with
  | none => featureLike? geometry description
  | some id =>
    match ← find? .featureOfInterest id with
    | none => return none
    | some (feature : FeatureOfInterest) =>
      return if feature.repeats geometry description then some id else none

/-- The feature of an observation that names none, if the configuration lets one be made. -/
def derivedFeature (thing : EntityId) : Change EntityId := do
  if (← config).deriveFeature then featureOfThing thing
  else missing .observation "FeatureOfInterest"

def addThing (id : Option EntityId) (name description : Option String)
    (properties : Option Json) : Change EntityId := do
  let name ← require .thing "name" name
  let description ← require .thing "description" description
  let id ← claim .thing id
  save .thing { id, name, description, properties, locations := [] }
  return id

/-- Put a new thing at the locations that its draft lists, if it lists any. -/
def settleThing (id : EntityId) (places : List EntityId) : Change Unit := do
  if !places.isEmpty then moveThing id places.eraseDups

/-- The location of this name, if a draft without identifier may stand for it. -/
def locationRepeated? (id : Option EntityId) (name : String) : Change (Option EntityId) :=
  match id with
  | none => locationNamed? name
  | some _ => return none

def addLocation (id : Option EntityId) (name description encodingType : Option String)
    (location : Option SentGeometry) (properties : Option Json) : Change EntityId := do
  let name ← require .location "name" name
  match ← locationRepeated? id name with
  | some found => return found
  | none =>
    let description ← require .location "description" description
    let encodingType ← require .location "encodingType" encodingType
    let sent ← require .location "location" location
    let id ← claim .location id
    save .location {
      id, name, description, encodingType, location := sent.geometry, properties
      historicalLocations := .empty }
    return id

def addSensor (id : Option EntityId) (name description encodingType metadata : Option String)
    (properties : Option Json) : Change EntityId := do
  let id ← claim .sensor id
  let name ← require .sensor "name" name
  let description ← require .sensor "description" description
  let encodingType ← require .sensor "encodingType" encodingType
  let metadata ← require .sensor "metadata" metadata
  save .sensor { id, name, description, encodingType, metadata, properties }
  return id

/-- The property of this definition, if a draft without identifier may stand for it. -/
def propertyRepeated? (id : Option EntityId) (definition : String) : Change (Option EntityId) :=
  match id with
  | none => propertyDefined? definition
  | some _ => return none

def addObservedProperty (id : Option EntityId) (name definition description : Option String)
    (properties : Option Json) : Change EntityId := do
  let name ← require .observedProperty "name" name
  let definition ← require .observedProperty "definition" definition
  let description ← require .observedProperty "description" description
  match ← propertyRepeated? id definition with
  | some found => return found
  | none =>
    let id ← claim .observedProperty id
    save .observedProperty { id, name, definition, description, properties }
    return id

def addFeature (id : Option EntityId) (name description encodingType : Option String)
    (feature : Option SentGeometry) (properties : Option Json) : Change EntityId := do
  let name ← require .featureOfInterest "name" name
  let description ← require .featureOfInterest "description" description
  let featureType ← require .featureOfInterest "encodingType" encodingType
  let sent ← require .featureOfInterest "feature" feature
  match ← featureRepeated? id sent.geometry description with
  | some found => return found
  | none =>
    let id ← claim .featureOfInterest id
    save .featureOfInterest {
      id, name, description, featureType, feature := sent.geometry, properties
      autoGenerated := false }
    return id

/-- Add a datastream without observations. -/
def addDatastream (id : EntityId) (name description : String) (unit : UnitDraft)
    (observationType : ObservationType) (properties : Option Json)
    (thing sensor observedProperty : EntityId) : Change Unit := do
  let unit ← unitFor unit
  let format ← formatFor observationType
  save .datastream {
    id, name, description, observationType, unit, format, thing, sensor, observedProperty
    phenomenonTime := none, resultTime := none, properties }

/-- Add an observation to its dataset. The phenomenon is observed now, and its result is there when
it ends, unless the draft says otherwise. -/
def addObservation (id : EntityId) (phenomenonTime : Option TimeSpan) (resultTime : Option Instant)
    (validTime : Option Interval) (parameters : Option Json) (result : ObservedValue)
    (stream : Datastream) (feature : EntityId) : Change Unit := do
  let time := phenomenonTime.getD (.instant (← now))
  let dataset ← datasetFor stream feature
  let observation : Observation := {
    id, datastream := stream.id, dataset, feature, phenomenonTime := time
    resultTime := resultTime.getD time.stop, validTime, parameters, result }
  save .observation observation
  observationAdded observation

/-- An existing historical location can be given another location, but not another thing. -/
def linkHistory (id : EntityId) : HistoryOwner → Change Unit
  | .thing _ => throw (.fixed .historicalLocationOfThing)
  | .location location => extendRecord id location

def adoptDatastream (owner : DatastreamOwner) (id : EntityId) : Change Unit := do
  let datastream : Datastream ← fetch .datastream id
  save .datastream (owner.adopt datastream)

mutual

def createThing : Link ThingDraft → Change EntityId
  | .reference id => existing .thing id
  | .body draft => insertThing draft

def insertThing : ThingDraft → Change EntityId
  | ⟨id, name, description, properties, locations, datastreams, historicalLocations⟩ => do
    let id ← addThing id name description properties
    let places ← createListedLocations locations
    settleThing id places
    attachListedDatastreams (.thing id) datastreams
    attachListedHistory (.thing id) historicalLocations
    return id

/-- The thing that owns a nested draft, or else the one that the draft names. -/
def ownerThing (kind : EntityKind) :
    Option EntityId → Option (Link ThingDraft) → Change EntityId
  | some given, _ => return given
  | none, some link => createThing link
  | none, none => missing kind "Thing"

def createThingsAt (location : EntityId) : List (Link ThingDraft) → Change Unit
  | [] => return ()
  | link :: rest => do
    let thing ← createThing link
    moveThing thing [location]
    createThingsAt location rest

def createListedThingsAt (location : EntityId) : Option (List (Link ThingDraft)) → Change Unit
  | none => return ()
  | some links => createThingsAt location links

def createLocation : Link LocationDraft → Change EntityId
  | .reference id => existing .location id
  | .body draft => insertLocation draft

def createLocations : List (Link LocationDraft) → Change (List EntityId)
  | [] => return []
  | link :: rest => do
    let id ← createLocation link
    let ids ← createLocations rest
    return id :: ids

def createListedLocations : Option (List (Link LocationDraft)) → Change (List EntityId)
  | none => return []
  | some links => createLocations links

/-- A draft without identifier stands for the location of its name, if there is one. -/
def insertLocation : LocationDraft → Change EntityId
  | ⟨id, name, description, encodingType, location, properties, things, historicalLocations⟩ => do
    let id ← addLocation id name description encodingType location properties
    createListedThingsAt id things
    attachListedHistory (.location id) historicalLocations
    return id

def attachHistory (owner : HistoryOwner) : List (Link HistoricalLocationDraft) → Change Unit
  | [] => return ()
  | .reference id :: rest => do
    linkHistory id owner
    attachHistory owner rest
  | .body draft :: rest => do
    let _ ← insertHistory (some owner) draft
    attachHistory owner rest

def attachListedHistory (owner : HistoryOwner) :
    Option (List (Link HistoricalLocationDraft)) → Change Unit
  | none => return ()
  | some links => attachHistory owner links

def createHistory : Link HistoricalLocationDraft → Change EntityId
  | .reference id => existing .historicalLocation id
  | .body draft => insertHistory none draft

def insertHistory (owner : Option HistoryOwner) : HistoricalLocationDraft → Change EntityId
  | ⟨id, time, thing, locations⟩ => do
    let time ← require .historicalLocation "time" time
    requireThat .historicalLocation "Thing"
      ((HistoryOwner.thing? owner).isSome || thing.isSome)
    requireThat .historicalLocation "Locations"
      ((HistoryOwner.location? owner).isSome || locations.any (!·.isEmpty))
    let id ← claim .historicalLocation id
    let thing ← ownerThing .historicalLocation (HistoryOwner.thing? owner) thing
    let places ← createListedLocations locations
    record {
      id, time, thing
      locations := IdSet.ofIds (places ++ (HistoryOwner.location? owner).toList) }
    return id

def createSensor : Link SensorDraft → Change EntityId
  | .reference id => existing .sensor id
  | .body draft => insertSensor draft

def insertSensor : SensorDraft → Change EntityId
  | ⟨id, name, description, encodingType, metadata, properties, datastreams⟩ => do
    let id ← addSensor id name description encodingType metadata properties
    attachListedDatastreams (.sensor id) datastreams
    return id

def ownerSensor : Option EntityId → Option (Link SensorDraft) → Change EntityId
  | some given, _ => return given
  | none, some link => createSensor link
  | none, none => missing .datastream "Sensor"

def createObservedProperty : Link ObservedPropertyDraft → Change EntityId
  | .reference id => existing .observedProperty id
  | .body draft => insertObservedProperty draft

/-- A draft without identifier stands for the property of its definition, if there is one. -/
def insertObservedProperty : ObservedPropertyDraft → Change EntityId
  | ⟨id, name, definition, description, properties, datastreams⟩ => do
    let id ← addObservedProperty id name definition description properties
    attachListedDatastreams (.observedProperty id) datastreams
    return id

def ownerObservedProperty :
    Option EntityId → Option (Link ObservedPropertyDraft) → Change EntityId
  | some given, _ => return given
  | none, some link => createObservedProperty link
  | none, none => missing .datastream "ObservedProperty"

/-- Make the datastreams that a draft lists, and point those that exist at their new owner. -/
def attachDatastreams (owner : DatastreamOwner) : List (Link DatastreamDraft) → Change Unit
  | [] => return ()
  | .reference id :: rest => do
    adoptDatastream owner id
    attachDatastreams owner rest
  | .body draft :: rest => do
    let _ ← insertDatastream (some owner) draft
    attachDatastreams owner rest

def attachListedDatastreams (owner : DatastreamOwner) :
    Option (List (Link DatastreamDraft)) → Change Unit
  | none => return ()
  | some links => attachDatastreams owner links

def createDatastream : Link DatastreamDraft → Change EntityId
  | .reference id => existing .datastream id
  | .body draft => insertDatastream none draft

def insertDatastream (owner : Option DatastreamOwner) : DatastreamDraft → Change EntityId
  | ⟨id, name, description, unit, observationType, properties, thing, sensor, observedProperty,
      observations⟩ => do
    requireThat .datastream "Thing" ((DatastreamOwner.thing? owner).isSome || thing.isSome)
    requireThat .datastream "Sensor" ((DatastreamOwner.sensor? owner).isSome || sensor.isSome)
    requireThat .datastream "ObservedProperty"
      ((DatastreamOwner.observedProperty? owner).isSome || observedProperty.isSome)
    let name ← require .datastream "name" name
    let description ← require .datastream "description" description
    let unit ← require .datastream "unitOfMeasurement" unit
    let uri ← require .datastream "observationType" observationType
    let observationType ← ofExcept (ObservationType.ofUri uri)
    let id ← claim .datastream id
    let thing ← ownerThing .datastream (DatastreamOwner.thing? owner) thing
    let sensor ← ownerSensor (DatastreamOwner.sensor? owner) sensor
    let observedProperty ←
      ownerObservedProperty (DatastreamOwner.observedProperty? owner) observedProperty
    addDatastream id name description unit observationType properties thing sensor observedProperty
    attachListedObservations (.datastream id) observations
    return id

/-- The datastream that owns a nested draft, or else the one that the draft names. -/
def ownerDatastream : Option EntityId → Option (Link DatastreamDraft) → Change EntityId
  | some given, _ => return given
  | none, some link => createDatastream link
  | none, none => missing .observation "Datastream"

def attachObservations (owner : ObservationOwner) : List (Link ObservationDraft) → Change Unit
  | [] => return ()
  | .reference _ :: _ => throw (.fixed owner.fixed)
  | .body draft :: rest => do
    let _ ← insertObservation (some owner) draft
    attachObservations owner rest

def attachListedObservations (owner : ObservationOwner) :
    Option (List (Link ObservationDraft)) → Change Unit
  | none => return ()
  | some links => attachObservations owner links

def createFeature : Link FeatureDraft → Change EntityId
  | .reference id => existing .featureOfInterest id
  | .body draft => insertFeature draft

def insertFeature : FeatureDraft → Change EntityId
  | ⟨id, name, description, encodingType, feature, properties, observations⟩ => do
    let id ← addFeature id name description encodingType feature properties
    attachListedObservations (.feature id) observations
    return id

/-- The feature that owns a nested draft, or else the one that the draft names, or else that of the
thing. -/
def ownerFeature (thing : EntityId) :
    Option EntityId → Option (Link FeatureDraft) → Change EntityId
  | some given, _ => return given
  | none, some link => createFeature link
  | none, none => derivedFeature thing

def createObservation : Link ObservationDraft → Change EntityId
  | .reference id => existing .observation id
  | .body draft => insertObservation none draft

def insertObservation (owner : Option ObservationOwner) : ObservationDraft → Change EntityId
  | ⟨id, phenomenonTime, resultTime, validTime, parameters, result, datastream, feature⟩ => do
    requireThat .observation "Datastream"
      ((ObservationOwner.datastream? owner).isSome || datastream.isSome)
    let raw ← require .observation "result" result
    let id ← claim .observation id
    let datastream ← ownerDatastream (ObservationOwner.datastream? owner) datastream
    let stream : Datastream ← fetch .datastream datastream
    let result ← ofExcept (stream.observationType.result raw)
    let feature ← ownerFeature stream.thing (ObservationOwner.feature? owner) feature
    addObservation id phenomenonTime resultTime validTime parameters result stream feature
    return id

end

end Change

end SensorThings
