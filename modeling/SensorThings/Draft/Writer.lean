import SensorThings.Draft.Basic
import SensorThings.Model.Document

/-!
Drafts as JSON: what is there is written, and nothing else. Reading the text of a draft gives the
draft back.
-/
namespace SensorThings

def UnitDraft.toJson (unit : UnitDraft) : Json :=
  .ofMembers <|
    Json.present "name" .string unit.name ++
    Json.present "symbol" .string unit.symbol ++
    Json.present "definition" .string unit.definition

private def referenceJson (id : EntityId) : Json :=
  .object [("@iot.id", id.toJson)]

mutual

def ThingDraft.toJson : ThingDraft → Json
  | ⟨id, name, description, properties, locations, datastreams, historicalLocations⟩ =>
    .ofMembers <|
      Json.present "@iot.id" EntityId.toJson id ++
      Json.present "name" .string name ++
      Json.present "description" .string description ++
      Json.free "properties" properties ++
      LocationDraft.members "Locations" locations ++
      DatastreamDraft.members "Datastreams" datastreams ++
      HistoricalLocationDraft.members "HistoricalLocations" historicalLocations

def ThingDraft.linkJson : Link ThingDraft → Json
  | .reference id => referenceJson id
  | .body draft => ThingDraft.toJson draft

def ThingDraft.linksJson : List (Link ThingDraft) → List Json
  | [] => []
  | link :: rest => ThingDraft.linkJson link :: ThingDraft.linksJson rest

def ThingDraft.members (key : String) : Option (List (Link ThingDraft)) → List (String × Json)
  | none => []
  | some links => [(key, .array (ThingDraft.linksJson links))]

def ThingDraft.member (key : String) : Option (Link ThingDraft) → List (String × Json)
  | none => []
  | some link => [(key, ThingDraft.linkJson link)]

def LocationDraft.toJson : LocationDraft → Json
  | ⟨id, name, description, encodingType, location, properties, things, historicalLocations⟩ =>
    .ofMembers <|
      Json.present "@iot.id" EntityId.toJson id ++
      Json.present "name" .string name ++
      Json.present "description" .string description ++
      Json.present "encodingType" .string encodingType ++
      Json.present "location" SentGeometry.toJson location ++
      Json.free "properties" properties ++
      ThingDraft.members "Things" things ++
      HistoricalLocationDraft.members "HistoricalLocations" historicalLocations

def LocationDraft.linkJson : Link LocationDraft → Json
  | .reference id => referenceJson id
  | .body draft => LocationDraft.toJson draft

def LocationDraft.linksJson : List (Link LocationDraft) → List Json
  | [] => []
  | link :: rest => LocationDraft.linkJson link :: LocationDraft.linksJson rest

def LocationDraft.members (key : String) :
    Option (List (Link LocationDraft)) → List (String × Json)
  | none => []
  | some links => [(key, .array (LocationDraft.linksJson links))]

def HistoricalLocationDraft.toJson : HistoricalLocationDraft → Json
  | ⟨id, time, thing, locations⟩ =>
    .ofMembers <|
      Json.present "@iot.id" EntityId.toJson id ++
      Json.present "time" Instant.toJson time ++
      ThingDraft.member "Thing" thing ++
      LocationDraft.members "Locations" locations

def HistoricalLocationDraft.linkJson : Link HistoricalLocationDraft → Json
  | .reference id => referenceJson id
  | .body draft => HistoricalLocationDraft.toJson draft

def HistoricalLocationDraft.linksJson : List (Link HistoricalLocationDraft) → List Json
  | [] => []
  | link :: rest =>
    HistoricalLocationDraft.linkJson link :: HistoricalLocationDraft.linksJson rest

def HistoricalLocationDraft.members (key : String) :
    Option (List (Link HistoricalLocationDraft)) → List (String × Json)
  | none => []
  | some links => [(key, .array (HistoricalLocationDraft.linksJson links))]

def SensorDraft.toJson : SensorDraft → Json
  | ⟨id, name, description, encodingType, metadata, properties, datastreams⟩ =>
    .ofMembers <|
      Json.present "@iot.id" EntityId.toJson id ++
      Json.present "name" .string name ++
      Json.present "description" .string description ++
      Json.present "encodingType" .string encodingType ++
      Json.present "metadata" .string metadata ++
      Json.free "properties" properties ++
      DatastreamDraft.members "Datastreams" datastreams

def SensorDraft.linkJson : Link SensorDraft → Json
  | .reference id => referenceJson id
  | .body draft => SensorDraft.toJson draft

def SensorDraft.member (key : String) : Option (Link SensorDraft) → List (String × Json)
  | none => []
  | some link => [(key, SensorDraft.linkJson link)]

def ObservedPropertyDraft.toJson : ObservedPropertyDraft → Json
  | ⟨id, name, definition, description, properties, datastreams⟩ =>
    .ofMembers <|
      Json.present "@iot.id" EntityId.toJson id ++
      Json.present "name" .string name ++
      Json.present "definition" .string definition ++
      Json.present "description" .string description ++
      Json.free "properties" properties ++
      DatastreamDraft.members "Datastreams" datastreams

def ObservedPropertyDraft.linkJson : Link ObservedPropertyDraft → Json
  | .reference id => referenceJson id
  | .body draft => ObservedPropertyDraft.toJson draft

def ObservedPropertyDraft.member (key : String) :
    Option (Link ObservedPropertyDraft) → List (String × Json)
  | none => []
  | some link => [(key, ObservedPropertyDraft.linkJson link)]

def DatastreamDraft.toJson : DatastreamDraft → Json
  | ⟨id, name, description, unit, observationType, properties, thing, sensor, observedProperty,
      observations⟩ =>
    .ofMembers <|
      Json.present "@iot.id" EntityId.toJson id ++
      Json.present "name" .string name ++
      Json.present "description" .string description ++
      Json.present "unitOfMeasurement" UnitDraft.toJson unit ++
      Json.present "observationType" .string observationType ++
      Json.free "properties" properties ++
      ThingDraft.member "Thing" thing ++
      SensorDraft.member "Sensor" sensor ++
      ObservedPropertyDraft.member "ObservedProperty" observedProperty ++
      ObservationDraft.members "Observations" observations

def DatastreamDraft.linkJson : Link DatastreamDraft → Json
  | .reference id => referenceJson id
  | .body draft => DatastreamDraft.toJson draft

def DatastreamDraft.linksJson : List (Link DatastreamDraft) → List Json
  | [] => []
  | link :: rest => DatastreamDraft.linkJson link :: DatastreamDraft.linksJson rest

def DatastreamDraft.members (key : String) :
    Option (List (Link DatastreamDraft)) → List (String × Json)
  | none => []
  | some links => [(key, .array (DatastreamDraft.linksJson links))]

def DatastreamDraft.member (key : String) : Option (Link DatastreamDraft) → List (String × Json)
  | none => []
  | some link => [(key, DatastreamDraft.linkJson link)]

def FeatureDraft.toJson : FeatureDraft → Json
  | ⟨id, name, description, encodingType, feature, properties, observations⟩ =>
    .ofMembers <|
      Json.present "@iot.id" EntityId.toJson id ++
      Json.present "name" .string name ++
      Json.present "description" .string description ++
      Json.present "encodingType" .string encodingType ++
      Json.present "feature" SentGeometry.toJson feature ++
      Json.free "properties" properties ++
      ObservationDraft.members "Observations" observations

def FeatureDraft.linkJson : Link FeatureDraft → Json
  | .reference id => referenceJson id
  | .body draft => FeatureDraft.toJson draft

def FeatureDraft.member (key : String) : Option (Link FeatureDraft) → List (String × Json)
  | none => []
  | some link => [(key, FeatureDraft.linkJson link)]

def ObservationDraft.toJson : ObservationDraft → Json
  | ⟨id, phenomenonTime, resultTime, validTime, parameters, result, datastream, feature⟩ =>
    .ofMembers <|
      Json.present "@iot.id" EntityId.toJson id ++
      Json.present "phenomenonTime" TimeSpan.toJson phenomenonTime ++
      Json.present "resultTime" Instant.toJson resultTime ++
      Json.present "validTime" Interval.toJson validTime ++
      Json.free "parameters" parameters ++
      Json.free "result" result ++
      DatastreamDraft.member "Datastream" datastream ++
      FeatureDraft.member "FeatureOfInterest" feature

def ObservationDraft.linkJson : Link ObservationDraft → Json
  | .reference id => referenceJson id
  | .body draft => ObservationDraft.toJson draft

def ObservationDraft.linksJson : List (Link ObservationDraft) → List Json
  | [] => []
  | link :: rest => ObservationDraft.linkJson link :: ObservationDraft.linksJson rest

def ObservationDraft.members (key : String) :
    Option (List (Link ObservationDraft)) → List (String × Json)
  | none => []
  | some links => [(key, .array (ObservationDraft.linksJson links))]

end

end SensorThings
