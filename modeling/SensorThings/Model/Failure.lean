import SensorThings.Filter.Fault
import SensorThings.Json.Writer
import SensorThings.Model.EntityId
import SensorThings.Model.EntityKind

/-!
Why a request is refused.
-/
namespace SensorThings

/-- Relations that a request may not set in the way it tries to. -/
inductive FixedRelation where
  | ofThing
  | ofLocation
  | ofHistoricalLocation
  | ofSensor
  | ofObservedProperty
  | ofDatastream
  | ofFeature
  | datastreamOwner (owner : EntityKind)
  | observationDatastream
  | observationOfDatastream
  | observationOfFeature
  | historicalLocationOfThing
deriving DecidableEq, Repr

def FixedRelation.message : FixedRelation → String
  | ofThing => "Datastreams and HistoricalLocations cannot be changed through a Thing patch"
  | ofLocation => "Things are moved through a Thing patch, not a Location patch"
  | ofHistoricalLocation => "the Thing and Locations of a HistoricalLocation cannot be changed"
  | ofSensor => "Datastreams cannot be changed through a Sensor patch"
  | ofObservedProperty => "Datastreams cannot be changed through an ObservedProperty patch"
  | ofDatastream => "Observations cannot be changed through a Datastream patch"
  | ofFeature => "Observations cannot be changed through a FeatureOfInterest patch"
  | datastreamOwner owner => "the " ++ owner.name ++ " of a Datastream cannot be changed"
  | observationDatastream => "the Datastream of an Observation cannot be changed"
  | observationOfDatastream => "existing Observations cannot be moved to another Datastream"
  | observationOfFeature => "existing Observations are re-pointed through an Observation patch"
  | historicalLocationOfThing => "existing HistoricalLocations cannot be moved to another Thing"

inductive Failure where
  | missing (kind : EntityKind) (property : String)
  | malformed (kind : EntityKind)
  | unknownObservationType (uri : String)
  | unfitResult (result : Json) (expected : String)
  | relatedBody (kind : EntityKind)
  | fixed (relation : FixedRelation)
  | observedTypeFixed
  | noLocation (thing : EntityId)
  | unrelated (parent child : EntityKind)
  | notObject
  | notCreatable (parent child : EntityKind)
  | notCollection
  | notSingle
  | query (fault : QueryFault)
  | notFound (kind : EntityKind) (id : EntityId)
  | noneRelated (parent : EntityKind) (id : EntityId) (child : EntityKind)
  | conflict (kind : EntityKind) (id : EntityId)
  | notEntitySet (kind : EntityKind)
  | notQueryable (kind : EntityKind)
  | notReplaceable (kind : EntityKind)
  | filterText
  | expansion
  | document
  | unknownPath (path : String)
  | malformedBody
deriving Inhabited

/-- What kind of answer a failure calls for. -/
inductive FailureClass where
  | invalidRequest
  | notFound
  | conflict
  | unsupported
  | internal
deriving DecidableEq, Repr

namespace Failure

def classOf : Failure → FailureClass
  | notFound .. => .notFound
  | noneRelated .. => .notFound
  | unknownPath _ => .notFound
  | conflict .. => .conflict
  | notEntitySet _ => .unsupported
  | notQueryable _ => .unsupported
  | notReplaceable _ => .unsupported
  | filterText => .unsupported
  | expansion => .unsupported
  | document => .internal
  | _ => .invalidRequest

private def reason : Failure → String
  | missing kind property => kind.name ++ " is missing required property '" ++ property ++ "'"
  | malformed kind => "malformed " ++ kind.name ++ " payload:"
  | unknownObservationType uri => "unknown observationType '" ++ uri ++ "'"
  | unfitResult result expected =>
    "result " ++ result.text ++ " is not a valid " ++ expected ++ " value"
  | relatedBody kind =>
    "a " ++ kind.name ++ " patch may only reference related entities by @iot.id"
  | fixed relation => relation.message
  | observedTypeFixed => "observationType cannot change once a Datastream has Observations"
  | noLocation thing =>
    "Observation has no FeatureOfInterest and Thing " ++ thing.text ++ " has no Location"
  | unrelated parent child => parent.name ++ " has no navigation to " ++ child.name
  | notObject => "request body must be a JSON object"
  | notCreatable parent child => "cannot create " ++ child.name ++ " through " ++ parent.name
  | notCollection => "POST must target an entity collection"
  | notSingle => "this method must target a single entity"
  | query fault => fault.message
  | notFound kind id => kind.name ++ " not found: " ++ id.text
  | noneRelated parent id child =>
    child.name ++ " not found: " ++ parent.name ++ "(" ++ id.text ++ ")/" ++ child.name
  | conflict kind id => kind.name ++ " with id '" ++ id.text ++ "' already exists"
  | notEntitySet kind => kind.name ++ " is not an entity set"
  | notQueryable kind => kind.name ++ " is not queryable"
  | notReplaceable kind => "replacing a " ++ kind.name ++ " is not supported, use PATCH"
  | filterText => "textual $filter expressions are not parsed by this server"
  | expansion => "$expand is not supported"
  | document => "JSON error:"
  | unknownPath path => "No resource at " ++ path
  | malformedBody => "Malformed request body:"

def message (failure : Failure) : String :=
  match failure, failure.classOf with
  | query fault, _ => fault.message
  | malformedBody, _ => malformedBody.reason
  | other, .invalidRequest => "Invalid request: " ++ other.reason
  | other, .unsupported => "Operation not supported: " ++ other.reason
  | other, .internal => "Internal error: " ++ other.reason
  | other, _ => other.reason

end Failure

end SensorThings
