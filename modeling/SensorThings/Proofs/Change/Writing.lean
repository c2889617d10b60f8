import SensorThings.Proofs.Change.Preserving

/-!
Which kinds an operation writes. A property that no write of these kinds changes is preserved by the
operation, whatever else it reads.
-/
namespace SensorThings.Change

/-- A property of the tables is indifferent to what is written of a kind. -/
def Ignores (holds : Tables → Prop) (kind : EntityKind) : Prop :=
  ∀ tables entity, holds tables → holds (tables.put kind entity)

variable {holds : Tables → Prop}

theorem Ignores.save {kind : EntityKind} (ignores : Ignores holds kind) (entity : kind.Entity) :
    (Change.save kind entity).Preserves holds fun _ => True :=
  preserves_save fun tables => ignores tables entity

theorem preserves_row (kind : EntityKind) (id : EntityId) :
    (fetch kind id).Preserves holds fun _ => True :=
  preserves_fetch fun _ _ _ _ => trivial

theorem preserves_formatFor (formats : Ignores holds .format) (type : ObservationType) :
    (formatFor type).Preserves holds fun _ => True := by
  unfold formatFor
  apply (preserves_idWhere? _ _).bind
  intro found _
  cases found with
  | some found => exact preserves_pure trivial
  | none =>
    exact preserves_draw.bind fun id _ => (formats.save _).bind fun _ _ => preserves_pure trivial

theorem preserves_datasetFor (datasets : Ignores holds .dataset) (datastream : Datastream)
    (feature : EntityId) : (datasetFor datastream feature).Preserves holds fun _ => True := by
  unfold datasetFor
  apply (preserves_idWhere? _ _).bind
  intro found _
  cases found with
  | some found => exact preserves_pure trivial
  | none =>
    exact preserves_draw.bind fun id _ => (datasets.save _).bind fun _ _ => preserves_pure trivial

theorem preserves_addObservation (observations : Ignores holds .observation)
    (datastreams : Ignores holds .datastream) (datasets : Ignores holds .dataset) (id : EntityId)
    (phenomenonTime : Option TimeSpan) (resultTime : Option Instant)
    (validTime : Option Interval) (parameters : Option Json) (result : ObservedValue)
    (stream : Datastream) (feature : EntityId) :
    (addObservation id phenomenonTime resultTime validTime parameters result stream
      feature).Preserves holds fun _ => True := by
  refine preserves_now.bind fun _ _ => (preserves_datasetFor datasets _ _).bind fun _ _ => ?_
  refine (observations.save _).bind fun _ _ => (preserves_row _ _).bind fun _ _ => ?_
  exact (datastreams.save _).bind fun _ _ => (preserves_row _ _).bind fun _ _ => datasets.save _

theorem preserves_backlink (locations : Ignores holds .location)
    (historical location : EntityId) :
    (backlink historical location).Preserves holds fun _ => True :=
  (preserves_row _ _).bind fun _ _ =>
    preserves_ite (locations.save _) (preserves_pure trivial)

theorem preserves_addLocation (locations : Ignores holds .location) (id : Option EntityId)
    (name description encodingType : Option String) (location : Option SentGeometry)
    (properties : Option Json) :
    (addLocation id name description encodingType location properties).Preserves holds
      fun _ => True := by
  apply (preserves_member _ _ _).bind
  intro name _
  have search : (locationRepeated? id name).Preserves holds fun _ => True := by
    cases id with
    | none => exact preserves_idWhere? _ _
    | some id => exact preserves_pure trivial
  apply search.bind
  intro found _
  cases found with
  | some found => exact preserves_pure trivial
  | none =>
    exact (preserves_member _ _ _).bind fun _ _ => (preserves_member _ _ _).bind fun _ _ =>
      (preserves_member _ _ _).bind fun _ _ => (preserves_claim _ _).bind fun _ _ =>
      (locations.save _).bind fun _ _ => preserves_pure trivial

theorem preserves_addSensor (sensors : Ignores holds .sensor) (id : Option EntityId)
    (name description encodingType metadata : Option String) (properties : Option Json) :
    (addSensor id name description encodingType metadata properties).Preserves holds
      fun _ => True :=
  (preserves_claim _ _).bind fun _ _ => (preserves_member _ _ _).bind fun _ _ =>
    (preserves_member _ _ _).bind fun _ _ => (preserves_member _ _ _).bind fun _ _ =>
    (preserves_member _ _ _).bind fun _ _ => (sensors.save _).bind fun _ _ =>
    preserves_pure trivial

theorem preserves_addObservedProperty (properties : Ignores holds .observedProperty)
    (id : Option EntityId) (name definition description : Option String) (free : Option Json) :
    (addObservedProperty id name definition description free).Preserves holds fun _ => True := by
  refine (preserves_member _ _ _).bind fun name _ =>
    (preserves_member _ _ _).bind fun definition _ =>
    (preserves_member _ _ _).bind fun description _ => ?_
  have search : (propertyRepeated? id definition).Preserves holds fun _ => True := by
    cases id with
    | none => exact preserves_idWhere? _ _
    | some id => exact preserves_pure trivial
  apply search.bind
  intro found _
  cases found with
  | some found => exact preserves_pure trivial
  | none =>
    exact (preserves_claim _ _).bind fun _ _ => (properties.save _).bind fun _ _ =>
      preserves_pure trivial

theorem preserves_addFeature (features : Ignores holds .featureOfInterest) (id : Option EntityId)
    (name description encodingType : Option String) (feature : Option SentGeometry)
    (properties : Option Json) :
    (addFeature id name description encodingType feature properties).Preserves holds
      fun _ => True := by
  refine (preserves_member _ _ _).bind fun name _ =>
    (preserves_member _ _ _).bind fun description _ =>
    (preserves_member _ _ _).bind fun featureType _ =>
    (preserves_member _ _ _).bind fun sent _ => ?_
  have search : (featureRepeated? id sent.geometry description).Preserves holds
      fun _ => True := by
    cases id with
    | none => exact preserves_idWhere? _ _
    | some id =>
      refine Preserves.bind (preserves_find? fun _ _ _ _ => trivial) fun found _ => ?_
      cases found <;> exact preserves_pure trivial
  apply search.bind
  intro found _
  cases found with
  | some found => exact preserves_pure trivial
  | none =>
    exact (preserves_claim _ _).bind fun _ _ => (features.save _).bind fun _ _ =>
      preserves_pure trivial

theorem preserves_derivedFeature (features : Ignores holds .featureOfInterest) (thing : EntityId) :
    (derivedFeature thing).Preserves holds fun _ => True := by
  have made : (featureOfThing thing).Preserves holds fun _ => True := by
    unfold featureOfThing
    apply (preserves_row _ _).bind
    intro row _
    cases row.currentLocation? with
    | none => exact preserves_throw _
    | some place =>
      refine (preserves_row _ _).bind fun location _ => (preserves_idWhere? _ _).bind ?_
      intro found _
      cases found with
      | some feature => exact preserves_pure trivial
      | none =>
        exact (preserves_featureId _).bind fun _ _ => (features.save _).bind fun _ _ =>
          preserves_pure trivial
  exact preserves_config.bind fun _ _ => preserves_ite made (preserves_throw _)

theorem preserves_adoptDatastream (datastreams : Ignores holds .datastream)
    (owner : DatastreamOwner) (id : EntityId) :
    (adoptDatastream owner id).Preserves holds fun _ => True :=
  (preserves_row _ _).bind fun _ _ => datastreams.save _

end SensorThings.Change
