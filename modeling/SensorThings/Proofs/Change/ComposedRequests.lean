import SensorThings.Change.Request
import SensorThings.Proofs.Change.Composed

/-!
Requests are composed changes: drafts, at whatever depth of a body, revisions and removals are put
together from operations that are.
-/
namespace SensorThings.Change

variable {α : Type}

/-! Making drafts, by recursion on the draft. -/

mutual

theorem composed_createThing : (link : Link ThingDraft) → (createThing link).Composed
  | .reference id => composed_existing .thing id
  | .body draft => by
    unfold createThing
    exact composed_insertThing draft

theorem composed_insertThing : (draft : ThingDraft) → (insertThing draft).Composed
  | ⟨_, _, _, _, locations, datastreams, histories⟩ => by
    unfold insertThing
    refine (composed_addThing _ _ _ _).bind fun id => ?_
    refine (composed_createListedLocations locations).bind fun places => ?_
    refine (composed_settleThing id places).bind fun _ => ?_
    refine (composed_attachListedDatastreams _ datastreams).bind fun _ => ?_
    exact (composed_attachListedHistory _ histories).bind fun _ => .pure id

theorem composed_ownerThing (kind : EntityKind) :
    (given : Option EntityId) → (link : Option (Link ThingDraft)) →
      (ownerThing kind given link).Composed
  | some id, link => by
    unfold ownerThing
    exact .pure id
  | none, some link => by
    unfold ownerThing
    exact composed_createThing link
  | none, none => by
    unfold ownerThing
    exact composed_missing kind "Thing"

theorem composed_createThingsAt (location : EntityId) :
    (links : List (Link ThingDraft)) → (createThingsAt location links).Composed
  | [] => by
    unfold createThingsAt
    exact .pure ()
  | link :: rest => by
    unfold createThingsAt
    refine (composed_createThing link).bind fun thing => ?_
    exact (composed_moveThing _ _).bind fun _ => composed_createThingsAt location rest

theorem composed_createListedThingsAt (location : EntityId) :
    (links : Option (List (Link ThingDraft))) → (createListedThingsAt location links).Composed
  | none => by
    unfold createListedThingsAt
    exact .pure ()
  | some links => by
    unfold createListedThingsAt
    exact composed_createThingsAt location links

theorem composed_createLocation : (link : Link LocationDraft) → (createLocation link).Composed
  | .reference id => composed_existing .location id
  | .body draft => by
    unfold createLocation
    exact composed_insertLocation draft

theorem composed_createLocations :
    (links : List (Link LocationDraft)) → (createLocations links).Composed
  | [] => by
    unfold createLocations
    exact .pure []
  | link :: rest => by
    unfold createLocations
    refine (composed_createLocation link).bind fun id => ?_
    exact (composed_createLocations rest).bind fun ids => .pure (id :: ids)

theorem composed_createListedLocations :
    (links : Option (List (Link LocationDraft))) → (createListedLocations links).Composed
  | none => by
    unfold createListedLocations
    exact .pure []
  | some links => by
    unfold createListedLocations
    exact composed_createLocations links

theorem composed_insertLocation : (draft : LocationDraft) → (insertLocation draft).Composed
  | ⟨_, _, _, _, _, _, things, histories⟩ => by
    unfold insertLocation
    refine (composed_addLocation _ _ _ _ _ _).bind fun id => ?_
    refine (composed_createListedThingsAt id things).bind fun _ => ?_
    exact (composed_attachListedHistory _ histories).bind fun _ => .pure id

theorem composed_attachHistory (owner : HistoryOwner) :
    (links : List (Link HistoricalLocationDraft)) → (attachHistory owner links).Composed
  | [] => by
    unfold attachHistory
    exact .pure ()
  | .reference id :: rest => by
    unfold attachHistory
    exact (composed_linkHistory id owner).bind fun _ => composed_attachHistory owner rest
  | .body draft :: rest => by
    unfold attachHistory
    exact (composed_insertHistory (some owner) draft).bind fun _ =>
      composed_attachHistory owner rest

theorem composed_attachListedHistory (owner : HistoryOwner) :
    (links : Option (List (Link HistoricalLocationDraft))) →
      (attachListedHistory owner links).Composed
  | none => by
    unfold attachListedHistory
    exact .pure ()
  | some links => by
    unfold attachListedHistory
    exact composed_attachHistory owner links

theorem composed_createHistory :
    (link : Link HistoricalLocationDraft) → (createHistory link).Composed
  | .reference id => composed_existing .historicalLocation id
  | .body draft => by
    unfold createHistory
    exact composed_insertHistory none draft

theorem composed_insertHistory (owner : Option HistoryOwner) :
    (draft : HistoricalLocationDraft) → (insertHistory owner draft).Composed
  | ⟨_, _, thing, locations⟩ => by
    unfold insertHistory
    refine (composed_require _ _ _).bind fun time => ?_
    refine (composed_requireThat _ _ _).bind fun _ => (composed_requireThat _ _ _).bind fun _ => ?_
    refine (composed_claim _ _).bind fun id => ?_
    refine (composed_ownerThing _ _ thing).bind fun thing => ?_
    refine (composed_createListedLocations locations).bind fun places => ?_
    exact (composed_record _).bind fun _ => .pure id

theorem composed_createSensor : (link : Link SensorDraft) → (createSensor link).Composed
  | .reference id => composed_existing .sensor id
  | .body draft => by
    unfold createSensor
    exact composed_insertSensor draft

theorem composed_insertSensor : (draft : SensorDraft) → (insertSensor draft).Composed
  | ⟨_, _, _, _, _, _, datastreams⟩ => by
    unfold insertSensor
    refine (composed_addSensor _ _ _ _ _ _).bind fun id => ?_
    exact (composed_attachListedDatastreams _ datastreams).bind fun _ => .pure id

theorem composed_ownerSensor :
    (given : Option EntityId) → (link : Option (Link SensorDraft)) →
      (ownerSensor given link).Composed
  | some id, link => by
    unfold ownerSensor
    exact .pure id
  | none, some link => by
    unfold ownerSensor
    exact composed_createSensor link
  | none, none => by
    unfold ownerSensor
    exact composed_missing .datastream "Sensor"

theorem composed_createObservedProperty :
    (link : Link ObservedPropertyDraft) → (createObservedProperty link).Composed
  | .reference id => composed_existing .observedProperty id
  | .body draft => by
    unfold createObservedProperty
    exact composed_insertObservedProperty draft

theorem composed_insertObservedProperty :
    (draft : ObservedPropertyDraft) → (insertObservedProperty draft).Composed
  | ⟨_, _, _, _, _, datastreams⟩ => by
    unfold insertObservedProperty
    refine (composed_addObservedProperty _ _ _ _ _).bind fun id => ?_
    exact (composed_attachListedDatastreams _ datastreams).bind fun _ => .pure id

theorem composed_ownerObservedProperty :
    (given : Option EntityId) → (link : Option (Link ObservedPropertyDraft)) →
      (ownerObservedProperty given link).Composed
  | some id, link => by
    unfold ownerObservedProperty
    exact .pure id
  | none, some link => by
    unfold ownerObservedProperty
    exact composed_createObservedProperty link
  | none, none => by
    unfold ownerObservedProperty
    exact composed_missing .datastream "ObservedProperty"

theorem composed_attachDatastreams (owner : DatastreamOwner) :
    (links : List (Link DatastreamDraft)) → (attachDatastreams owner links).Composed
  | [] => by
    unfold attachDatastreams
    exact .pure ()
  | .reference id :: rest => by
    unfold attachDatastreams
    exact (composed_adoptDatastream owner id).bind fun _ => composed_attachDatastreams owner rest
  | .body draft :: rest => by
    unfold attachDatastreams
    exact (composed_insertDatastream (some owner) draft).bind fun _ =>
      composed_attachDatastreams owner rest

theorem composed_attachListedDatastreams (owner : DatastreamOwner) :
    (links : Option (List (Link DatastreamDraft))) → (attachListedDatastreams owner links).Composed
  | none => by
    unfold attachListedDatastreams
    exact .pure ()
  | some links => by
    unfold attachListedDatastreams
    exact composed_attachDatastreams owner links

theorem composed_createDatastream : (link : Link DatastreamDraft) → (createDatastream link).Composed
  | .reference id => composed_existing .datastream id
  | .body draft => by
    unfold createDatastream
    exact composed_insertDatastream none draft

theorem composed_insertDatastream (owner : Option DatastreamOwner) :
    (draft : DatastreamDraft) → (insertDatastream owner draft).Composed
  | ⟨_, _, _, _, _, _, thing, sensor, property, observations⟩ => by
    unfold insertDatastream
    refine (composed_requireThat _ _ _).bind fun _ => (composed_requireThat _ _ _).bind fun _ =>
      (composed_requireThat _ _ _).bind fun _ => ?_
    refine (composed_require _ _ _).bind fun name =>
      (composed_require _ _ _).bind fun description =>
      (composed_require _ _ _).bind fun unit => (composed_require _ _ _).bind fun uri => ?_
    refine (composed_ofExcept _).bind fun type => (composed_claim _ _).bind fun id => ?_
    refine (composed_ownerThing _ _ thing).bind fun thing => ?_
    refine (composed_ownerSensor _ sensor).bind fun sensor => ?_
    refine (composed_ownerObservedProperty _ property).bind fun property => ?_
    refine (composed_addDatastream _ _ _ _ _ _ _ _ _).bind fun _ => ?_
    exact (composed_attachListedObservations _ observations).bind fun _ => .pure id

theorem composed_ownerDatastream :
    (given : Option EntityId) → (link : Option (Link DatastreamDraft)) →
      (ownerDatastream given link).Composed
  | some id, link => by
    unfold ownerDatastream
    exact .pure id
  | none, some link => by
    unfold ownerDatastream
    exact composed_createDatastream link
  | none, none => by
    unfold ownerDatastream
    exact composed_missing .observation "Datastream"

theorem composed_attachObservations (owner : ObservationOwner) :
    (links : List (Link ObservationDraft)) → (attachObservations owner links).Composed
  | [] => by
    unfold attachObservations
    exact .pure ()
  | .reference id :: rest => by
    unfold attachObservations
    exact .throw _
  | .body draft :: rest => by
    unfold attachObservations
    exact (composed_insertObservation (some owner) draft).bind fun _ =>
      composed_attachObservations owner rest

theorem composed_attachListedObservations (owner : ObservationOwner) :
    (links : Option (List (Link ObservationDraft))) →
      (attachListedObservations owner links).Composed
  | none => by
    unfold attachListedObservations
    exact .pure ()
  | some links => by
    unfold attachListedObservations
    exact composed_attachObservations owner links

theorem composed_createFeature : (link : Link FeatureDraft) → (createFeature link).Composed
  | .reference id => composed_existing .featureOfInterest id
  | .body draft => by
    unfold createFeature
    exact composed_insertFeature draft

theorem composed_insertFeature : (draft : FeatureDraft) → (insertFeature draft).Composed
  | ⟨_, _, _, _, _, _, observations⟩ => by
    unfold insertFeature
    refine (composed_addFeature _ _ _ _ _ _).bind fun id => ?_
    exact (composed_attachListedObservations _ observations).bind fun _ => .pure id

theorem composed_ownerFeature (thing : EntityId) :
    (given : Option EntityId) → (link : Option (Link FeatureDraft)) →
      (ownerFeature thing given link).Composed
  | some id, link => by
    unfold ownerFeature
    exact .pure id
  | none, some link => by
    unfold ownerFeature
    exact composed_createFeature link
  | none, none => by
    unfold ownerFeature
    exact composed_derivedFeature thing

theorem composed_createObservation :
    (link : Link ObservationDraft) → (createObservation link).Composed
  | .reference id => composed_existing .observation id
  | .body draft => by
    unfold createObservation
    exact composed_insertObservation none draft

theorem composed_insertObservation (owner : Option ObservationOwner) :
    (draft : ObservationDraft) → (insertObservation owner draft).Composed
  | ⟨_, _, _, _, _, _, datastream, feature⟩ => by
    unfold insertObservation
    refine (composed_requireThat _ _ _).bind fun _ => (composed_require _ _ _).bind fun raw =>
      (composed_claim _ _).bind fun id => ?_
    refine (composed_ownerDatastream _ datastream).bind fun datastream =>
      (composed_fetch _ _).bind fun stream => (composed_ofExcept _).bind fun result => ?_
    refine (composed_ownerFeature _ _ feature).bind fun feature => ?_
    exact (composed_addObservation _ _ _ _ _ _ _ _).bind fun _ => .pure id

end

/-! Revising. -/

theorem composed_refuseBodies (kind : EntityKind) (hasBodies : Bool) :
    (refuseBodies kind hasBodies).Composed :=
  composed_ite (.throw _) (.pure ())

theorem composed_refuse (relation : FixedRelation) (given : Bool) :
    (refuse relation given).Composed :=
  composed_ite (.throw _) (.pure ())

theorem composed_keeps (relation : FixedRelation) (current : EntityId)
    (link : Option (Link α)) : (keeps relation current link).Composed := by
  cases link with
  | none => exact .pure ()
  | some link => cases link <;> exact composed_refuse _ _

theorem composed_reviseThing (id : EntityId) (draft : ThingDraft) :
    (reviseThing id draft).Composed := by
  unfold reviseThing
  refine (composed_fetch _ _).bind fun thing => (composed_refuseBodies _ _).bind fun _ =>
    (composed_refuse _ _).bind fun _ => (Composed.save _ _).bind fun _ => ?_
  cases draft.locations with
  | none => exact .pure ()
  | some links =>
    exact (composed_mapM fun location => composed_existing .location location).bind fun _ =>
      composed_moveThing _ _

theorem composed_reviseLocation (id : EntityId) (draft : LocationDraft) :
    (reviseLocation id draft).Composed :=
  (composed_fetch _ _).bind fun _ => (composed_refuseBodies _ _).bind fun _ =>
    (composed_refuse _ _).bind fun _ => .save _ _

theorem composed_reviseHistoricalLocation (id : EntityId) (draft : HistoricalLocationDraft) :
    (reviseHistoricalLocation id draft).Composed :=
  (composed_fetch _ _).bind fun _ => (composed_refuseBodies _ _).bind fun _ =>
    (composed_refuse _ _).bind fun _ => .save _ _

theorem composed_reviseSensor (id : EntityId) (draft : SensorDraft) :
    (reviseSensor id draft).Composed :=
  (composed_fetch _ _).bind fun _ => (composed_refuseBodies _ _).bind fun _ =>
    (composed_refuse _ _).bind fun _ => .save _ _

theorem composed_reviseObservedProperty (id : EntityId) (draft : ObservedPropertyDraft) :
    (reviseObservedProperty id draft).Composed :=
  (composed_fetch _ _).bind fun _ => (composed_refuseBodies _ _).bind fun _ =>
    (composed_refuse _ _).bind fun _ => .save _ _

theorem composed_refuseObserved (datastream : EntityId) : (refuseObserved datastream).Composed :=
  Composed.tables.bind fun _ => composed_ite (.throw _) (.pure ())

theorem composed_retyped (datastream : Datastream) (uri : Option String) :
    (retyped datastream uri).Composed := by
  cases uri with
  | none => exact .pure datastream
  | some uri =>
    apply (composed_ofExcept _).bind
    intro type
    apply composed_ite (.pure datastream)
    exact (composed_refuseObserved _).bind fun _ => (composed_formatFor type).bind fun _ =>
      .pure _

theorem composed_revisedUnit (current : EntityId) (draft : Option UnitDraft) :
    (revisedUnit current draft).Composed := by
  cases draft with
  | none => exact .pure current
  | some draft => exact composed_unitFor draft

theorem composed_reviseDatastream (id : EntityId) (draft : DatastreamDraft) :
    (reviseDatastream id draft).Composed := by
  unfold reviseDatastream
  refine (composed_fetch _ _).bind fun _ => (composed_refuseBodies _ _).bind fun _ => ?_
  refine (composed_keeps _ _ _).bind fun _ => (composed_keeps _ _ _).bind fun _ =>
    (composed_keeps _ _ _).bind fun _ => (composed_refuse _ _).bind fun _ => ?_
  exact (composed_revisedUnit _ _).bind fun _ => (composed_retyped _ _).bind fun _ =>
    .save _ _

theorem composed_reviseFeature (id : EntityId) (draft : FeatureDraft) :
    (reviseFeature id draft).Composed :=
  (composed_fetch _ _).bind fun _ => (composed_refuseBodies _ _).bind fun _ =>
    (composed_refuse _ _).bind fun _ => .save _ _

theorem composed_refocused (observation : Observation) (datastream : Datastream)
    (link : Option (Link FeatureDraft)) : (refocused observation datastream link).Composed := by
  unfold refocused
  split
  next feature =>
    apply (composed_existing _ _).bind
    intro feature
    apply composed_ite (.pure observation)
    exact (composed_datasetFor _ _).bind fun _ => .pure _
  next => exact .pure observation

theorem composed_revisedResult (type : ObservationType) (current : ObservedValue)
    (raw : Option Json) : (revisedResult type current raw).Composed := by
  cases raw with
  | none => exact .pure current
  | some raw => exact composed_ofExcept _

theorem composed_reviseObservation (id : EntityId) (draft : ObservationDraft) :
    (reviseObservation id draft).Composed := by
  unfold reviseObservation
  refine (composed_fetch _ _).bind fun _ => (composed_refuseBodies _ _).bind fun _ =>
    (composed_keeps _ _ _).bind fun _ => (composed_fetch _ _).bind fun _ => ?_
  refine (composed_refocused _ _ _).bind fun placed =>
    (composed_revisedResult _ _ _).bind fun _ => ?_
  exact (Composed.save _ _).bind fun _ => composed_observationEdited _ _

/-! Removing. -/

theorem composed_removeDatasets (ids : List EntityId) : (removeDatasets ids).Composed := by
  unfold removeDatasets
  apply Composed.bind
  · exact composed_forM fun id => (composed_fetch _ _).bind fun _ => .save _ _
  intro _
  apply (composed_idsWhere _ _).bind
  intro observations
  apply Composed.bind
  · exact composed_forM fun id => (Composed.delete _ _).bind fun _ => .pure ()
  intro _
  exact composed_forM fun id => (Composed.delete _ _).bind fun _ => .pure ()

theorem composed_removeObservation (id : EntityId) : (removeObservation id).Composed :=
  (Composed.delete _ _).bind fun _ => (composed_summarizeDataset _).bind fun _ =>
    composed_summarizeDatastream _

theorem composed_removeDatastream (id : EntityId) : (removeDatastream id).Composed :=
  (composed_existing _ _).bind fun _ => (composed_idsWhere _ _).bind fun _ =>
    (composed_removeDatasets _).bind fun _ => (Composed.delete _ _).bind fun _ => .pure ()

theorem composed_removeFeature (id : EntityId) : (removeFeature id).Composed :=
  (composed_existing _ _).bind fun _ => Composed.tables.bind fun _ =>
    (composed_removeDatasets _).bind fun _ => (Composed.delete _ _).bind fun _ =>
    composed_forM fun datastream => composed_summarizeDatastream datastream

theorem composed_removeHistoricalLocation (id : EntityId) :
    (removeHistoricalLocation id).Composed := by
  unfold removeHistoricalLocation
  apply (Composed.delete _ _).bind
  intro historical
  apply composed_forM
  intro location
  apply (composed_find? _ _).bind
  intro found
  cases found with
  | none => exact .pure ()
  | some location => exact .save _ _

theorem composed_removeThing (id : EntityId) : (removeThing id).Composed := by
  unfold removeThing
  refine (composed_existing _ _).bind fun _ => (composed_idsWhere _ _).bind fun datastreams => ?_
  refine (composed_forM fun id => composed_removeDatastream id).bind fun _ => ?_
  refine (composed_idsWhere _ _).bind fun historicals => ?_
  refine (composed_forM fun id => composed_removeHistoricalLocation id).bind fun _ => ?_
  exact (Composed.delete _ _).bind fun _ => .pure ()

theorem composed_removeSensor (id : EntityId) : (removeSensor id).Composed :=
  (composed_existing _ _).bind fun _ => (composed_idsWhere _ _).bind fun _ =>
    (composed_forM fun id => composed_removeDatastream id).bind fun _ =>
    (Composed.delete _ _).bind fun _ => .pure ()

theorem composed_removeObservedProperty (id : EntityId) : (removeObservedProperty id).Composed :=
  (composed_existing _ _).bind fun _ => (composed_idsWhere _ _).bind fun _ =>
    (composed_forM fun id => composed_removeDatastream id).bind fun _ =>
    (Composed.delete _ _).bind fun _ => .pure ()

theorem composed_removeLocation (id : EntityId) : (removeLocation id).Composed := by
  unfold removeLocation
  refine (Composed.delete _ _).bind fun location => (composed_idsWhere _ _).bind fun things => ?_
  apply Composed.bind
  · exact composed_forM fun id => (composed_fetch _ _).bind fun _ => .save _ _
  intro _
  apply composed_forM
  intro historical
  apply (composed_find? _ _).bind
  intro found
  cases found with
  | none => exact .pure ()
  | some historical =>
    exact composed_ite ((Composed.delete _ _).bind fun _ => .pure ()) (.save _ _)

theorem composed_remove (kind : EntityKind) (id : EntityId) : (remove kind id).Composed := by
  cases kind with
  | thing => exact composed_removeThing id
  | location => exact composed_removeLocation id
  | historicalLocation => exact composed_removeHistoricalLocation id
  | sensor => exact composed_removeSensor id
  | observedProperty => exact composed_removeObservedProperty id
  | datastream => exact composed_removeDatastream id
  | featureOfInterest => exact composed_removeFeature id
  | observation => exact composed_removeObservation id
  | dataset => exact .throw _
  | unitOfMeasurement => exact .throw _
  | format => exact .throw _

/-! Requests. -/

theorem composed_draft (kind : EntityKind) (read? : Json → Option α) (body : Json) :
    (draft kind read? body).Composed := by
  unfold draft
  split
  next draft _ => exact .pure draft
  next => exact .throw _

theorem composed_create (kind : EntityKind) (body : Json) : (create kind body).Composed := by
  cases kind with
  | thing => exact (composed_draft _ _ _).bind fun _ => composed_createThing _
  | location => exact (composed_draft _ _ _).bind fun _ => composed_createLocation _
  | historicalLocation => exact (composed_draft _ _ _).bind fun _ => composed_createHistory _
  | sensor => exact (composed_draft _ _ _).bind fun _ => composed_createSensor _
  | observedProperty => exact (composed_draft _ _ _).bind fun _ => composed_createObservedProperty _
  | datastream => exact (composed_draft _ _ _).bind fun _ => composed_createDatastream _
  | featureOfInterest => exact (composed_draft _ _ _).bind fun _ => composed_createFeature _
  | observation => exact (composed_draft _ _ _).bind fun _ => composed_createObservation _
  | dataset => exact .throw _
  | unitOfMeasurement => exact .throw _
  | format => exact .throw _

theorem composed_revise (kind : EntityKind) (id : EntityId) (body : Json) :
    (revise kind id body).Composed := by
  cases kind with
  | thing => exact (composed_draft _ _ _).bind fun _ => composed_reviseThing _ _
  | location => exact (composed_draft _ _ _).bind fun _ => composed_reviseLocation _ _
  | historicalLocation =>
    exact (composed_draft _ _ _).bind fun _ => composed_reviseHistoricalLocation _ _
  | sensor => exact (composed_draft _ _ _).bind fun _ => composed_reviseSensor _ _
  | observedProperty =>
    exact (composed_draft _ _ _).bind fun _ => composed_reviseObservedProperty _ _
  | datastream => exact (composed_draft _ _ _).bind fun _ => composed_reviseDatastream _ _
  | featureOfInterest => exact (composed_draft _ _ _).bind fun _ => composed_reviseFeature _ _
  | observation => exact (composed_draft _ _ _).bind fun _ => composed_reviseObservation _ _
  | dataset => exact .throw _
  | unitOfMeasurement => exact .throw _
  | format => exact .throw _

theorem composed_replace (kind : EntityKind) (id : EntityId) (body : Json) :
    (replace kind id body).Composed :=
  Composed.bind (composed_ite (.pure ()) (.throw _)) fun _ =>
    (composed_existing _ _).bind fun _ =>
    Composed.bind (composed_ite (.pure ()) (.throw _)) fun _ => .throw _

theorem composed_ofRequest (request : ChangeRequest) : (ofRequest request).Composed := by
  cases request with
  | create kind body => exact (composed_create kind body).bind fun _ => .pure _
  | revise kind id body => exact (composed_revise kind id body).bind fun _ => .pure none
  | replace kind id body => exact (composed_replace kind id body).bind fun _ => .pure none
  | remove kind id => exact (composed_remove kind id).bind fun _ => .pure none

end SensorThings.Change
