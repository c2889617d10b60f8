import SensorThings.Proofs.Change.Reachable
import SensorThings.Proofs.Change.Storing
import SensorThings.Proofs.Change.Surviving

/-!
Entities that reachable stores hold. Whatever is made from a draft that was sent, revised by one or
removed, documents can hold all that stays; so they can hold all that requests ever lead to.
-/
namespace SensorThings

namespace Change

/-! Making drafts, by recursion on the draft. -/

mutual

theorem stores_createThing :
    (link : Link ThingDraft) → SentLink ThingDraft.ofJson? link → (createThing link).Stores
  | .reference id, _ => by
    unfold createThing
    exact preserves_existing .thing id
  | .body draft, sent => by
    unfold createThing
    exact stores_insertThing draft (sent draft rfl)

theorem stores_insertThing :
    (draft : ThingDraft) → Sent ThingDraft.ofJson? draft → (insertThing draft).Stores
  | ⟨_, _, _, _, locations, datastreams, histories⟩, sent => by
    obtain ⟨free, sentLocations, sentDatastreams, sentHistories⟩ := sent.thing
    unfold insertThing
    refine (stores_addThing _ _ _ free).bind fun id _ => ?_
    refine (stores_createListedLocations locations sentLocations).bind fun places _ => ?_
    refine (stores_settleThing id places).bind fun _ _ => ?_
    refine (stores_attachListedDatastreams _ datastreams sentDatastreams).bind fun _ _ => ?_
    exact (stores_attachListedHistory _ histories sentHistories).bind fun _ _ =>
      stores_pure _

theorem stores_ownerThing (kind : EntityKind) :
    (given : Option EntityId) → (link : Option (Link ThingDraft)) →
      (∀ given, link = some given → SentLink ThingDraft.ofJson? given) →
      (ownerThing kind given link).Stores
  | some id, link, _ => by
    unfold ownerThing
    exact stores_pure _
  | none, some link, sent => by
    unfold ownerThing
    exact stores_createThing link (sent link rfl)
  | none, none, _ => by
    unfold ownerThing
    exact preserves_throw _

theorem stores_createThingsAt (location : EntityId) :
    (links : List (Link ThingDraft)) → (∀ link ∈ links, SentLink ThingDraft.ofJson? link) →
      (createThingsAt location links).Stores
  | [], _ => by
    unfold createThingsAt
    exact stores_pure _
  | link :: rest, sent => by
    rw [List.forall_mem_cons] at sent
    unfold createThingsAt
    refine (stores_createThing link sent.1).bind fun thing _ => ?_
    exact (stores_moveThing _ _).bind fun _ _ => stores_createThingsAt location rest sent.2

theorem stores_createListedThingsAt (location : EntityId) :
    (links : Option (List (Link ThingDraft))) → SentLinks ThingDraft.ofJson? links →
      (createListedThingsAt location links).Stores
  | none, _ => by
    unfold createListedThingsAt
    exact stores_pure _
  | some links, sent => by
    unfold createListedThingsAt
    exact stores_createThingsAt location links (sent links rfl)

theorem stores_createLocation :
    (link : Link LocationDraft) → SentLink LocationDraft.ofJson? link →
      (createLocation link).Stores
  | .reference id, _ => by
    unfold createLocation
    exact preserves_existing .location id
  | .body draft, sent => by
    unfold createLocation
    exact stores_insertLocation draft (sent draft rfl)

theorem stores_createLocations :
    (links : List (Link LocationDraft)) → (∀ link ∈ links, SentLink LocationDraft.ofJson? link) →
      (createLocations links).Stores
  | [], _ => by
    unfold createLocations
    exact stores_pure _
  | link :: rest, sent => by
    rw [List.forall_mem_cons] at sent
    unfold createLocations
    refine (stores_createLocation link sent.1).bind fun _ _ => ?_
    exact (stores_createLocations rest sent.2).bind fun _ _ => stores_pure _

theorem stores_createListedLocations :
    (links : Option (List (Link LocationDraft))) → SentLinks LocationDraft.ofJson? links →
      (createListedLocations links).Stores
  | none, _ => by
    unfold createListedLocations
    exact stores_pure _
  | some links, sent => by
    unfold createListedLocations
    exact stores_createLocations links (sent links rfl)

theorem stores_insertLocation :
    (draft : LocationDraft) → Sent LocationDraft.ofJson? draft → (insertLocation draft).Stores
  | ⟨_, _, _, _, _, _, things, histories⟩, sent => by
    obtain ⟨free, proper, sentThings, sentHistories⟩ := sent.location
    unfold insertLocation
    refine (stores_addLocation _ _ _ _ proper free).bind fun id _ => ?_
    refine (stores_createListedThingsAt id things sentThings).bind fun _ _ => ?_
    exact (stores_attachListedHistory _ histories sentHistories).bind fun _ _ =>
      stores_pure _

theorem stores_attachHistory (owner : HistoryOwner) :
    (links : List (Link HistoricalLocationDraft)) →
      (∀ link ∈ links, SentLink HistoricalLocationDraft.ofJson? link) →
      (attachHistory owner links).Stores
  | [], _ => by
    unfold attachHistory
    exact stores_pure _
  | .reference id :: rest, sent => by
    rw [List.forall_mem_cons] at sent
    unfold attachHistory
    exact (stores_linkHistory id owner).bind fun _ _ => stores_attachHistory owner rest sent.2
  | .body draft :: rest, sent => by
    rw [List.forall_mem_cons] at sent
    unfold attachHistory
    exact (stores_insertHistory (some owner) draft (sent.1 draft rfl)).bind fun _ _ =>
      stores_attachHistory owner rest sent.2

theorem stores_attachListedHistory (owner : HistoryOwner) :
    (links : Option (List (Link HistoricalLocationDraft))) →
      SentLinks HistoricalLocationDraft.ofJson? links → (attachListedHistory owner links).Stores
  | none, _ => by
    unfold attachListedHistory
    exact stores_pure _
  | some links, sent => by
    unfold attachListedHistory
    exact stores_attachHistory owner links (sent links rfl)

theorem stores_createHistory :
    (link : Link HistoricalLocationDraft) → SentLink HistoricalLocationDraft.ofJson? link →
      (createHistory link).Stores
  | .reference id, _ => by
    unfold createHistory
    exact preserves_existing .historicalLocation id
  | .body draft, sent => by
    unfold createHistory
    exact stores_insertHistory none draft (sent draft rfl)

theorem stores_insertHistory (owner : Option HistoryOwner) :
    (draft : HistoricalLocationDraft) → Sent HistoricalLocationDraft.ofJson? draft →
      (insertHistory owner draft).Stores
  | ⟨_, _, thing, locations⟩, sent => by
    obtain ⟨sentThing, sentLocations⟩ := sent.historicalLocation
    unfold insertHistory
    refine (preserves_member _ _ _).bind fun time _ => ?_
    refine (preserves_requireThat _ _ _).bind fun _ _ =>
      (preserves_requireThat _ _ _).bind fun _ _ => ?_
    refine (preserves_claim _ _).bind fun id _ => ?_
    refine (stores_ownerThing _ _ thing sentThing).bind fun thing _ => ?_
    refine (stores_createListedLocations locations sentLocations).bind fun places _ => ?_
    exact (stores_record _).bind fun _ _ => stores_pure _

theorem stores_createSensor :
    (link : Link SensorDraft) → SentLink SensorDraft.ofJson? link → (createSensor link).Stores
  | .reference id, _ => by
    unfold createSensor
    exact preserves_existing .sensor id
  | .body draft, sent => by
    unfold createSensor
    exact stores_insertSensor draft (sent draft rfl)

theorem stores_insertSensor :
    (draft : SensorDraft) → Sent SensorDraft.ofJson? draft → (insertSensor draft).Stores
  | ⟨_, _, _, _, _, _, datastreams⟩, sent => by
    obtain ⟨free, sentDatastreams⟩ := sent.sensor
    unfold insertSensor
    refine (stores_addSensor _ _ _ _ _ free).bind fun id _ => ?_
    exact (stores_attachListedDatastreams _ datastreams sentDatastreams).bind fun _ _ =>
      stores_pure _

theorem stores_ownerSensor :
    (given : Option EntityId) → (link : Option (Link SensorDraft)) →
      (∀ given, link = some given → SentLink SensorDraft.ofJson? given) →
      (ownerSensor given link).Stores
  | some id, link, _ => by
    unfold ownerSensor
    exact stores_pure _
  | none, some link, sent => by
    unfold ownerSensor
    exact stores_createSensor link (sent link rfl)
  | none, none, _ => by
    unfold ownerSensor
    exact preserves_throw _

theorem stores_createObservedProperty :
    (link : Link ObservedPropertyDraft) → SentLink ObservedPropertyDraft.ofJson? link →
      (createObservedProperty link).Stores
  | .reference id, _ => by
    unfold createObservedProperty
    exact preserves_existing .observedProperty id
  | .body draft, sent => by
    unfold createObservedProperty
    exact stores_insertObservedProperty draft (sent draft rfl)

theorem stores_insertObservedProperty :
    (draft : ObservedPropertyDraft) → Sent ObservedPropertyDraft.ofJson? draft →
      (insertObservedProperty draft).Stores
  | ⟨_, _, _, _, _, datastreams⟩, sent => by
    obtain ⟨free, sentDatastreams⟩ := sent.observedProperty
    unfold insertObservedProperty
    refine (stores_addObservedProperty _ _ _ _ free).bind fun id _ => ?_
    exact (stores_attachListedDatastreams _ datastreams sentDatastreams).bind fun _ _ =>
      stores_pure _

theorem stores_ownerObservedProperty :
    (given : Option EntityId) → (link : Option (Link ObservedPropertyDraft)) →
      (∀ given, link = some given → SentLink ObservedPropertyDraft.ofJson? given) →
      (ownerObservedProperty given link).Stores
  | some id, link, _ => by
    unfold ownerObservedProperty
    exact stores_pure _
  | none, some link, sent => by
    unfold ownerObservedProperty
    exact stores_createObservedProperty link (sent link rfl)
  | none, none, _ => by
    unfold ownerObservedProperty
    exact preserves_throw _

theorem stores_attachDatastreams (owner : DatastreamOwner) :
    (links : List (Link DatastreamDraft)) →
      (∀ link ∈ links, SentLink DatastreamDraft.ofJson? link) →
      (attachDatastreams owner links).Stores
  | [], _ => by
    unfold attachDatastreams
    exact stores_pure _
  | .reference id :: rest, sent => by
    rw [List.forall_mem_cons] at sent
    unfold attachDatastreams
    exact (stores_adoptDatastream owner id).bind fun _ _ =>
      stores_attachDatastreams owner rest sent.2
  | .body draft :: rest, sent => by
    rw [List.forall_mem_cons] at sent
    unfold attachDatastreams
    exact (stores_insertDatastream (some owner) draft (sent.1 draft rfl)).bind fun _ _ =>
      stores_attachDatastreams owner rest sent.2

theorem stores_attachListedDatastreams (owner : DatastreamOwner) :
    (links : Option (List (Link DatastreamDraft))) → SentLinks DatastreamDraft.ofJson? links →
      (attachListedDatastreams owner links).Stores
  | none, _ => by
    unfold attachListedDatastreams
    exact stores_pure _
  | some links, sent => by
    unfold attachListedDatastreams
    exact stores_attachDatastreams owner links (sent links rfl)

theorem stores_createDatastream :
    (link : Link DatastreamDraft) → SentLink DatastreamDraft.ofJson? link →
      (createDatastream link).Stores
  | .reference id, _ => by
    unfold createDatastream
    exact preserves_existing .datastream id
  | .body draft, sent => by
    unfold createDatastream
    exact stores_insertDatastream none draft (sent draft rfl)

theorem stores_insertDatastream (owner : Option DatastreamOwner) :
    (draft : DatastreamDraft) → Sent DatastreamDraft.ofJson? draft →
      (insertDatastream owner draft).Stores
  | ⟨_, _, _, _, _, _, thing, sensor, observedProperty, observations⟩, sent => by
    obtain ⟨free, sentThing, sentSensor, sentProperty, sentObservations⟩ := sent.datastream
    unfold insertDatastream
    refine (preserves_requireThat _ _ _).bind fun _ _ =>
      (preserves_requireThat _ _ _).bind fun _ _ =>
      (preserves_requireThat _ _ _).bind fun _ _ => ?_
    refine (preserves_member _ _ _).bind fun name _ =>
      (preserves_member _ _ _).bind fun description _ =>
      (preserves_member _ _ _).bind fun unit _ => (preserves_member _ _ _).bind fun uri _ => ?_
    refine Preserves.bind (preserves_ofExcept fun _ _ => trivial) fun observationType _ =>
      (preserves_claim _ _).bind fun id _ => ?_
    refine (stores_ownerThing _ _ thing sentThing).bind fun thing _ => ?_
    refine (stores_ownerSensor _ sensor sentSensor).bind fun sensor _ => ?_
    refine (stores_ownerObservedProperty _ observedProperty sentProperty).bind
      fun observedProperty _ => ?_
    refine (stores_addDatastream _ _ _ _ _ free _ _ _).bind fun _ _ => ?_
    exact (stores_attachListedObservations _ observations sentObservations).bind fun _ _ =>
      stores_pure _

theorem stores_ownerDatastream :
    (given : Option EntityId) → (link : Option (Link DatastreamDraft)) →
      (∀ given, link = some given → SentLink DatastreamDraft.ofJson? given) →
      (ownerDatastream given link).Stores
  | some id, link, _ => by
    unfold ownerDatastream
    exact stores_pure _
  | none, some link, sent => by
    unfold ownerDatastream
    exact stores_createDatastream link (sent link rfl)
  | none, none, _ => by
    unfold ownerDatastream
    exact preserves_throw _

theorem stores_attachObservations (owner : ObservationOwner) :
    (links : List (Link ObservationDraft)) →
      (∀ link ∈ links, SentLink ObservationDraft.ofJson? link) →
      (attachObservations owner links).Stores
  | [], _ => by
    unfold attachObservations
    exact stores_pure _
  | .reference id :: rest, _ => by
    unfold attachObservations
    exact preserves_throw _
  | .body draft :: rest, sent => by
    rw [List.forall_mem_cons] at sent
    unfold attachObservations
    exact (stores_insertObservation (some owner) draft (sent.1 draft rfl)).bind fun _ _ =>
      stores_attachObservations owner rest sent.2

theorem stores_attachListedObservations (owner : ObservationOwner) :
    (links : Option (List (Link ObservationDraft))) → SentLinks ObservationDraft.ofJson? links →
      (attachListedObservations owner links).Stores
  | none, _ => by
    unfold attachListedObservations
    exact stores_pure _
  | some links, sent => by
    unfold attachListedObservations
    exact stores_attachObservations owner links (sent links rfl)

theorem stores_createFeature :
    (link : Link FeatureDraft) → SentLink FeatureDraft.ofJson? link → (createFeature link).Stores
  | .reference id, _ => by
    unfold createFeature
    exact preserves_existing .featureOfInterest id
  | .body draft, sent => by
    unfold createFeature
    exact stores_insertFeature draft (sent draft rfl)

theorem stores_insertFeature :
    (draft : FeatureDraft) → Sent FeatureDraft.ofJson? draft → (insertFeature draft).Stores
  | ⟨_, _, _, _, _, _, observations⟩, sent => by
    obtain ⟨free, proper, sentObservations⟩ := sent.feature
    unfold insertFeature
    refine (stores_addFeature _ _ _ _ proper free).bind fun id _ => ?_
    exact (stores_attachListedObservations _ observations sentObservations).bind fun _ _ =>
      stores_pure _

theorem stores_ownerFeature (thing : EntityId) :
    (given : Option EntityId) → (link : Option (Link FeatureDraft)) →
      (∀ given, link = some given → SentLink FeatureDraft.ofJson? given) →
      (ownerFeature thing given link).Stores
  | some id, link, _ => by
    unfold ownerFeature
    exact stores_pure _
  | none, some link, sent => by
    unfold ownerFeature
    exact stores_createFeature link (sent link rfl)
  | none, none, _ => by
    unfold ownerFeature
    exact stores_derivedFeature thing

theorem stores_createObservation :
    (link : Link ObservationDraft) → SentLink ObservationDraft.ofJson? link →
      (createObservation link).Stores
  | .reference id, _ => by
    unfold createObservation
    exact preserves_existing .observation id
  | .body draft, sent => by
    unfold createObservation
    exact stores_insertObservation none draft (sent draft rfl)

theorem stores_insertObservation (owner : Option ObservationOwner) :
    (draft : ObservationDraft) → Sent ObservationDraft.ofJson? draft →
      (insertObservation owner draft).Stores
  | ⟨_, _, _, _, _, given, datastream, feature⟩, sent => by
    obtain ⟨free, fits, sentDatastream, sentFeature⟩ := sent.observation
    unfold insertObservation
    refine (preserves_requireThat _ _ _).bind fun _ _ => ?_
    refine (preserves_require fits).bind fun raw rawFits => ?_
    refine (preserves_claim _ _).bind fun id _ => ?_
    refine (stores_ownerDatastream _ datastream sentDatastream).bind fun datastream _ =>
      (stores_fetch _ _).bind fun stream _ => ?_
    refine (preserves_ofExcept fun value read =>
      ObservationType.isStorable_of_result read rawFits).bind fun result isStorable => ?_
    refine (stores_ownerFeature _ _ feature sentFeature).bind fun feature _ => ?_
    exact (stores_addObservation _ _ _ _ free isStorable _ _).bind fun _ _ =>
      stores_pure _

end

/-! Revising. -/

variable {α : Type}

theorem stores_refuseBodies (kind : EntityKind) (hasBodies : Bool) :
    (refuseBodies kind hasBodies).Stores :=
  preserves_ite (preserves_throw _) (stores_pure _)

theorem stores_refuse (relation : FixedRelation) (given : Bool) : (refuse relation given).Stores :=
  preserves_ite (preserves_throw _) (stores_pure _)

theorem stores_keeps (relation : FixedRelation) (current : EntityId) (link : Option (Link α)) :
    (keeps relation current link).Stores := by
  cases link with
  | none => exact stores_pure _
  | some link => cases link <;> exact stores_refuse _ _

theorem free_or {given current : Option Json} (sent : given ≠ some .null)
    (kept : current ≠ some .null) : given.or current ≠ some .null := by
  cases given with
  | none => exact kept
  | some value => exact sent

theorem proper_getD {given : Option SentGeometry} {current : Geometry}
    (sent : ∀ geometry, given = some geometry → geometry.geometry.IsProper)
    (kept : current.IsProper) : ((given.map SentGeometry.geometry).getD current).IsProper := by
  cases given with
  | none => exact kept
  | some geometry => exact sent geometry rfl

theorem stores_reviseThing (id : EntityId) {draft : ThingDraft}
    (sent : Sent ThingDraft.ofJson? draft) : (reviseThing id draft).Stores := by
  unfold reviseThing
  refine (stores_fetch _ _).bind fun thing kept => (stores_refuseBodies _ _).bind fun _ _ =>
    (stores_refuse _ _).bind fun _ _ => ?_
  refine Preserves.bind (stores_save .thing (free_or sent.thing.1 kept)) fun _ _ => ?_
  cases draft.locations with
  | none => exact stores_pure _
  | some links =>
    exact (preserves_mapM fun _ _ => preserves_existing _ _).bind fun _ _ => stores_moveThing _ _

theorem stores_reviseLocation (id : EntityId) {draft : LocationDraft}
    (sent : Sent LocationDraft.ofJson? draft) : (reviseLocation id draft).Stores :=
  (stores_fetch _ _).bind fun _ kept => (stores_refuseBodies _ _).bind fun _ _ =>
    (stores_refuse _ _).bind fun _ _ => stores_save .location
      ⟨free_or sent.location.1 kept.1, proper_getD sent.location.2.1 kept.2⟩

theorem stores_reviseHistoricalLocation (id : EntityId) (draft : HistoricalLocationDraft) :
    (reviseHistoricalLocation id draft).Stores :=
  (stores_fetch _ _).bind fun _ _ => (stores_refuseBodies _ _).bind fun _ _ =>
    (stores_refuse _ _).bind fun _ _ => stores_save .historicalLocation trivial

theorem stores_reviseSensor (id : EntityId) {draft : SensorDraft}
    (sent : Sent SensorDraft.ofJson? draft) : (reviseSensor id draft).Stores :=
  (stores_fetch _ _).bind fun _ kept => (stores_refuseBodies _ _).bind fun _ _ =>
    (stores_refuse _ _).bind fun _ _ => stores_save .sensor (free_or sent.sensor.1 kept)

theorem stores_reviseObservedProperty (id : EntityId) {draft : ObservedPropertyDraft}
    (sent : Sent ObservedPropertyDraft.ofJson? draft) : (reviseObservedProperty id draft).Stores :=
  (stores_fetch _ _).bind fun _ kept => (stores_refuseBodies _ _).bind fun _ _ =>
    (stores_refuse _ _).bind fun _ _ =>
    stores_save .observedProperty (free_or sent.observedProperty.1 kept)

theorem stores_refuseObserved (datastream : EntityId) : (refuseObserved datastream).Stores :=
  preserves_tables.bind fun _ _ => preserves_ite (preserves_throw _) (stores_pure _)

theorem stores_retyped {datastream : Datastream} (free : datastream.properties ≠ some .null)
    (uri : Option String) : (retyped datastream uri).Preserves Tables.Storable
      fun revised => revised.properties ≠ some .null := by
  cases uri with
  | none => exact preserves_pure free
  | some uri =>
    refine Preserves.bind (preserves_ofExcept fun _ _ => trivial) fun type _ => ?_
    refine preserves_ite (preserves_pure free) ?_
    exact (stores_refuseObserved _).bind fun _ _ => (stores_formatFor type).bind fun _ _ =>
      preserves_pure free

theorem stores_revisedUnit (current : EntityId) (draft : Option UnitDraft) :
    (revisedUnit current draft).Stores := by
  cases draft with
  | none => exact stores_pure _
  | some draft => exact stores_unitFor draft

theorem stores_reviseDatastream (id : EntityId) {draft : DatastreamDraft}
    (sent : Sent DatastreamDraft.ofJson? draft) : (reviseDatastream id draft).Stores := by
  unfold reviseDatastream
  refine (stores_fetch _ _).bind fun _ kept => (stores_refuseBodies _ _).bind fun _ _ => ?_
  refine (stores_keeps _ _ _).bind fun _ _ => (stores_keeps _ _ _).bind fun _ _ =>
    (stores_keeps _ _ _).bind fun _ _ => (stores_refuse _ _).bind fun _ _ => ?_
  refine (stores_revisedUnit _ _).bind fun _ _ => ?_
  exact Preserves.bind (stores_retyped (free_or sent.datastream.1 kept) _) fun _ free =>
    stores_save .datastream free

theorem stores_reviseFeature (id : EntityId) {draft : FeatureDraft}
    (sent : Sent FeatureDraft.ofJson? draft) : (reviseFeature id draft).Stores :=
  (stores_fetch _ _).bind fun _ kept => (stores_refuseBodies _ _).bind fun _ _ =>
    (stores_refuse _ _).bind fun _ _ =>
    stores_save .featureOfInterest
      ⟨free_or sent.feature.1 kept.1, proper_getD sent.feature.2.1 kept.2⟩

theorem stores_refocused (observation : Observation) (datastream : Datastream)
    (link : Option (Link FeatureDraft)) : (refocused observation datastream link).Stores := by
  unfold refocused
  split
  next feature =>
    apply (preserves_existing _ _).bind
    intro feature _
    apply preserves_ite (stores_pure _)
    exact (stores_datasetFor _ _).bind fun _ _ => stores_pure _
  next => exact stores_pure _

theorem stores_revisedResult (type : ObservationType) {current : ObservedValue}
    (kept : current.IsStorable) {raw : Option Json}
    (fits : ∀ given, raw = some given → given.numbersFit = true) :
    (revisedResult type current raw).Preserves Tables.Storable ObservedValue.IsStorable := by
  cases raw with
  | none => exact preserves_pure kept
  | some raw =>
    exact preserves_ofExcept fun _ read => ObservationType.isStorable_of_result read (fits raw rfl)

theorem stores_reviseObservation (id : EntityId) {draft : ObservationDraft}
    (sent : Sent ObservationDraft.ofJson? draft) : (reviseObservation id draft).Stores := by
  obtain ⟨free, fits, -⟩ := sent.observation
  unfold reviseObservation
  refine (stores_fetch _ _).bind fun observation kept => (stores_refuseBodies _ _).bind fun _ _ =>
    (stores_keeps _ _ _).bind fun _ _ => (stores_fetch _ _).bind fun datastream _ => ?_
  refine (stores_refocused _ _ _).bind fun placed _ =>
    (stores_revisedResult _ kept.2 fits).bind fun result isStorable => ?_
  exact Preserves.bind (stores_save .observation ⟨free_or free kept.1, isStorable⟩)
    fun _ _ => stores_observationEdited _ _

/-! Removing. -/

theorem storable_survivesRemoval : SurvivesRemoval Tables.Storable where
  removed _ kind id storable := storable.remove kind id
  summarizeDataset := stores_summarizeDataset
  summarizeDatastream := stores_summarizeDatastream
  diminished := by
    intro tables kind id old new storable found diminishes
    apply storable.put
    have kept := storable kind id old found
    cases kind with
    | thing =>
      obtain ⟨locations, rfl⟩ := diminishes
      exact kept
    | location =>
      obtain ⟨historicalLocations, rfl⟩ := diminishes
      exact kept
    | historicalLocation => trivial
    | dataset =>
      obtain rfl := diminishes
      exact Dataset.isStorable_of_none rfl rfl
    | _ => exact diminishes.elim

theorem stores_remove (kind : EntityKind) (id : EntityId) : (remove kind id).Stores :=
  storable_survivesRemoval.remove kind id

/-! Requests. -/

section

variable {body : Json} (fits : body.numbersFit = true)

include fits

theorem stores_draft (kind : EntityKind) (read? : Json → Option α) :
    (draft kind read? body).Preserves Tables.Storable (Sent read?) := by
  unfold draft
  split
  next draft read => exact preserves_pure ⟨body, fits, read⟩
  next => exact preserves_throw _

theorem stores_create (kind : EntityKind) : (create kind body).Stores := by
  cases kind with
  | thing =>
    exact (stores_draft fits _ _).bind fun _ sent => stores_createThing _ (sent.link _ _)
  | location =>
    exact (stores_draft fits _ _).bind fun _ sent => stores_createLocation _ (sent.link _ _)
  | historicalLocation =>
    exact (stores_draft fits _ _).bind fun _ sent => stores_createHistory _ (sent.link _ _)
  | sensor =>
    exact (stores_draft fits _ _).bind fun _ sent => stores_createSensor _ (sent.link _ _)
  | observedProperty =>
    exact (stores_draft fits _ _).bind fun _ sent => stores_createObservedProperty _ (sent.link _ _)
  | datastream =>
    exact (stores_draft fits _ _).bind fun _ sent => stores_createDatastream _ (sent.link _ _)
  | featureOfInterest =>
    exact (stores_draft fits _ _).bind fun _ sent => stores_createFeature _ (sent.link _ _)
  | observation =>
    exact (stores_draft fits _ _).bind fun _ sent => stores_createObservation _ (sent.link _ _)
  | dataset => exact preserves_throw _
  | unitOfMeasurement => exact preserves_throw _
  | format => exact preserves_throw _

theorem stores_revise (kind : EntityKind) (id : EntityId) : (revise kind id body).Stores := by
  cases kind with
  | thing => exact (stores_draft fits _ _).bind fun _ sent => stores_reviseThing id sent
  | location => exact (stores_draft fits _ _).bind fun _ sent => stores_reviseLocation id sent
  | historicalLocation =>
    exact (stores_draft fits _ _).bind fun _ _ => stores_reviseHistoricalLocation id _
  | sensor => exact (stores_draft fits _ _).bind fun _ sent => stores_reviseSensor id sent
  | observedProperty =>
    exact (stores_draft fits _ _).bind fun _ sent => stores_reviseObservedProperty id sent
  | datastream => exact (stores_draft fits _ _).bind fun _ sent => stores_reviseDatastream id sent
  | featureOfInterest =>
    exact (stores_draft fits _ _).bind fun _ sent => stores_reviseFeature id sent
  | observation => exact (stores_draft fits _ _).bind fun _ sent => stores_reviseObservation id sent
  | dataset => exact preserves_throw _
  | unitOfMeasurement => exact preserves_throw _
  | format => exact preserves_throw _

end

theorem stores_replace (kind : EntityKind) (id : EntityId) (body : Json) :
    (replace kind id body).Stores :=
  Preserves.bind (preserves_ite (stores_pure _) (preserves_throw _)) fun _ _ =>
    (preserves_existing _ _).bind fun _ _ =>
    Preserves.bind (preserves_ite (stores_pure _) (preserves_throw _)) fun _ _ =>
    preserves_throw _

end Change

/-- The numbers in the body of a request are those that JSON bodies have. -/
def ChangeRequest.numbersFit : ChangeRequest → Bool
  | create _ body => body.numbersFit
  | revise _ _ body => body.numbersFit
  | replace _ _ body => body.numbersFit
  | remove _ _ => true

theorem Change.stores_ofRequest {request : ChangeRequest} (fits : request.numbersFit = true) :
    (ofRequest request).Stores := by
  cases request with
  | create kind body =>
    exact (stores_create fits kind).bind fun _ _ => stores_pure _
  | revise kind id body =>
    exact (stores_revise fits kind id).bind fun _ _ => stores_pure _
  | replace kind id body =>
    exact (stores_replace kind id body).bind fun _ _ => stores_pure _
  | remove kind id => exact (stores_remove kind id).bind fun _ _ => stores_pure _

theorem Store.Reachable.storable {allowed : ChangeRequest → Prop} {store : Store}
    (reachable : store.Reachable allowed)
    (numbersFit : ∀ request, allowed request → request.numbersFit = true) :
    store.tables.Storable :=
  reachable.induction_of_returns Tables.storable_empty
    fun _ request _ _ _ _ isAllowed _ storable ran =>
      (Change.stores_ofRequest (numbersFit request isAllowed) ran storable).1

end SensorThings
