import SensorThings.Proofs.Change.Nesting

/-!
Making drafts within a licence. Where all that stands in a draft is covered by a licence, and what
the licence allows maintains a property, so does making the draft.
-/
namespace SensorThings

namespace Change

variable {environment : Environment} {licence : Licence} {holds : Tables → Prop}

/-! By recursion on the draft. -/

mutual

theorem maintains_createThing (survives : SurvivesCreation environment licence holds) :
    (link : Link ThingDraft) → licence.CoversAll .thing [link] →
      (createThing link).Maintains environment holds fun id =>
        (∀ other, link = .reference other → licence.writes ⟨.thing, other⟩) →
          licence.writes ⟨.thing, id⟩
  | .reference id, _ => by
    unfold createThing
    intro before value after ran kept
    obtain ⟨-, rfl, rfl⟩ := returns_existing.1 ran
    exact ⟨kept, fun licensed => licensed id rfl⟩
  | .body draft, covered => by
    unfold createThing
    intro before value after ran kept
    obtain ⟨keptThen, licensed⟩ :=
      maintains_insertThing survives draft (Licence.coversAll_body.1 covered) ran kept
    exact ⟨keptThen, fun _ => licensed⟩

theorem maintains_insertThing (survives : SurvivesCreation environment licence holds) :
    (draft : ThingDraft) → licence.Throughout (.thing draft) →
      (insertThing draft).Maintains environment holds fun id => licence.writes ⟨.thing, id⟩
  | ⟨_, _, _, _, locations, datastreams, histories⟩, covered => by
    obtain ⟨coveredLocations, coveredDatastreams, coveredHistories⟩ := covered.thing
    unfold insertThing
    refine (survives.addThing _ _ _ _).bind fun id licensed => ?_
    refine (maintains_createListedLocations survives locations coveredLocations).bind
      fun places _ => ?_
    refine (survives.settleThing licensed places).bind fun _ _ => ?_
    refine (maintains_attachListedDatastreams survives _ datastreams coveredDatastreams).bind
      fun _ _ => ?_
    refine (maintains_attachListedHistory survives (.thing id) histories coveredHistories ?_
      ?_).bind fun _ _ => maintains_pure licensed
    · rintro _ ⟨⟩
      exact licensed
    · exact fun _ _ => nofun

theorem maintains_ownerThing (survives : SurvivesCreation environment licence holds)
    (kind : EntityKind) :
    (given : Option EntityId) → (link : Option (Link ThingDraft)) →
      licence.CoversAll .thing link.toList →
      (ownerThing kind given link).Maintains environment holds fun id =>
        (∀ owner, given = some owner → licence.writes ⟨.thing, owner⟩) →
        (∀ other, link = some (.reference other) → licence.writes ⟨.thing, other⟩) →
          licence.writes ⟨.thing, id⟩
  | some id, link, _ => by
    unfold ownerThing
    exact maintains_pure fun owned _ => owned id rfl
  | none, some link, covered => by
    unfold ownerThing
    intro before value after ran kept
    obtain ⟨keptThen, licensed⟩ := maintains_createThing survives link covered ran kept
    exact ⟨keptThen, fun _ referred => licensed fun other same => referred other (same ▸ rfl)⟩
  | none, none, _ => by
    unfold ownerThing
    exact (preserves_throw _).maintains

theorem maintains_createThingsAt (survives : SurvivesCreation environment licence holds)
    (location : EntityId) :
    (links : List (Link ThingDraft)) → licence.CoversAll .thing links →
      (∀ id ∈ Link.references links, licence.writes ⟨.thing, id⟩) →
      (createThingsAt location links).Maintains environment holds fun _ => True
  | [], _, _ => by
    unfold createThingsAt
    exact maintains_pure trivial
  | link :: rest, covered, referred => by
    rw [Licence.coversAll_cons] at covered
    unfold createThingsAt
    refine (maintains_createThing survives link covered.1).bind fun thing licensed => ?_
    have thingLicensed : licence.writes ⟨.thing, thing⟩ := by
      refine licensed fun other same => referred other ?_
      subst same
      exact List.mem_cons_self
    have restReferred : ∀ id ∈ Link.references rest, licence.writes ⟨.thing, id⟩ := by
      intro id member
      refine referred id ?_
      cases link with
      | reference other => exact List.mem_cons_of_mem _ member
      | body draft => exact member
    exact (survives.moveThing thingLicensed _).bind fun _ _ =>
      maintains_createThingsAt survives location rest covered.2 restReferred

theorem maintains_createListedThingsAt (survives : SurvivesCreation environment licence holds)
    (location : EntityId) :
    (links : Option (List (Link ThingDraft))) → licence.CoversAll .thing (links.getD []) →
      (∀ id ∈ Link.references (links.getD []), licence.writes ⟨.thing, id⟩) →
      (createListedThingsAt location links).Maintains environment holds fun _ => True
  | none, _, _ => by
    unfold createListedThingsAt
    exact maintains_pure trivial
  | some links, covered, referred => by
    unfold createListedThingsAt
    exact maintains_createThingsAt survives location links covered referred

theorem maintains_createLocation (survives : SurvivesCreation environment licence holds) :
    (link : Link LocationDraft) → licence.CoversAll .location [link] →
      (createLocation link).Maintains environment holds fun _ => True
  | .reference id, _ => by
    unfold createLocation
    exact (preserves_existing .location id).maintains
  | .body draft, covered => by
    unfold createLocation
    exact maintains_insertLocation survives draft (Licence.coversAll_body.1 covered)

theorem maintains_createLocations (survives : SurvivesCreation environment licence holds) :
    (links : List (Link LocationDraft)) → licence.CoversAll .location links →
      (createLocations links).Maintains environment holds fun _ => True
  | [], _ => by
    unfold createLocations
    exact maintains_pure trivial
  | link :: rest, covered => by
    rw [Licence.coversAll_cons] at covered
    unfold createLocations
    refine (maintains_createLocation survives link covered.1).bind fun _ _ => ?_
    exact (maintains_createLocations survives rest covered.2).bind fun _ _ =>
      maintains_pure trivial

theorem maintains_createListedLocations (survives : SurvivesCreation environment licence holds) :
    (links : Option (List (Link LocationDraft))) → licence.CoversAll .location (links.getD []) →
      (createListedLocations links).Maintains environment holds fun _ => True
  | none, _ => by
    unfold createListedLocations
    exact maintains_pure trivial
  | some links, covered => by
    unfold createListedLocations
    exact maintains_createLocations survives links covered

theorem maintains_insertLocation (survives : SurvivesCreation environment licence holds) :
    (draft : LocationDraft) → licence.Throughout (.location draft) →
      (insertLocation draft).Maintains environment holds fun _ => True
  | ⟨_, _, _, _, _, _, things, histories⟩, covered => by
    obtain ⟨coveredThings, coveredHistories⟩ := covered.location
    obtain ⟨-, referredThings, referredRecords⟩ := covered.here
    unfold insertLocation
    refine (preserves_addLocation (survives.ignores (by decide)) _ _ _ _ _
      _).maintains.bind fun id _ => ?_
    refine (maintains_createListedThingsAt survives id things coveredThings referredThings).bind
      fun _ _ => ?_
    refine (maintains_attachListedHistory survives (.location id) histories coveredHistories
      nofun ?_).bind fun _ _ => maintains_pure trivial
    exact fun record member _ => referredRecords record member

theorem maintains_attachHistory (survives : SurvivesCreation environment licence holds)
    (owner : HistoryOwner) :
    (links : List (Link HistoricalLocationDraft)) →
      licence.CoversAll .historicalLocation links →
      (∀ id, HistoryOwner.thing? (some owner) = some id → licence.writes ⟨.thing, id⟩) →
      (∀ id ∈ Link.references links, HistoryOwner.thing? (some owner) = none →
        licence.lengthens id) →
      (attachHistory owner links).Maintains environment holds fun _ => True
  | [], _, _, _ => by
    unfold attachHistory
    exact maintains_pure trivial
  | .reference id :: rest, covered, owned, referred => by
    rw [Licence.coversAll_cons] at covered
    have restReferred : ∀ id ∈ Link.references rest, HistoryOwner.thing? (some owner) = none →
        licence.lengthens id :=
      fun other member => referred other (List.mem_cons_of_mem _ member)
    unfold attachHistory
    exact (survives.linkHistory (referred id List.mem_cons_self)).bind fun _ _ =>
      maintains_attachHistory survives owner rest covered.2 owned restReferred
  | .body draft :: rest, covered, owned, referred => by
    rw [Licence.coversAll_cons, Licence.coversAll_body] at covered
    unfold attachHistory
    exact (maintains_insertHistory survives (some owner) draft covered.1 owned).bind fun _ _ =>
      maintains_attachHistory survives owner rest covered.2 owned referred

theorem maintains_attachListedHistory (survives : SurvivesCreation environment licence holds)
    (owner : HistoryOwner) :
    (links : Option (List (Link HistoricalLocationDraft))) →
      licence.CoversAll .historicalLocation (links.getD []) →
      (∀ id, HistoryOwner.thing? (some owner) = some id → licence.writes ⟨.thing, id⟩) →
      (∀ id ∈ Link.references (links.getD []), HistoryOwner.thing? (some owner) = none →
        licence.lengthens id) →
      (attachListedHistory owner links).Maintains environment holds fun _ => True
  | none, _, _, _ => by
    unfold attachListedHistory
    exact maintains_pure trivial
  | some links, covered, owned, referred => by
    unfold attachListedHistory
    exact maintains_attachHistory survives owner links covered owned referred

theorem maintains_insertHistory (survives : SurvivesCreation environment licence holds)
    (owner : Option HistoryOwner) :
    (draft : HistoricalLocationDraft) → licence.Throughout (.historicalLocation draft) →
      (∀ id, HistoryOwner.thing? owner = some id → licence.writes ⟨.thing, id⟩) →
      (insertHistory owner draft).Maintains environment holds fun _ => True
  | ⟨_, _, thing, locations⟩, covered, owned => by
    obtain ⟨coveredThing, coveredLocations⟩ := covered.historicalLocation
    have referred : ∀ other, thing = some (.reference other) → licence.writes ⟨.thing, other⟩ := by
      rintro other rfl
      exact covered.here.things other List.mem_cons_self
    unfold insertHistory
    refine (preserves_member _ _ _).maintains.bind fun time _ => ?_
    refine (preserves_requireThat _ _ _).maintains.bind fun _ _ =>
      (preserves_requireThat _ _ _).maintains.bind fun _ _ => ?_
    refine (survives.claim _ _).bind fun id licensed => ?_
    refine (maintains_ownerThing survives _ _ thing coveredThing).bind
      fun thing thingLicensed => ?_
    refine (maintains_createListedLocations survives locations coveredLocations).bind
      fun places _ => ?_
    exact (survives.recorded _ licensed (thingLicensed owned referred)).bind fun _ _ =>
      maintains_pure trivial

theorem maintains_createSensor (survives : SurvivesCreation environment licence holds) :
    (link : Link SensorDraft) → licence.CoversAll .sensor [link] →
      (createSensor link).Maintains environment holds fun _ => True
  | .reference id, _ => by
    unfold createSensor
    exact (preserves_existing .sensor id).maintains
  | .body draft, covered => by
    unfold createSensor
    exact maintains_insertSensor survives draft (Licence.coversAll_body.1 covered)

theorem maintains_insertSensor (survives : SurvivesCreation environment licence holds) :
    (draft : SensorDraft) → licence.Throughout (.sensor draft) →
      (insertSensor draft).Maintains environment holds fun _ => True
  | ⟨_, _, _, _, _, _, datastreams⟩, covered => by
    unfold insertSensor
    refine (preserves_addSensor (survives.ignores (by decide)) _ _ _ _ _
      _).maintains.bind fun id _ => ?_
    exact (maintains_attachListedDatastreams survives _ datastreams covered.inner).bind fun _ _ =>
      maintains_pure trivial

theorem maintains_ownerSensor (survives : SurvivesCreation environment licence holds) :
    (given : Option EntityId) → (link : Option (Link SensorDraft)) →
      licence.CoversAll .sensor link.toList →
      (ownerSensor given link).Maintains environment holds fun _ => True
  | some id, link, _ => by
    unfold ownerSensor
    exact maintains_pure trivial
  | none, some link, covered => by
    unfold ownerSensor
    exact maintains_createSensor survives link covered
  | none, none, _ => by
    unfold ownerSensor
    exact (preserves_throw _).maintains

theorem maintains_createObservedProperty (survives : SurvivesCreation environment licence holds) :
    (link : Link ObservedPropertyDraft) → licence.CoversAll .observedProperty [link] →
      (createObservedProperty link).Maintains environment holds fun _ => True
  | .reference id, _ => by
    unfold createObservedProperty
    exact (preserves_existing .observedProperty id).maintains
  | .body draft, covered => by
    unfold createObservedProperty
    exact maintains_insertObservedProperty survives draft (Licence.coversAll_body.1 covered)

theorem maintains_insertObservedProperty (survives : SurvivesCreation environment licence holds) :
    (draft : ObservedPropertyDraft) → licence.Throughout (.observedProperty draft) →
      (insertObservedProperty draft).Maintains environment holds fun _ => True
  | ⟨_, _, _, _, _, datastreams⟩, covered => by
    unfold insertObservedProperty
    refine (preserves_addObservedProperty (survives.ignores (by decide)) _
      _ _ _ _).maintains.bind fun id _ => ?_
    exact (maintains_attachListedDatastreams survives _ datastreams covered.inner).bind fun _ _ =>
      maintains_pure trivial

theorem maintains_ownerObservedProperty (survives : SurvivesCreation environment licence holds) :
    (given : Option EntityId) → (link : Option (Link ObservedPropertyDraft)) →
      licence.CoversAll .observedProperty link.toList →
      (ownerObservedProperty given link).Maintains environment holds fun _ => True
  | some id, link, _ => by
    unfold ownerObservedProperty
    exact maintains_pure trivial
  | none, some link, covered => by
    unfold ownerObservedProperty
    exact maintains_createObservedProperty survives link covered
  | none, none, _ => by
    unfold ownerObservedProperty
    exact (preserves_throw _).maintains

theorem maintains_attachDatastreams (survives : SurvivesCreation environment licence holds)
    (owner : DatastreamOwner) :
    (links : List (Link DatastreamDraft)) → licence.CoversAll .datastream links →
      (attachDatastreams owner links).Maintains environment holds fun _ => True
  | [], _ => by
    unfold attachDatastreams
    exact maintains_pure trivial
  | .reference id :: rest, covered => by
    rw [Licence.coversAll_cons] at covered
    unfold attachDatastreams
    refine (preserves_adoptDatastream (survives.ignores (by decide)) owner
      id).maintains.bind fun _ _ => ?_
    exact maintains_attachDatastreams survives owner rest covered.2
  | .body draft :: rest, covered => by
    rw [Licence.coversAll_cons, Licence.coversAll_body] at covered
    unfold attachDatastreams
    exact (maintains_insertDatastream survives (some owner) draft covered.1).bind fun _ _ =>
      maintains_attachDatastreams survives owner rest covered.2

theorem maintains_attachListedDatastreams (survives : SurvivesCreation environment licence holds)
    (owner : DatastreamOwner) :
    (links : Option (List (Link DatastreamDraft))) →
      licence.CoversAll .datastream (links.getD []) →
      (attachListedDatastreams owner links).Maintains environment holds fun _ => True
  | none, _ => by
    unfold attachListedDatastreams
    exact maintains_pure trivial
  | some links, covered => by
    unfold attachListedDatastreams
    exact maintains_attachDatastreams survives owner links covered

theorem maintains_createDatastream (survives : SurvivesCreation environment licence holds) :
    (link : Link DatastreamDraft) → licence.CoversAll .datastream [link] →
      (createDatastream link).Maintains environment holds fun _ => True
  | .reference id, _ => by
    unfold createDatastream
    exact (preserves_existing .datastream id).maintains
  | .body draft, covered => by
    unfold createDatastream
    exact maintains_insertDatastream survives none draft (Licence.coversAll_body.1 covered)

theorem maintains_insertDatastream (survives : SurvivesCreation environment licence holds)
    (owner : Option DatastreamOwner) :
    (draft : DatastreamDraft) → licence.Throughout (.datastream draft) →
      (insertDatastream owner draft).Maintains environment holds fun _ => True
  | ⟨_, _, _, unit, _, _, thing, sensor, observedProperty, observations⟩, covered => by
    obtain ⟨coveredThing, coveredSensor, coveredProperty, coveredObservations⟩ :=
      covered.datastream
    unfold insertDatastream
    refine (preserves_requireThat _ _ _).maintains.bind fun _ _ =>
      (preserves_requireThat _ _ _).maintains.bind fun _ _ =>
      (preserves_requireThat _ _ _).maintains.bind fun _ _ => ?_
    refine (preserves_member _ _ _).maintains.bind fun name _ =>
      (preserves_member _ _ _).maintains.bind fun description _ =>
      (preserves_require covered.here.unit).maintains.bind fun unit licensed =>
      (preserves_member _ _ _).maintains.bind fun uri _ => ?_
    refine Maintains.bind (preserves_ofExcept fun _ _ => trivial).maintains
      fun observationType _ => (preserves_claim _ _).maintains.bind fun id _ => ?_
    refine (maintains_ownerThing survives _ _ thing coveredThing).bind fun thing _ => ?_
    refine (maintains_ownerSensor survives _ sensor coveredSensor).bind fun sensor _ => ?_
    refine (maintains_ownerObservedProperty survives _ observedProperty coveredProperty).bind
      fun observedProperty _ => ?_
    refine (survives.addDatastream licensed _ _ _ _ _ _ _ _).bind fun _ _ => ?_
    exact (maintains_attachListedObservations survives _ observations coveredObservations).bind
      fun _ _ => maintains_pure trivial

theorem maintains_ownerDatastream (survives : SurvivesCreation environment licence holds) :
    (given : Option EntityId) → (link : Option (Link DatastreamDraft)) →
      licence.CoversAll .datastream link.toList →
      (ownerDatastream given link).Maintains environment holds fun _ => True
  | some id, link, _ => by
    unfold ownerDatastream
    exact maintains_pure trivial
  | none, some link, covered => by
    unfold ownerDatastream
    exact maintains_createDatastream survives link covered
  | none, none, _ => by
    unfold ownerDatastream
    exact (preserves_throw _).maintains

theorem maintains_attachObservations (survives : SurvivesCreation environment licence holds)
    (owner : ObservationOwner) :
    (links : List (Link ObservationDraft)) → licence.CoversAll .observation links →
      (attachObservations owner links).Maintains environment holds fun _ => True
  | [], _ => by
    unfold attachObservations
    exact maintains_pure trivial
  | .reference id :: rest, _ => by
    unfold attachObservations
    exact (preserves_throw _).maintains
  | .body draft :: rest, covered => by
    rw [Licence.coversAll_cons, Licence.coversAll_body] at covered
    unfold attachObservations
    exact (maintains_insertObservation survives (some owner) draft covered.1).bind fun _ _ =>
      maintains_attachObservations survives owner rest covered.2

theorem maintains_attachListedObservations
    (survives : SurvivesCreation environment licence holds) (owner : ObservationOwner) :
    (links : Option (List (Link ObservationDraft))) →
      licence.CoversAll .observation (links.getD []) →
      (attachListedObservations owner links).Maintains environment holds fun _ => True
  | none, _ => by
    unfold attachListedObservations
    exact maintains_pure trivial
  | some links, covered => by
    unfold attachListedObservations
    exact maintains_attachObservations survives owner links covered

theorem maintains_createFeature (survives : SurvivesCreation environment licence holds) :
    (link : Link FeatureDraft) → licence.CoversAll .feature [link] →
      (createFeature link).Maintains environment holds fun _ => True
  | .reference id, _ => by
    unfold createFeature
    exact (preserves_existing .featureOfInterest id).maintains
  | .body draft, covered => by
    unfold createFeature
    exact maintains_insertFeature survives draft (Licence.coversAll_body.1 covered)

theorem maintains_insertFeature (survives : SurvivesCreation environment licence holds) :
    (draft : FeatureDraft) → licence.Throughout (.feature draft) →
      (insertFeature draft).Maintains environment holds fun _ => True
  | ⟨_, _, _, _, _, _, observations⟩, covered => by
    unfold insertFeature
    refine (preserves_addFeature (survives.ignores (by decide)) _ _ _ _ _
      _).maintains.bind fun id _ => ?_
    exact (maintains_attachListedObservations survives _ observations covered.inner).bind
      fun _ _ => maintains_pure trivial

theorem maintains_ownerFeature (survives : SurvivesCreation environment licence holds)
    (thing : EntityId) :
    (given : Option EntityId) → (link : Option (Link FeatureDraft)) →
      licence.CoversAll .feature link.toList →
      (ownerFeature thing given link).Maintains environment holds fun _ => True
  | some id, link, _ => by
    unfold ownerFeature
    exact maintains_pure trivial
  | none, some link, covered => by
    unfold ownerFeature
    exact maintains_createFeature survives link covered
  | none, none, _ => by
    unfold ownerFeature
    exact (preserves_derivedFeature (survives.ignores (by decide))
      thing).maintains

theorem maintains_insertObservation (survives : SurvivesCreation environment licence holds)
    (owner : Option ObservationOwner) :
    (draft : ObservationDraft) → licence.Throughout (.observation draft) →
      (insertObservation owner draft).Maintains environment holds fun _ => True
  | ⟨_, _, _, _, _, _, datastream, feature⟩, covered => by
    obtain ⟨coveredDatastream, coveredFeature⟩ := covered.observation
    unfold insertObservation
    refine (preserves_requireThat _ _ _).maintains.bind fun _ _ =>
      (preserves_member _ _ _).maintains.bind fun raw _ =>
      (preserves_claim _ _).maintains.bind fun id _ => ?_
    refine (maintains_ownerDatastream survives _ datastream coveredDatastream).bind
      fun datastream _ => (preserves_row _ _).maintains.bind fun stream _ => ?_
    refine Maintains.bind (preserves_ofExcept fun _ _ => trivial).maintains fun result _ => ?_
    refine (maintains_ownerFeature survives _ _ feature coveredFeature).bind fun feature _ => ?_
    exact (preserves_addObservation (survives.ignores (by decide)) (survives.ignores (by decide))
      (survives.ignores (by decide)) _ _ _ _ _ _ _ _).maintains.bind fun _ _ =>
      maintains_pure trivial

end

end Change

end SensorThings
