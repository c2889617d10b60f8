import SensorThings.Proofs.Change.Making

/-!
What drafts make, by recursion on the draft. A body is made with all that it nests, and a nested
draft leaves out the body that its owner stands for; references make nothing.
-/
namespace SensorThings

namespace Change

variable {environment : Environment}

mutual

theorem made_createThing {before after : Progress} {id : EntityId} : (link : Link ThingDraft) →
    (createThing link).Returns environment before id after →
      Made environment (.ofThing link) .thing before id after
  | .reference _, ran => by
    obtain ⟨there, rfl, rfl⟩ := returns_existing.1 ran
    exact .existing there
  | .body draft, ran => by
    unfold createThing at ran
    unfold Outline.ofThing
    exact made_insertThing draft ran

theorem made_insertThing {before after : Progress} {id : EntityId} : (draft : ThingDraft) →
    (insertThing draft).Returns environment before id after →
      Made environment (.ofThingDraft draft) .thing before id after
  | ⟨given, _, _, _, locations, datastreams, histories⟩, ran => by
    unfold insertThing at ran
    simp only [returns_bind, returns_pure] at ran
    obtain ⟨_, _, thingRan, places, _, placesRan, _, _, settleRan, _, _, streamsRan, _, _,
      historiesRan, rfl, rfl⟩ := ran
    have thing := thingRan.addThing
    obtain ⟨placesMade, placesThere, -⟩ := made_createListedLocations locations placesRan
    have settled := settleRan.settleThing placesThere
    have there := settled.contains (placesMade.contains thing.there)
    have streams := made_attachListedDatastreams (.thing _) datastreams streamsRan there
    have histories := made_attachListedHistory (.thing _) histories historiesRan
      (streams.contains there)
    unfold Outline.ofThingDraft
    rw [← Outline.named_append]
    exact thing.andThen ((placesMade.settle settled).append (streams.append histories))

theorem made_ownerThing {before after : Progress} {id : EntityId} (kind : EntityKind)
    (owner : Option Key)
    (ownerThere : HoldsOwner before.tables owner) : (link : Option (Link ThingDraft)) →
    (ownerThing kind (ownerOf .thing owner) link).Returns environment before id after →
      Made environment ((Outline.ofThing? link).unlessOwned (owner.map Key.kind == some .thing))
        .thing before id after
  | link, ran => by
    rw [← isSome_ownerOf]
    cases owned : ownerOf .thing owner with
    | some given =>
      rw [owned] at ran
      unfold ownerThing at ran
      obtain ⟨rfl, rfl⟩ := returns_pure.1 ran
      exact .existing (ownerThere.contains owned)
    | none =>
      rw [owned] at ran
      match link with
      | some link =>
        unfold ownerThing at ran
        exact made_createThing link ran
      | none =>
        unfold ownerThing at ran
        exact (returns_missing.1 ran).elim

theorem made_createThingsAt {before after : Progress} (location : EntityId) :
    (links : List (Link ThingDraft)) →
    (createThingsAt location links).Returns environment before () after →
    before.tables.contains .location location = true →
      Creation environment (.ofThings links) before after
  | [], ran, _ => by
    unfold createThingsAt at ran
    obtain ⟨-, rfl⟩ := returns_pure.1 ran
    exact .nil before
  | link :: rest, ran, there => by
    unfold createThingsAt at ran
    simp only [returns_bind] at ran
    obtain ⟨thing, _, thingRan, _, _, moveRan, restRan⟩ := ran
    have made := made_createThing link thingRan
    have place := made.creation.contains there
    have moved := moveRan.moveThing (by simp) (by simpa using place)
    have others := made_createThingsAt location rest restRan (moved.contains place)
    unfold Outline.ofThings
    exact (made.creation.settle moved).append others

theorem made_createListedThingsAt {before after : Progress} (location : EntityId) :
    (links : Option (List (Link ThingDraft))) →
    (createListedThingsAt location links).Returns environment before () after →
    before.tables.contains .location location = true →
      Creation environment (.ofListedThings links) before after
  | none, ran, _ => by
    unfold createListedThingsAt at ran
    obtain ⟨-, rfl⟩ := returns_pure.1 ran
    exact .nil before
  | some links, ran, there => by
    unfold createListedThingsAt at ran
    unfold Outline.ofListedThings
    exact made_createThingsAt location links ran there

theorem made_createLocation {before after : Progress} {id : EntityId} :
    (link : Link LocationDraft) →
    (createLocation link).Returns environment before id after →
      Made environment (.ofLocation link) .location before id after
  | .reference _, ran => by
    obtain ⟨there, rfl, rfl⟩ := returns_existing.1 ran
    exact .existing there
  | .body draft, ran => by
    unfold createLocation at ran
    unfold Outline.ofLocation
    exact made_insertLocation draft ran

theorem made_createLocations {before after : Progress} {ids : List EntityId} :
    (links : List (Link LocationDraft)) →
    (createLocations links).Returns environment before ids after →
      Creation environment (.ofLocations links) before after ∧
        (∀ id ∈ ids, after.tables.contains .location id = true) ∧
        (links.isEmpty = false → ids ≠ [])
  | [], ran => by
    unfold createLocations at ran
    obtain ⟨rfl, rfl⟩ := returns_pure.1 ran
    exact ⟨.nil before, by simp, nofun⟩
  | link :: rest, ran => by
    unfold createLocations at ran
    simp only [returns_bind, returns_pure] at ran
    obtain ⟨id, _, firstRan, ids, _, restRan, rfl, rfl⟩ := ran
    have first := made_createLocation link firstRan
    obtain ⟨others, there, -⟩ := made_createLocations rest restRan
    unfold Outline.ofLocations
    refine ⟨first.creation.append others, fun other member => ?_, nofun⟩
    rcases List.mem_cons.1 member with rfl | later
    · exact others.contains first.there
    · exact there other later

theorem made_createListedLocations {before after : Progress} {ids : List EntityId} :
    (links : Option (List (Link LocationDraft))) →
    (createListedLocations links).Returns environment before ids after →
      Creation environment (.ofListedLocations links) before after ∧
        (∀ id ∈ ids, after.tables.contains .location id = true) ∧
        (links.any (!·.isEmpty) = true → ids ≠ [])
  | none, ran => by
    unfold createListedLocations at ran
    obtain ⟨rfl, rfl⟩ := returns_pure.1 ran
    exact ⟨.nil before, by simp, nofun⟩
  | some links, ran => by
    unfold createListedLocations at ran
    obtain ⟨made, there, some⟩ := made_createLocations links ran
    unfold Outline.ofListedLocations
    exact ⟨made, there, fun listed => some (by simpa using listed)⟩

theorem made_insertLocation {before after : Progress} {id : EntityId} : (draft : LocationDraft) →
    (insertLocation draft).Returns environment before id after →
      Made environment (.ofLocationDraft draft) .location before id after
  | ⟨given, _, _, _, _, _, things, histories⟩, ran => by
    unfold insertLocation at ran
    simp only [returns_bind, returns_pure] at ran
    obtain ⟨_, _, locationRan, _, _, thingsRan, _, _, historiesRan, rfl, rfl⟩ := ran
    have location := locationRan.addLocation
    have things := made_createListedThingsAt _ things thingsRan location.there
    have histories := made_attachListedHistory (.location _) histories historiesRan
      (things.contains location.there)
    unfold Outline.ofLocationDraft
    rw [← Outline.named_append]
    exact location.andThen (things.append histories)

theorem made_attachHistory {before after : Progress} (owner : HistoryOwner) :
    (links : List (Link HistoricalLocationDraft)) →
    (attachHistory owner links).Returns environment before () after →
    before.tables.contains owner.key.kind owner.key.id = true →
      Creation environment (.ofHistories owner.key.kind links) before after
  | [], ran, _ => by
    unfold attachHistory at ran
    obtain ⟨-, rfl⟩ := returns_pure.1 ran
    exact .nil before
  | .reference id :: rest, ran, there => by
    unfold attachHistory at ran
    simp only [returns_bind] at ran
    obtain ⟨_, _, linkRan, restRan⟩ := ran
    have linked := linkRan.linkHistory
    unfold Outline.ofHistories
    exact linked.append (made_attachHistory owner rest restRan (linked.contains there))
  | .body draft :: rest, ran, there => by
    unfold attachHistory at ran
    simp only [returns_bind] at ran
    obtain ⟨_, _, firstRan, restRan⟩ := ran
    have first := made_insertHistory (some owner) draft firstRan (by rintro key ⟨⟩; exact there)
    unfold Outline.ofHistories
    exact first.creation.append
      (made_attachHistory owner rest restRan (first.creation.contains there))

theorem made_attachListedHistory {before after : Progress} (owner : HistoryOwner) :
    (links : Option (List (Link HistoricalLocationDraft))) →
    (attachListedHistory owner links).Returns environment before () after →
    before.tables.contains owner.key.kind owner.key.id = true →
      Creation environment (.ofListedHistories owner.key.kind links) before after
  | none, ran, _ => by
    unfold attachListedHistory at ran
    obtain ⟨-, rfl⟩ := returns_pure.1 ran
    exact .nil before
  | some links, ran, there => by
    unfold attachListedHistory at ran
    unfold Outline.ofListedHistories
    exact made_attachHistory owner links ran there

theorem made_createHistory {before after : Progress} {id : EntityId} :
    (link : Link HistoricalLocationDraft) →
    (createHistory link).Returns environment before id after →
      Made environment (.ofHistory link) .historicalLocation before id after
  | .reference _, ran => by
    obtain ⟨there, rfl, rfl⟩ := returns_existing.1 ran
    exact .existing there
  | .body draft, ran => by
    unfold createHistory at ran
    unfold Outline.ofHistory
    exact made_insertHistory none draft ran nofun

theorem made_insertHistory {before after : Progress} {id : EntityId}
    (owner : Option HistoryOwner) : (draft : HistoricalLocationDraft) →
    (insertHistory owner draft).Returns environment before id after →
    HoldsOwner before.tables (owner.map HistoryOwner.key) →
      Made environment (.ofHistoryDraft ((owner.map HistoryOwner.key).map Key.kind) draft)
        .historicalLocation before id after
  | ⟨given, time, thing, locations⟩, ran, ownerThere => by
    unfold insertHistory at ran
    rw [HistoryOwner.thing?_eq] at ran
    simp only [returns_bind, returns_require, returns_requireThat, returns_pure] at ran
    obtain ⟨time, _, ⟨-, rfl⟩, _, _, ⟨-, rfl⟩, _, _, ⟨somewhere, rfl⟩, _, _, claimed, thingId, _,
      thingRan, places, _, placesRan, _, _, recordRan, rfl, rfl⟩ := ran
    rw [← claimed.claim_tables] at ownerThere
    have thing := made_ownerThing _ _ ownerThere thing thingRan
    obtain ⟨placesMade, -, placesSome⟩ := made_createListedLocations locations placesRan
    have inner := thing.creation.append placesMade
    have locationsSome : places ++ (HistoryOwner.location? owner).toList ≠ [] := by
      rcases Bool.or_eq_true_iff.1 somewhere with owned | listed
      · obtain ⟨location, owned⟩ := Option.isSome_iff_exists.1 owned
        simp [owned]
      · simp [placesSome listed]
    unfold Outline.ofHistoryDraft
    constructor
    · refine .recorded _ claimed inner (placesMade.contains thing.there) ?_ recordRan
      obtain ⟨location, member⟩ := List.exists_mem_of_ne_nil _ locationsSome
      exact List.ne_nil_of_mem (IdSet.mem_ofIds_iff.2 member)
    · rw [recordRan.record.updates.contains]
      exact Progress.contains_save_self _ _ _

theorem made_createSensor {before after : Progress} {id : EntityId} : (link : Link SensorDraft) →
    (createSensor link).Returns environment before id after →
      Made environment (.ofSensor link) .sensor before id after
  | .reference _, ran => by
    obtain ⟨there, rfl, rfl⟩ := returns_existing.1 ran
    exact .existing there
  | .body draft, ran => by
    unfold createSensor at ran
    unfold Outline.ofSensor
    exact made_insertSensor draft ran

theorem made_insertSensor {before after : Progress} {id : EntityId} : (draft : SensorDraft) →
    (insertSensor draft).Returns environment before id after →
      Made environment (.ofSensorDraft draft) .sensor before id after
  | ⟨given, _, _, _, _, _, datastreams⟩, ran => by
    unfold insertSensor at ran
    simp only [returns_bind, returns_pure] at ran
    obtain ⟨_, _, sensorRan, _, _, streamsRan, rfl, rfl⟩ := ran
    have sensor := sensorRan.addSensor
    have streams := made_attachListedDatastreams (.sensor _) datastreams streamsRan sensor.there
    unfold Outline.ofSensorDraft
    rw [← Outline.named_append]
    exact sensor.andThen streams

theorem made_ownerSensor {before after : Progress} {id : EntityId} (owner : Option Key)
    (ownerThere : HoldsOwner before.tables owner) : (link : Option (Link SensorDraft)) →
    (ownerSensor (ownerOf .sensor owner) link).Returns environment before id after →
      Made environment ((Outline.ofSensor? link).unlessOwned (owner.map Key.kind == some .sensor))
        .sensor before id after
  | link, ran => by
    rw [← isSome_ownerOf]
    cases owned : ownerOf .sensor owner with
    | some given =>
      rw [owned] at ran
      unfold ownerSensor at ran
      obtain ⟨rfl, rfl⟩ := returns_pure.1 ran
      exact .existing (ownerThere.contains owned)
    | none =>
      rw [owned] at ran
      match link with
      | some link =>
        unfold ownerSensor at ran
        exact made_createSensor link ran
      | none =>
        unfold ownerSensor at ran
        exact (returns_missing.1 ran).elim

theorem made_createObservedProperty {before after : Progress} {id : EntityId} :
    (link : Link ObservedPropertyDraft) →
    (createObservedProperty link).Returns environment before id after →
      Made environment (.ofObservedProperty link) .observedProperty before id after
  | .reference _, ran => by
    obtain ⟨there, rfl, rfl⟩ := returns_existing.1 ran
    exact .existing there
  | .body draft, ran => by
    unfold createObservedProperty at ran
    unfold Outline.ofObservedProperty
    exact made_insertObservedProperty draft ran

theorem made_insertObservedProperty {before after : Progress} {id : EntityId} :
    (draft : ObservedPropertyDraft) →
    (insertObservedProperty draft).Returns environment before id after →
      Made environment (.ofObservedPropertyDraft draft) .observedProperty before id after
  | ⟨given, _, _, _, _, datastreams⟩, ran => by
    unfold insertObservedProperty at ran
    simp only [returns_bind, returns_pure] at ran
    obtain ⟨_, _, propertyRan, _, _, streamsRan, rfl, rfl⟩ := ran
    have property := propertyRan.addObservedProperty
    have streams := made_attachListedDatastreams (.observedProperty _) datastreams streamsRan
      property.there
    unfold Outline.ofObservedPropertyDraft
    rw [← Outline.named_append]
    exact property.andThen streams

theorem made_ownerObservedProperty {before after : Progress} {id : EntityId} (owner : Option Key)
    (ownerThere : HoldsOwner before.tables owner) : (link : Option (Link ObservedPropertyDraft)) →
    (ownerObservedProperty (ownerOf .observedProperty owner) link).Returns environment before id
      after →
      Made environment ((Outline.ofObservedProperty? link).unlessOwned
        (owner.map Key.kind == some .observedProperty)) .observedProperty before id after
  | link, ran => by
    rw [← isSome_ownerOf]
    cases owned : ownerOf .observedProperty owner with
    | some given =>
      rw [owned] at ran
      unfold ownerObservedProperty at ran
      obtain ⟨rfl, rfl⟩ := returns_pure.1 ran
      exact .existing (ownerThere.contains owned)
    | none =>
      rw [owned] at ran
      match link with
      | some link =>
        unfold ownerObservedProperty at ran
        exact made_createObservedProperty link ran
      | none =>
        unfold ownerObservedProperty at ran
        exact (returns_missing.1 ran).elim

theorem made_attachDatastreams {before after : Progress} (owner : DatastreamOwner) :
    (links : List (Link DatastreamDraft)) →
    (attachDatastreams owner links).Returns environment before () after →
    before.tables.contains owner.key.kind owner.key.id = true →
      Creation environment (.ofDatastreams owner.key.kind links) before after
  | [], ran, _ => by
    unfold attachDatastreams at ran
    obtain ⟨-, rfl⟩ := returns_pure.1 ran
    exact .nil before
  | .reference id :: rest, ran, there => by
    unfold attachDatastreams at ran
    simp only [returns_bind] at ran
    obtain ⟨_, _, adoptRan, restRan⟩ := ran
    have adopted := adoptRan.adoptDatastream there
    unfold Outline.ofDatastreams
    exact adopted.append (made_attachDatastreams owner rest restRan (adopted.contains there))
  | .body draft :: rest, ran, there => by
    unfold attachDatastreams at ran
    simp only [returns_bind] at ran
    obtain ⟨_, _, firstRan, restRan⟩ := ran
    have first := made_insertDatastream (some owner) draft firstRan (by rintro key ⟨⟩; exact there)
    unfold Outline.ofDatastreams
    exact first.creation.append
      (made_attachDatastreams owner rest restRan (first.creation.contains there))

theorem made_attachListedDatastreams {before after : Progress} (owner : DatastreamOwner) :
    (links : Option (List (Link DatastreamDraft))) →
    (attachListedDatastreams owner links).Returns environment before () after →
    before.tables.contains owner.key.kind owner.key.id = true →
      Creation environment (.ofListedDatastreams owner.key.kind links) before after
  | none, ran, _ => by
    unfold attachListedDatastreams at ran
    obtain ⟨-, rfl⟩ := returns_pure.1 ran
    exact .nil before
  | some links, ran, there => by
    unfold attachListedDatastreams at ran
    unfold Outline.ofListedDatastreams
    exact made_attachDatastreams owner links ran there

theorem made_createDatastream {before after : Progress} {id : EntityId} :
    (link : Link DatastreamDraft) →
    (createDatastream link).Returns environment before id after →
      Made environment (.ofDatastream link) .datastream before id after
  | .reference _, ran => by
    obtain ⟨there, rfl, rfl⟩ := returns_existing.1 ran
    exact .existing there
  | .body draft, ran => by
    unfold createDatastream at ran
    unfold Outline.ofDatastream
    exact made_insertDatastream none draft ran nofun

theorem made_insertDatastream {before after : Progress} {id : EntityId}
    (owner : Option DatastreamOwner) : (draft : DatastreamDraft) →
    (insertDatastream owner draft).Returns environment before id after →
    HoldsOwner before.tables (owner.map DatastreamOwner.key) →
      Made environment (.ofDatastreamDraft ((owner.map DatastreamOwner.key).map Key.kind) draft)
        .datastream before id after
  | ⟨given, name, description, unit, uri, _, thing, sensor, property, observations⟩, ran,
      ownerThere => by
    unfold insertDatastream at ran
    rw [DatastreamOwner.thing?_eq, DatastreamOwner.sensor?_eq,
      DatastreamOwner.observedProperty?_eq] at ran
    simp only [returns_bind, returns_require, returns_requireThat, returns_ofExcept,
      returns_pure] at ran
    obtain ⟨_, _, ⟨-, rfl⟩, _, _, ⟨-, rfl⟩, _, _, ⟨-, rfl⟩, name, _, ⟨-, rfl⟩, description, _,
      ⟨-, rfl⟩, unit, _, ⟨-, rfl⟩, uri, _, ⟨-, rfl⟩, type, _, ⟨-, rfl⟩, ran⟩ := ran
    obtain ⟨_, _, claimed, thingId, _, thingRan, sensorId, _, sensorRan, propertyId, _, propertyRan,
      _, _, streamRan, _, _, observationsRan, rfl, rfl⟩ := ran
    rw [← claimed.claim_tables] at ownerThere
    have thing := made_ownerThing _ _ ownerThere thing thingRan
    have sensor := made_ownerSensor _ (ownerThere.later thing.creation) sensor sensorRan
    have property := made_ownerObservedProperty _
      ((ownerThere.later thing.creation).later sensor.creation) property propertyRan
    obtain ⟨datastream, last, rfl, supplied, links, isNew, rfl⟩ := streamRan.addDatastream
      (property.creation.contains (sensor.creation.contains thing.there))
      (property.creation.contains sensor.there) property.there
    have inner := (thing.creation.append (sensor.creation.append property.creation)).settle supplied
    have added := Creation.datastream datastream claimed inner links isNew
    have there : (last.save .datastream datastream).tables.contains .datastream datastream.id =
        true := Progress.contains_save_self _ _ _
    have observations := made_attachListedObservations (.datastream _) observations observationsRan
      there
    unfold Outline.ofDatastreamDraft
    rw [← Outline.named_append]
    exact ⟨added.append observations, observations.contains there⟩

theorem made_ownerDatastream {before after : Progress} {id : EntityId} (owner : Option Key)
    (ownerThere : HoldsOwner before.tables owner) : (link : Option (Link DatastreamDraft)) →
    (ownerDatastream (ownerOf .datastream owner) link).Returns environment before id after →
      Made environment
        ((Outline.ofDatastream? link).unlessOwned (owner.map Key.kind == some .datastream))
        .datastream before id after
  | link, ran => by
    rw [← isSome_ownerOf]
    cases owned : ownerOf .datastream owner with
    | some given =>
      rw [owned] at ran
      unfold ownerDatastream at ran
      obtain ⟨rfl, rfl⟩ := returns_pure.1 ran
      exact .existing (ownerThere.contains owned)
    | none =>
      rw [owned] at ran
      match link with
      | some link =>
        unfold ownerDatastream at ran
        exact made_createDatastream link ran
      | none =>
        unfold ownerDatastream at ran
        exact (returns_missing.1 ran).elim

theorem made_attachObservations {before after : Progress} (owner : ObservationOwner) :
    (links : List (Link ObservationDraft)) →
    (attachObservations owner links).Returns environment before () after →
    before.tables.contains owner.key.kind owner.key.id = true →
      Creation environment (.ofObservations owner.key.kind links) before after
  | [], ran, _ => by
    unfold attachObservations at ran
    obtain ⟨-, rfl⟩ := returns_pure.1 ran
    exact .nil before
  | .reference id :: rest, ran, _ => by
    unfold attachObservations at ran
    exact (returns_throw.1 ran).elim
  | .body draft :: rest, ran, there => by
    unfold attachObservations at ran
    simp only [returns_bind] at ran
    obtain ⟨_, _, firstRan, restRan⟩ := ran
    have first := made_insertObservation (some owner) draft firstRan
      (by rintro key ⟨⟩; exact there)
    unfold Outline.ofObservations
    exact first.creation.append
      (made_attachObservations owner rest restRan (first.creation.contains there))

theorem made_attachListedObservations {before after : Progress} (owner : ObservationOwner) :
    (links : Option (List (Link ObservationDraft))) →
    (attachListedObservations owner links).Returns environment before () after →
    before.tables.contains owner.key.kind owner.key.id = true →
      Creation environment (.ofListedObservations owner.key.kind links) before after
  | none, ran, _ => by
    unfold attachListedObservations at ran
    obtain ⟨-, rfl⟩ := returns_pure.1 ran
    exact .nil before
  | some links, ran, there => by
    unfold attachListedObservations at ran
    unfold Outline.ofListedObservations
    exact made_attachObservations owner links ran there

theorem made_createFeature {before after : Progress} {id : EntityId} : (link : Link FeatureDraft) →
    (createFeature link).Returns environment before id after →
      Made environment (.ofFeature link) .featureOfInterest before id after
  | .reference _, ran => by
    obtain ⟨there, rfl, rfl⟩ := returns_existing.1 ran
    exact .existing there
  | .body draft, ran => by
    unfold createFeature at ran
    unfold Outline.ofFeature
    exact made_insertFeature draft ran

theorem made_insertFeature {before after : Progress} {id : EntityId} : (draft : FeatureDraft) →
    (insertFeature draft).Returns environment before id after →
      Made environment (.ofFeatureDraft draft) .featureOfInterest before id after
  | ⟨given, _, _, _, _, _, observations⟩, ran => by
    unfold insertFeature at ran
    simp only [returns_bind, returns_pure] at ran
    obtain ⟨_, _, featureRan, _, _, observationsRan, rfl, rfl⟩ := ran
    have feature := featureRan.addFeature
    have observations := made_attachListedObservations (.feature _) observations observationsRan
      feature.there
    unfold Outline.ofFeatureDraft
    rw [← Outline.namedFeature_append]
    exact feature.andThen observations

theorem made_ownerFeature {before after : Progress} {id : EntityId} (thing : EntityId)
    (owner : Option Key) (ownerThere : HoldsOwner before.tables owner) :
    (link : Option (Link FeatureDraft)) →
    (ownerFeature thing (ownerOf .featureOfInterest owner) link).Returns environment before id
      after →
      Made environment
        ((Outline.ofFeature? link).unlessOwned (owner.map Key.kind == some .featureOfInterest))
        .featureOfInterest before id after
  | link, ran => by
    rw [← isSome_ownerOf]
    cases owned : ownerOf .featureOfInterest owner with
    | some given =>
      rw [owned] at ran
      unfold ownerFeature at ran
      obtain ⟨rfl, rfl⟩ := returns_pure.1 ran
      exact .existing (ownerThere.contains owned)
    | none =>
      rw [owned] at ran
      match link with
      | some link =>
        unfold ownerFeature at ran
        exact made_createFeature link ran
      | none =>
        unfold ownerFeature at ran
        exact ran.derivedFeature

theorem made_createObservation {before after : Progress} {id : EntityId} :
    (link : Link ObservationDraft) →
    (createObservation link).Returns environment before id after →
      Made environment (.ofObservation link) .observation before id after
  | .reference _, ran => by
    obtain ⟨there, rfl, rfl⟩ := returns_existing.1 ran
    exact .existing there
  | .body draft, ran => by
    unfold createObservation at ran
    unfold Outline.ofObservation
    exact made_insertObservation none draft ran nofun

theorem made_insertObservation {before after : Progress} {id : EntityId}
    (owner : Option ObservationOwner) : (draft : ObservationDraft) →
    (insertObservation owner draft).Returns environment before id after →
    HoldsOwner before.tables (owner.map ObservationOwner.key) →
      Made environment (.ofObservationDraft ((owner.map ObservationOwner.key).map Key.kind) draft)
        .observation before id after
  | ⟨given, _, _, _, _, raw, datastream, feature⟩, ran, ownerThere => by
    unfold insertObservation at ran
    rw [ObservationOwner.datastream?_eq, ObservationOwner.feature?_eq] at ran
    simp only [returns_bind, returns_require, returns_requireThat, returns_fetch .datastream,
      returns_ofExcept, returns_pure] at ran
    obtain ⟨_, _, ⟨-, rfl⟩, raw, _, ⟨-, rfl⟩, _, _, claimed, streamId, _, streamRan, stream, _,
      ⟨streamed, rfl⟩, result, _, ⟨typed, rfl⟩, featureId, _, featureRan, _, _, addRan, rfl, rfl⟩ :=
      ran
    rw [← claimed.claim_tables] at ownerThere
    have datastream := made_ownerDatastream _ ownerThere datastream streamRan
    have feature := made_ownerFeature _ _ (ownerThere.later datastream.creation) feature featureRan
    have streamId : stream.id = streamId := Tables.idOf_of_find? streamed
    subst streamId
    obtain ⟨observation, current, dataset, last, rfl, atStream, rfl, rfl, supplied, featureThere,
      currentFound, datasetFound, paired, rfl⟩ :=
        addRan.addObservation streamed feature.creation feature.there
    rw [← atStream] at streamed currentFound paired
    unfold Outline.ofObservationDraft
    constructor
    · exact .observation observation stream current dataset raw claimed datastream.creation streamed
        typed supplied featureThere currentFound datasetFound paired
    · exact Progress.contains_addObservation_self

end

@[simp] theorem returns_draft {α : Type} {before after : Progress} {kind : EntityKind}
    {read? : Json → Option α} {body : Json} {value : α} :
    (draft kind read? body).Returns environment before value after ↔
      read? body = some value ∧ before = after := by
  unfold draft
  cases read? body with
  | none => simp [returns_throw]
  | some found => rw [returns_pure, Option.some.injEq]

/-! Requests give the identifier of what they create, and nothing of what they revise. -/

@[simp] theorem returns_ofRequest_create {before after : Progress} {kind : EntityKind} {body : Json}
    {value : Option EntityId} :
    (ofRequest (.create kind body)).Returns environment before value after ↔
      ∃ id, (create kind body).Returns environment before id after ∧ some id = value := by
  simp only [ofRequest, returns_bind, returns_pure]
  constructor
  · rintro ⟨id, _, created, same, rfl⟩
    exact ⟨id, created, same⟩
  · rintro ⟨id, created, same⟩
    exact ⟨id, _, created, same, rfl⟩

@[simp]
theorem returns_ofRequest_revise {before after : Progress} {kind : EntityKind} {id : EntityId}
    {body : Json} {value : Option EntityId} :
    (ofRequest (.revise kind id body)).Returns environment before value after ↔
      (revise kind id body).Returns environment before () after ∧ none = value := by
  simp only [ofRequest, returns_bind, returns_pure]
  constructor
  · rintro ⟨_, _, revised, same, rfl⟩
    exact ⟨revised, same⟩
  · rintro ⟨revised, same⟩
    exact ⟨(), _, revised, same, rfl⟩

theorem made_create {before after : Progress} {id : EntityId} {kind : EntityKind} {body : Json}
    (ran : (create kind body).Returns environment before id after) :
    Made environment (.ofJson kind body) kind before id after := by
  cases kind
  case dataset => exact (returns_throw.1 ran).elim
  case unitOfMeasurement => exact (returns_throw.1 ran).elim
  case format => exact (returns_throw.1 ran).elim
  all_goals
    simp only [create, returns_bind, returns_draft] at ran
    obtain ⟨draft, _, ⟨read, rfl⟩, ran⟩ := ran
    simp only [Outline.ofJson, read, Option.map_some, Option.getD_some]
  case thing => exact made_createThing _ ran
  case location => exact made_createLocation _ ran
  case historicalLocation => exact made_createHistory _ ran
  case sensor => exact made_createSensor _ ran
  case observedProperty => exact made_createObservedProperty _ ran
  case datastream => exact made_createDatastream _ ran
  case featureOfInterest => exact made_createFeature _ ran
  case observation => exact made_createObservation _ ran

end Change

end SensorThings
