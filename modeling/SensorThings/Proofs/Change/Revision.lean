import SensorThings.Change.Request
import SensorThings.Proofs.Change.Drafting
import SensorThings.Proofs.Change.Summary

/-!
What revisions write. Most rewrite one entity and leave its relations as they are; what they need
for it, such as a unit, is made before, and a move of a thing comes after. The revision of an
observation finds bounds and pointers anew.
-/
namespace SensorThings

/-- What a revision leaves as it was. Observations have a revision of their own, and the kinds that
clients do not see have none. -/
def EntityKind.Retains : (kind : EntityKind) → kind.Entity → kind.Entity → Prop
  | thing, old, new => Thing.locations new = Thing.locations old
  | location, old, new => Location.historicalLocations new = Location.historicalLocations old
  | historicalLocation, old, new =>
    HistoricalLocation.thing new = HistoricalLocation.thing old ∧
      HistoricalLocation.locations new = HistoricalLocation.locations old
  | sensor, _, _ => True
  | observedProperty, _, _ => True
  | datastream, old, new =>
    (Datastream.thing new = Datastream.thing old ∧ Datastream.sensor new = Datastream.sensor old ∧
      Datastream.observedProperty new = Datastream.observedProperty old) ∧
    Datastream.phenomenonTime new = Datastream.phenomenonTime old ∧
      Datastream.resultTime new = Datastream.resultTime old
  | featureOfInterest, old, new =>
    FeatureOfInterest.autoGenerated new = FeatureOfInterest.autoGenerated old
  | _, _, _ => False

/-- A datastream is given another type, with the format of it, only while it has no observation. -/
def EntityKind.Retypes : (kind : EntityKind) → Tables → kind.Entity → kind.Entity → Prop
  | datastream, tables, old, new =>
    (Datastream.observationType new = Datastream.observationType old ∧
      Datastream.format new = Datastream.format old) ∨
    tables.FormatHolds (Datastream.observationType new) (Datastream.format new) ∧
      ∀ id (observation : Observation), tables.find? .observation id = some observation →
        observation.datastream ≠ Datastream.id old
  | _, _, _, _ => True

/-- One entity is rewritten, with what it newly refers to made before. -/
inductive Edits (environment : Environment) (kind : EntityKind) (before after : Progress) :
    Prop where
  | intro {first : Progress} {id : EntityId} (old new : kind.Entity)
      (supplied : Creation environment .nil before first)
      (found : first.tables.find? kind id = some old)
      (identified : kind.idOf new = kind.idOf old) (retains : kind.Retains old new)
      (links : kind.LinksHold first.tables old → kind.LinksHold first.tables new)
      (typed : kind.Retypes first.tables old new)
      (followed : Creation environment .nil (first.save kind new) after)

theorem Edits.save {environment : Environment} {kind : EntityKind} {before : Progress}
    {id : EntityId} {old new : kind.Entity} (found : before.tables.find? kind id = some old)
    (identified : kind.idOf new = kind.idOf old) (retains : kind.Retains old new)
    (links : kind.LinksHold before.tables old → kind.LinksHold before.tables new)
    (typed : kind.Retypes before.tables old new) :
    Edits environment kind before (before.save kind new) :=
  .intro old new (.nil before) found identified retains links typed (.nil _)

/-- An observation stays in its datastream, and moves to another dataset only together with a move
to another feature. -/
structure Refocuses (environment : Environment) (old placed : Observation)
    (before after : Progress) : Prop where
  supplied : Creation environment .nil before after
  others : ∀ {kind} place, kind ≠ .dataset →
    after.tables.find? kind place = before.tables.find? kind place
  same : placed.id = old.id ∧ placed.datastream = old.datastream
  group : placed.feature = old.feature ∧ placed.dataset = old.dataset ∨
    after.tables.contains .featureOfInterest placed.feature = true ∧
      ∃ dataset : Dataset, after.tables.find? .dataset placed.dataset = some dataset ∧
        dataset.datastream = placed.datastream ∧ dataset.feature = placed.feature

/-- An observation is rewritten, and its old dataset, its new one and its datastream are found
anew. -/
inductive EditsObservation (environment : Environment) (before after : Progress) : Prop where
  | intro {first middle : Progress} {id : EntityId} (old new : Observation) (stream : Datastream)
      (found : before.tables.find? .observation id = some old)
      (streamFound : before.tables.find? .datastream old.datastream = some stream)
      (refocuses : Refocuses environment old new before first)
      (typed : new.result = old.result ∨
        ∃ raw, stream.observationType.result raw = .ok new.result)
      (repoints : Updates .dataset (first.save .observation new).tables.repointed
        [old.dataset, new.dataset] (first.save .observation new) middle)
      (rebounds : Updates .datastream middle.tables.rebounded [new.datastream] middle after)

namespace Change

variable {environment : Environment} {before after : Progress} {id : EntityId}

@[simp] theorem returns_refuseBodies {kind : EntityKind} {hasBodies : Bool} {value : Unit} :
    (refuseBodies kind hasBodies).Returns environment before value after ↔
      hasBodies = false ∧ before = after := by
  simp [refuseBodies, returns_ite, returns_throw, returns_pure]

@[simp] theorem returns_refuse {relation : FixedRelation} {given : Bool} {value : Unit} :
    (refuse relation given).Returns environment before value after ↔
      given = false ∧ before = after := by
  simp [refuse, returns_ite, returns_throw, returns_pure]

theorem Returns.keeps {α : Type} {relation : FixedRelation} {current : EntityId}
    {link : Option (Link α)} {value : Unit}
    (ran : (keeps relation current link).Returns environment before value after) :
    before = after := by
  unfold Change.keeps at ran
  split at ran
  next => exact (returns_refuse.1 ran).2
  next => exact (returns_refuse.1 ran).2
  next => exact (returns_pure.1 ran).2

theorem Returns.reviseLocation {draft : LocationDraft}
    (ran : (reviseLocation id draft).Returns environment before () after) :
    Edits environment .location before after := by
  unfold Change.reviseLocation at ran
  simp only [returns_bind, returns_fetch .location, returns_refuseBodies, returns_refuse,
    returns_save] at ran
  obtain ⟨old, _, ⟨found, rfl⟩, _, _, ⟨-, rfl⟩, _, _, ⟨-, rfl⟩, rfl⟩ := ran
  exact .save found rfl rfl (fun _ => trivial) trivial

theorem Returns.reviseHistoricalLocation {draft : HistoricalLocationDraft}
    (ran : (reviseHistoricalLocation id draft).Returns environment before () after) :
    Edits environment .historicalLocation before after := by
  unfold Change.reviseHistoricalLocation at ran
  simp only [returns_bind, returns_fetch .historicalLocation, returns_refuseBodies, returns_refuse,
    returns_save] at ran
  obtain ⟨old, _, ⟨found, rfl⟩, _, _, ⟨-, rfl⟩, _, _, ⟨-, rfl⟩, rfl⟩ := ran
  refine .save found rfl ⟨rfl, rfl⟩ (fun holds => ?_) trivial
  exact ⟨holds.thing, holds.somewhere, holds.listed⟩

theorem Returns.reviseSensor {draft : SensorDraft}
    (ran : (reviseSensor id draft).Returns environment before () after) :
    Edits environment .sensor before after := by
  unfold Change.reviseSensor at ran
  simp only [returns_bind, returns_fetch .sensor, returns_refuseBodies, returns_refuse,
    returns_save] at ran
  obtain ⟨old, _, ⟨found, rfl⟩, _, _, ⟨-, rfl⟩, _, _, ⟨-, rfl⟩, rfl⟩ := ran
  exact .save found rfl trivial (fun _ => trivial) trivial

theorem Returns.reviseObservedProperty {draft : ObservedPropertyDraft}
    (ran : (reviseObservedProperty id draft).Returns environment before () after) :
    Edits environment .observedProperty before after := by
  unfold Change.reviseObservedProperty at ran
  simp only [returns_bind, returns_fetch .observedProperty, returns_refuseBodies, returns_refuse,
    returns_save] at ran
  obtain ⟨old, _, ⟨found, rfl⟩, _, _, ⟨-, rfl⟩, _, _, ⟨-, rfl⟩, rfl⟩ := ran
  exact .save found rfl trivial (fun _ => trivial) trivial

theorem Returns.reviseFeature {draft : FeatureDraft}
    (ran : (reviseFeature id draft).Returns environment before () after) :
    Edits environment .featureOfInterest before after := by
  unfold Change.reviseFeature at ran
  simp only [returns_bind, returns_fetch .featureOfInterest, returns_refuseBodies, returns_refuse,
    returns_save] at ran
  obtain ⟨old, _, ⟨found, rfl⟩, _, _, ⟨-, rfl⟩, _, _, ⟨-, rfl⟩, rfl⟩ := ran
  exact .save found rfl rfl (fun _ => trivial) trivial

theorem returns_mapM_existing {kind : EntityKind} {ids found : List EntityId}
    (ran : (ids.mapM fun id => existing kind id).Returns environment before found after) :
    before = after ∧ found = ids ∧ ∀ id ∈ ids, before.tables.contains kind id = true := by
  induction ids generalizing found with
  | nil =>
    obtain ⟨rfl, rfl⟩ := returns_pure.1 ran
    exact ⟨rfl, rfl, by simp⟩
  | cons id rest ih =>
    rw [List.mapM_cons] at ran
    simp only [returns_bind, returns_existing, returns_pure] at ran
    obtain ⟨_, _, ⟨there, rfl, rfl⟩, others, _, ran, rfl, rfl⟩ := ran
    obtain ⟨rfl, rfl, restThere⟩ := ih ran
    exact ⟨rfl, rfl, List.forall_mem_cons.2 ⟨there, restThere⟩⟩

theorem Returns.reviseThing {draft : ThingDraft}
    (ran : (reviseThing id draft).Returns environment before () after) :
    Edits environment .thing before after := by
  unfold Change.reviseThing at ran
  simp only [returns_bind, returns_fetch .thing, returns_refuseBodies, returns_refuse,
    returns_save] at ran
  obtain ⟨old, _, ⟨found, rfl⟩, _, _, ⟨-, rfl⟩, _, _, ⟨-, rfl⟩, _, middle, saved, ran⟩ := ran
  have followed : Creation environment .nil middle after := by
    cases given : draft.locations with
    | none =>
      rw [given] at ran
      obtain ⟨-, rfl⟩ := returns_pure.1 ran
      exact .nil middle
    | some links =>
      rw [given] at ran
      obtain ⟨locations, _, located, ran⟩ := returns_bind.1 ran
      obtain ⟨rfl, rfl, there⟩ := returns_mapM_existing located
      apply ran.moveThing (nodup_eraseDups _)
      intro location member
      exact there location (List.mem_eraseDups.1 member)
  subst saved
  refine .intro old _ (.nil before) found ?_ ?_ ?_ trivial followed
  · rfl
  · rfl
  · exact fun holds => holds

theorem Returns.revisedUnit {current : EntityId} {draft : Option UnitDraft}
    (ran : (revisedUnit current draft).Returns environment before id after) :
    Creation environment .nil before after ∧
      (id = current ∨ after.tables.contains .unitOfMeasurement id = true) ∧
      ∀ place, after.tables.find? .datastream place = before.tables.find? .datastream place := by
  cases draft with
  | none =>
    obtain ⟨rfl, rfl⟩ := returns_pure.1 ran
    exact ⟨.nil before, .inl rfl, fun _ => rfl⟩
  | some draft =>
    obtain ⟨made, others⟩ := Returns.unitFor ran
    exact ⟨made.creation, .inr made.there, fun place => others place (by decide)⟩

@[simp] theorem returns_refuseObserved {datastream : EntityId} {value : Unit} :
    (refuseObserved datastream).Returns environment before value after ↔
      ((before.tables.entities .observation).any fun observation =>
        Observation.datastream observation == datastream) = false ∧ before = after := by
  unfold refuseObserved
  simp only [returns_bind, returns_tables, returns_ite, returns_throw, returns_pure]
  constructor
  · rintro ⟨_, _, ⟨rfl, rfl⟩, ⟨-, ⟨⟩⟩ | ⟨unobserved, -, rfl⟩⟩
    exact ⟨by simpa using unobserved, rfl⟩
  · rintro ⟨unobserved, rfl⟩
    exact ⟨_, _, ⟨rfl, rfl⟩, .inr ⟨by simpa using unobserved, trivial, rfl⟩⟩

theorem Returns.retyped {datastream revised : Datastream} {uri : Option String}
    (ran : (retyped datastream uri).Returns environment before revised after) :
    Creation environment .nil before after ∧
      (∀ place, after.tables.find? .datastream place = before.tables.find? .datastream place) ∧
      (revised = datastream ∨ ∃ type format,
        revised = { datastream with observationType := type, format } ∧
        after.tables.FormatHolds type format ∧
        ∀ place (observation : Observation),
          after.tables.find? .observation place = some observation →
            observation.datastream ≠ datastream.id) := by
  unfold Change.retyped at ran
  cases uri with
  | none =>
    obtain ⟨rfl, rfl⟩ := returns_pure.1 ran
    exact ⟨.nil before, fun _ => rfl, .inl rfl⟩
  | some uri =>
    simp only [returns_bind, returns_ofExcept, returns_ite, returns_refuseObserved,
      returns_pure] at ran
    obtain ⟨type, _, ⟨-, rfl⟩, ⟨-, rfl, rfl⟩ | ⟨-, _, _, ⟨unobserved, rfl⟩, format, _, formatted,
      rfl, rfl⟩⟩ := ran
    · exact ⟨.nil before, fun _ => rfl, .inl rfl⟩
    · obtain ⟨made, holds, others⟩ := formatted.formatFor
      refine ⟨made, fun place => others place (by decide), .inr ⟨type, format, rfl, holds, ?_⟩⟩
      intro place observation found same
      rw [others place (by decide)] at found
      have member := Tables.mem_entities_iff.2 (Tables.find?_idOf found)
      exact List.any_eq_false.1 unobserved observation member (beq_iff_eq.2 same)

theorem Returns.reviseDatastream {draft : DatastreamDraft}
    (ran : (reviseDatastream id draft).Returns environment before () after) :
    Edits environment .datastream before after := by
  unfold Change.reviseDatastream at ran
  simp only [returns_bind, returns_fetch .datastream, returns_refuseBodies, returns_refuse,
    returns_save] at ran
  obtain ⟨old, _, ⟨found, rfl⟩, _, _, ⟨-, rfl⟩, _, _, thing, _, _, sensor, _, _, property, _, _,
    ⟨-, rfl⟩, unit, _, unitRan, revised, first, typeRan, rfl⟩ := ran
  obtain rfl := thing.keeps
  obtain rfl := sensor.keeps
  obtain rfl := property.keeps
  obtain ⟨unitMade, unitThere, unitOthers⟩ := unitRan.revisedUnit
  obtain ⟨typeMade, typeOthers, typed⟩ := typeRan.retyped
  have foundLater : first.tables.find? .datastream id = some old := by
    rw [typeOthers, unitOthers, found]
  have supplied := unitMade.append typeMade
  have retains : EntityKind.datastream.Retains old revised := by
    obtain rfl | ⟨type, format, rfl, -⟩ := typed <;> exact ⟨⟨rfl, rfl, rfl⟩, rfl, rfl⟩
  have identified : revised.id = old.id := by
    obtain rfl | ⟨type, format, rfl, -⟩ := typed <;> rfl
  have unitThen : revised.unit = unit := by
    obtain rfl | ⟨type, format, rfl, -⟩ := typed <;> rfl
  have formatThen : revised.format = old.format ∨
      first.tables.contains .format revised.format = true := by
    obtain rfl | ⟨type, format, rfl, there, -⟩ := typed
    · exact .inl rfl
    · exact .inr there.contains
  have retypes : EntityKind.datastream.Retypes first.tables old revised := by
    obtain rfl | ⟨type, format, rfl, holds, unobserved⟩ := typed
    · exact .inl ⟨rfl, rfl⟩
    · exact .inr ⟨holds, unobserved⟩
  refine .intro old revised supplied foundLater identified retains (fun holds => ?_) retypes
    (.nil _)
  constructor
  case thing => exact retains.1.1 ▸ holds.thing
  case sensor => exact retains.1.2.1 ▸ holds.sensor
  case observedProperty => exact retains.1.2.2 ▸ holds.observedProperty
  case unit =>
    rcases unitThere with same | there
    · exact unitThen ▸ same ▸ holds.unit
    · exact unitThen ▸ typeMade.contains there
  case format =>
    rcases formatThen with same | there
    · exact same ▸ holds.format
    · exact there

theorem Returns.refocused {observation placed : Observation} {datastream : Datastream}
    {link : Option (Link FeatureDraft)}
    (ran : (refocused observation datastream link).Returns environment before placed after)
    (found : before.tables.find? .datastream observation.datastream = some datastream) :
    Refocuses environment observation placed before after := by
  have streamId : datastream.id = observation.datastream := Tables.idOf_of_find? found
  unfold Change.refocused at ran
  split at ran
  next feature =>
    simp only [returns_bind, returns_existing, returns_ite, returns_pure] at ran
    obtain ⟨_, _, ⟨there, rfl, rfl⟩, ⟨-, rfl, rfl⟩ | ⟨-, dataset, _, grouped, rfl, rfl⟩⟩ := ran
    · exact ⟨.nil before, fun _ _ => rfl, ⟨rfl, rfl⟩, .inl ⟨rfl, rfl⟩⟩
    · obtain ⟨supplied, ⟨row, rowFound, paired⟩, others⟩ := grouped.datasetFor
        (streamId ▸ found) (.nil before) there
      rw [streamId] at paired
      exact ⟨supplied, others, ⟨rfl, rfl⟩,
        .inr ⟨supplied.contains there, row, rowFound, paired⟩⟩
  next =>
    obtain ⟨rfl, rfl⟩ := returns_pure.1 ran
    exact ⟨.nil before, fun _ _ => rfl, ⟨rfl, rfl⟩, .inl ⟨rfl, rfl⟩⟩

theorem Returns.revisedResult {type : ObservationType} {current result : ObservedValue}
    {raw : Option Json}
    (ran : (revisedResult type current raw).Returns environment before result after) :
    before = after ∧ (result = current ∨ ∃ raw, type.result raw = .ok result) := by
  cases raw with
  | none =>
    obtain ⟨rfl, rfl⟩ := returns_pure.1 ran
    exact ⟨rfl, .inl rfl⟩
  | some raw =>
    obtain ⟨typed, rfl⟩ := returns_ofExcept.1 ran
    exact ⟨rfl, .inr ⟨raw, typed⟩⟩

theorem Returns.reviseObservation {draft : ObservationDraft}
    (ran : (reviseObservation id draft).Returns environment before () after) :
    EditsObservation environment before after := by
  unfold Change.reviseObservation at ran
  simp only [returns_bind, returns_fetch .observation, returns_fetch .datastream,
    returns_refuseBodies, returns_save] at ran
  obtain ⟨old, _, ⟨found, rfl⟩, _, _, ⟨-, rfl⟩, _, _, kept, stream, _, ⟨streamFound, rfl⟩, placed,
    first, placedRan, result, _, resultRan, _, _, rfl, edited⟩ := ran
  obtain rfl := kept.keeps
  obtain ⟨rfl, typed⟩ := resultRan.revisedResult
  obtain ⟨supplied, others, same, group⟩ := placedRan.refocused streamFound
  obtain ⟨middle, repoints, rebounds⟩ := edited.observationEdited
  refine .intro old _ stream found streamFound ?_ ?_ repoints rebounds
  · exact ⟨supplied, others, same, group⟩
  · exact typed

end Change

/-- What revising an entity of a kind writes. -/
inductive Revision (environment : Environment) (before after : Progress) : EntityKind → Prop where
  | entity {kind : EntityKind} (edits : Edits environment kind before after) :
      Revision environment before after kind
  | observation (edits : EditsObservation environment before after) :
      Revision environment before after .observation

theorem Change.Returns.revise {environment : Environment} {before after : Progress}
    {kind : EntityKind} {id : EntityId} {body : Json}
    (ran : (revise kind id body).Returns environment before () after) :
    Revision environment before after kind := by
  unfold Change.revise at ran
  cases kind
  all_goals simp only [returns_bind, returns_draft, returns_throw] at ran
  case thing =>
    obtain ⟨draft, _, ⟨-, rfl⟩, ran⟩ := ran
    exact .entity ran.reviseThing
  case location =>
    obtain ⟨draft, _, ⟨-, rfl⟩, ran⟩ := ran
    exact .entity ran.reviseLocation
  case historicalLocation =>
    obtain ⟨draft, _, ⟨-, rfl⟩, ran⟩ := ran
    exact .entity ran.reviseHistoricalLocation
  case sensor =>
    obtain ⟨draft, _, ⟨-, rfl⟩, ran⟩ := ran
    exact .entity ran.reviseSensor
  case observedProperty =>
    obtain ⟨draft, _, ⟨-, rfl⟩, ran⟩ := ran
    exact .entity ran.reviseObservedProperty
  case datastream =>
    obtain ⟨draft, _, ⟨-, rfl⟩, ran⟩ := ran
    exact .entity ran.reviseDatastream
  case featureOfInterest =>
    obtain ⟨draft, _, ⟨-, rfl⟩, ran⟩ := ran
    exact .entity ran.reviseFeature
  case observation =>
    obtain ⟨draft, _, ⟨-, rfl⟩, ran⟩ := ran
    exact .observation ran.reviseObservation

end SensorThings
