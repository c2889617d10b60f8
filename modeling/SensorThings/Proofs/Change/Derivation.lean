import SensorThings.Proofs.Change.SharedKeys
import SensorThings.Proofs.Change.Stored
import SensorThings.Proofs.Change.Success

/-!
Features made from locations. An observation that names no feature gets one with the geometry and
the description of the place where its thing was put last: one that is there, or else a new one,
which the next look-up finds.
-/
namespace SensorThings

def FeatureOfInterest.IsLike (feature : FeatureOfInterest) (location : Location) : Prop :=
  feature.feature.same location.location = true ∧ feature.description = location.description

namespace Location

def Agrees (left right : Location) : Prop :=
  left.location.same right.location = true ∧ left.description = right.description

/-- The features that are like a location. -/
def likeness (location : Location) : Predicate :=
  .both (.equal (.here "feature") (.literal (.geometry location.location)))
    (.equal (.here "description") (.text location.description))

def asFeature (location : Location) (id : EntityId) : FeatureOfInterest where
  id := id
  name := location.name
  description := location.description
  featureType := location.encodingType
  feature := location.location
  properties := location.properties
  autoGenerated := true

theorem Agrees.isLike_iff {left right : Location} (agrees : left.Agrees right)
    (feature : FeatureOfInterest) : feature.IsLike left ↔ feature.IsLike right := by
  constructor
  · rintro ⟨geometry, description⟩
    exact ⟨Geometry.same_trans geometry agrees.1, description.trans agrees.2⟩
  · rintro ⟨geometry, description⟩
    have back : right.location.same left.location = true := by
      rw [Geometry.same_comm, agrees.1]
    exact ⟨Geometry.same_trans geometry back, description.trans agrees.2.symm⟩

theorem isLike_asFeature {location : Location} (proper : location.location.IsProper)
    (id : EntityId) : (location.asFeature id).IsLike location :=
  ⟨proper.same_self, rfl⟩

end Location

namespace Tables

def placeOfThing? (tables : Tables) (id : EntityId) : Option Location := do
  let thing : Thing ← tables.find? .thing id
  let last ← thing.currentLocation?
  tables.find? .location last

def placeOf? (tables : Tables) (datastream : EntityId) : Option Location := do
  let stream : Datastream ← tables.find? .datastream datastream
  tables.placeOfThing? stream.thing

theorem placeOfThing?_eq_some_iff {tables : Tables} {id : EntityId} {location : Location} :
    tables.placeOfThing? id = some location ↔
      ∃ (thing : Thing) (last : EntityId), tables.find? .thing id = some thing ∧
        thing.currentLocation? = some last ∧ tables.find? .location last = some location := by
  simp only [placeOfThing?, Option.bind_eq_bind, Option.bind_eq_some_iff, exists_and_left]

theorem placeOf?_of_find? {tables : Tables} {datastream : EntityId} {stream : Datastream}
    (found : tables.find? .datastream datastream = some stream) :
    tables.placeOf? datastream = tables.placeOfThing? stream.thing := by
  rw [placeOf?, found, Option.bind_eq_bind, Option.bind_some]

theorem exists_of_placeOf? {tables : Tables} {datastream : EntityId} {location : Location}
    (placed : tables.placeOf? datastream = some location) :
    ∃ id, tables.find? .location id = some location := by
  obtain ⟨stream, -, placed⟩ := Option.bind_eq_some_iff.1 placed
  obtain ⟨-, last, -, -, found⟩ := placeOfThing?_eq_some_iff.1 placed
  exact ⟨last, found⟩

theorem placeOfThing?_congr {before after : Tables}
    (things : ∀ id, after.find? .thing id = before.find? .thing id)
    (locations : ∀ id, after.find? .location id = before.find? .location id) (id : EntityId) :
    after.placeOfThing? id = before.placeOfThing? id := by
  simp only [placeOfThing?, things, locations]

/-- The first feature that is like a location. -/
def featureLike? (tables : Tables) (location : Location) : Option EntityId :=
  (tables.findWhere? .featureOfInterest location.likeness).map EntityKind.featureOfInterest.idOf

@[simp] theorem selects_like (tables : Tables) (geometry : Geometry) (description : String)
    (feature : FeatureOfInterest) :
    tables.selects .featureOfInterest (.both
      (.equal (.here "feature") (.literal (.geometry geometry)))
      (.equal (.here "description") (.text description))) feature = true ↔
      feature.feature.same geometry = true ∧ feature.description = description := by
  have geometries : (Scalar.geometry feature.feature).compare? (.geometry geometry) =
      if feature.feature.same geometry then some .eq else none := rfl
  have truth : tables.selects .featureOfInterest (.both
      (.equal (.here "feature") (.literal (.geometry geometry)))
      (.equal (.here "description") (.text description))) feature =
      (Truth.and (((Scalar.geometry feature.feature).compare? (.geometry geometry)).map
          Comparison.equal.allows)
        (Truth.and (some (compare feature.description description == .eq)) (some true)) ==
          some true) := rfl
  rw [truth, geometries, Text.compare_beq_eq]
  by_cases same : feature.feature.same geometry <;>
    by_cases described : feature.description = description
  all_goals simp [same, described, Truth.and, Comparison.allows]

@[simp]
theorem selects_likeness (tables : Tables) (location : Location) (feature : FeatureOfInterest) :
    tables.selects .featureOfInterest location.likeness feature = true ↔
      feature.IsLike location :=
  tables.selects_like _ _ feature

variable {tables before after : Tables} {location : Location}

theorem exists_of_featureLike? {id : EntityId} (found : tables.featureLike? location = some id) :
    ∃ feature : FeatureOfInterest, tables.find? .featureOfInterest id = some feature ∧
      feature.IsLike location := by
  obtain ⟨feature, first, rfl⟩ := Option.map_eq_some_iff.1 found
  exact ⟨feature, mem_entities_iff.1 (List.mem_of_find?_eq_some first),
    (tables.selects_likeness _ _).1 (List.find?_some first)⟩

theorem not_isLike_of_featureLike? (nothing : tables.featureLike? location = none) {id : EntityId}
    {feature : FeatureOfInterest} (found : tables.find? .featureOfInterest id = some feature) :
    ¬feature.IsLike location := fun like =>
  not_selects_of_findWhere? nothing found ((tables.selects_likeness _ _).2 like)

theorem featureLike?_congr {other : Location}
    (same : ∀ id, after.find? .featureOfInterest id = before.find? .featureOfInterest id)
    (agrees : other.Agrees location) :
    after.featureLike? other = before.featureLike? location := by
  have selects : after.selects .featureOfInterest other.likeness =
      before.selects .featureOfInterest location.likeness := by
    funext feature
    rw [Bool.eq_iff_iff]
    exact (after.selects_likeness _ _).trans
      ((agrees.isLike_iff feature).trans (before.selects_likeness _ _).symm)
  rw [featureLike?, featureLike?, findWhere?, findWhere?, entities_congr same, selects]

theorem featureLike?_put (nothing : tables.featureLike? location = none)
    {feature : FeatureOfInterest} (like : feature.IsLike location) :
    (tables.put .featureOfInterest feature).featureLike? location = some feature.id := by
  have only : (tables.put .featureOfInterest feature).findWhere? .featureOfInterest
      location.likeness = some feature := by
    apply findWhere?_of_only (find?_put_self _ _ rfl)
    · exact (selects_likeness _ _ _).2 like
    · intro id other found selected
      rw [find?_put] at found
      split at found
      · exact (Option.some.inj found).symm
      · exact absurd ((selects_likeness _ _ _).1 selected)
          (not_isLike_of_featureLike? nothing found)
  rw [featureLike?, only]
  rfl

end Tables

namespace Change

variable {environment : Environment} {before after : Progress} {id : EntityId}

theorem returns_featureOfThing_iff {thing : EntityId} :
    (featureOfThing thing).Returns environment before id after ↔
      ∃ location, before.tables.placeOfThing? thing = some location ∧
        (before.tables.featureLike? location = some id ∧ before = after ∨
          before.tables.featureLike? location = none ∧ ∃ middle,
            (featureId location.id).Returns environment before id middle ∧
              middle.save .featureOfInterest (location.asFeature id) = after) := by
  have look {location : Location} {found : Option EntityId} {first last : Progress} :
      (Change.featureLike? location.location location.description).Returns environment first found
        last ↔ first.tables.featureLike? location = found ∧ first = last := returns_idWhere?
  unfold featureOfThing
  constructor
  · intro ran
    simp only [returns_bind, returns_fetch .thing] at ran
    obtain ⟨row, _, ⟨here, rfl⟩, ran⟩ := ran
    split at ran
    next => exact (returns_throw.1 ran).elim
    next last current =>
      simp only [returns_bind, returns_fetch .location, look] at ran
      obtain ⟨location, _, ⟨placed, rfl⟩, found, _, ⟨looked, rfl⟩, ran⟩ := ran
      refine ⟨location, Tables.placeOfThing?_eq_some_iff.2 ⟨row, last, here, current, placed⟩, ?_⟩
      cases found with
      | some found =>
        obtain ⟨rfl, rfl⟩ := returns_pure.1 ran
        exact .inl ⟨looked, rfl⟩
      | none =>
        simp only [returns_bind, returns_save, returns_pure] at ran
        obtain ⟨_, middle, chosen, _, _, rfl, rfl, rfl⟩ := ran
        exact .inr ⟨looked, middle, chosen, rfl⟩
  · rintro ⟨location, place, chosen⟩
    obtain ⟨row, last, here, current, placed⟩ := Tables.placeOfThing?_eq_some_iff.1 place
    refine returns_bind.2 ⟨row, before, (returns_fetch .thing).2 ⟨here, rfl⟩, ?_⟩
    simp only [current, returns_bind, returns_fetch .location, look]
    obtain ⟨looked, rfl⟩ | ⟨looked, middle, drawn, rfl⟩ := chosen
    · exact ⟨location, _, ⟨placed, rfl⟩, some id, _, ⟨looked, rfl⟩, returns_pure.2 ⟨rfl, rfl⟩⟩
    · refine ⟨location, _, ⟨placed, rfl⟩, none, _, ⟨looked, rfl⟩, ?_⟩
      simp only [returns_bind, returns_save, returns_pure]
      exact ⟨id, middle, drawn, (), _, rfl, rfl, rfl⟩

theorem Returns.featureOfThing_others {thing : EntityId}
    (ran : (Change.featureOfThing thing).Returns environment before id after) {kind : EntityKind}
    (other : kind ≠ .featureOfInterest) (place : EntityId) :
    after.tables.find? kind place = before.tables.find? kind place := by
  obtain ⟨location, -, ⟨-, rfl⟩ | ⟨-, middle, chosen, rfl⟩⟩ := returns_featureOfThing_iff.1 ran
  · rfl
  · rw [Progress.find?_save_of_ne _ _ _ other, chosen.featureId_tables]

theorem succeeds_featureOfThing {thing : EntityId} {location : Location}
    (place : before.tables.placeOfThing? thing = some location) :
    (featureOfThing thing).Succeeds environment before := by
  cases looked : before.tables.featureLike? location with
  | some id =>
    exact ⟨id, before, returns_featureOfThing_iff.2 ⟨location, place, .inl ⟨looked, rfl⟩⟩⟩
  | none =>
    have chosen : (featureId location.id).Succeeds environment before := by
      cases free : before.tables.contains .featureOfInterest location.id with
      | true => exact ⟨_, _, returns_featureId.2 (.inl ⟨free, rfl, rfl⟩)⟩
      | false => exact ⟨_, _, returns_featureId.2 (.inr ⟨rfl, free, rfl⟩)⟩
    obtain ⟨id, middle, chosen⟩ := chosen
    exact ⟨id, _, returns_featureOfThing_iff.2
      ⟨location, place, .inr ⟨looked, middle, chosen, rfl⟩⟩⟩

end Change

namespace Tables

def IsDatasetOf (tables : Tables) (id datastream feature : EntityId) : Prop :=
  ∃ dataset : Dataset, tables.find? .dataset id = some dataset ∧
    dataset.datastream = datastream ∧ dataset.feature = feature

theorem IsDatasetOf.unique {tables : Tables} {left right datastream feature : EntityId}
    (keyed : tables.Keyed) (first : tables.IsDatasetOf left datastream feature)
    (second : tables.IsDatasetOf right datastream feature) : left = right := by
  obtain ⟨row, found, rfl, rfl⟩ := first
  obtain ⟨other, there, samePlace, sameFeature⟩ := second
  exact keyed .dataset left right row other found there ⟨samePlace.symm, sameFeature.symm⟩

end Tables

/-- An observation is added to a datastream and to the dataset for its feature, a new one only if
there is none. -/
structure Observation.Joins (observation : Observation) (stream : Datastream)
    (before after : Tables) : Prop where
  datastream : observation.datastream = stream.id
  observed : after.find? .observation observation.id = some observation
  streamed : after.find? .datastream stream.id = some (stream.cover observation)
  grouped : after.IsDatasetOf observation.dataset stream.id observation.feature
  others : ∀ {kind} place, kind ≠ .observation ∧ kind ≠ .datastream ∧ kind ≠ .dataset →
    after.find? kind place = before.find? kind place
  datasets : ∀ {dataset}, before.IsDatasetOf dataset stream.id observation.feature →
    before.IsDatasetOf observation.dataset stream.id observation.feature ∧
      ∀ place, after.contains .dataset place = before.contains .dataset place

namespace Change

variable {environment : Environment} {before after : Progress} {id : EntityId}

theorem Returns.datasetFor_of_isDatasetOf {stream : Datastream} {feature dataset : EntityId}
    (ran : (Change.datasetFor stream feature).Returns environment before id after)
    (there : before.tables.IsDatasetOf dataset stream.id feature) : before = after := by
  unfold Change.datasetFor at ran
  obtain ⟨found, _, looked, ran⟩ := returns_bind.1 ran
  obtain ⟨selected, rfl⟩ := returns_idWhere?.1 looked
  cases found with
  | some found => exact (returns_pure.1 ran).2
  | none =>
    obtain ⟨row, here, pair⟩ := there
    exact absurd ((before.tables.selects_pair _ _ _).2 pair)
      (Tables.not_selects_of_findWhere? selected here)

theorem succeeds_datasetFor (stream : Datastream) (feature : EntityId) :
    (datasetFor stream feature).Succeeds environment before := by
  unfold datasetFor
  refine Succeeds.bind ⟨_, before, returns_idWhere?.2 ⟨rfl, rfl⟩⟩ fun found middle _ => ?_
  cases found with
  | some id => exact succeeds_pure id
  | none =>
    refine Succeeds.bind ⟨_, _, returns_draw.2 ⟨rfl, rfl⟩⟩ fun id _ _ => ?_
    exact (succeeds_save _ _).bind fun _ _ _ => succeeds_pure id

variable {phenomenonTime : Option TimeSpan} {resultTime : Option Instant}
  {validTime : Option Interval} {parameters : Option Json} {result : ObservedValue}
  {stream : Datastream} {feature : EntityId}

theorem joins_addObservation {last : Progress} {observation : Observation} {dataset : Dataset}
    (grouped : (Change.datasetFor stream observation.feature).Returns environment before
      observation.dataset last)
    (placed : observation.datastream = stream.id)
    (found : last.tables.find? .dataset observation.dataset = some dataset)
    (pair : dataset.datastream = stream.id ∧ dataset.feature = observation.feature)
    (others : ∀ {kind} place, kind ≠ .dataset →
      last.tables.find? kind place = before.tables.find? kind place) :
    observation.Joins stream before.tables
      (last.addObservation observation stream dataset).tables where
  datastream := placed
  observed := by
    unfold Progress.addObservation
    simp only [Progress.save_tables]
    rw [Tables.find?_put_of_ne _ _ _ (by decide), Tables.find?_put_of_ne _ _ _ (by decide)]
    exact Tables.find?_put_self _ _ rfl
  streamed := by rw [Progress.find?_addObservation_datastream, if_pos rfl]
  grouped := by
    have same : dataset.id = observation.dataset := Tables.idOf_of_find? found
    refine ⟨dataset.cover observation, ?_, pair⟩
    rw [Progress.find?_addObservation_dataset, if_pos same]
  others place plain := by
    rw [Progress.find?_addObservation _ _ _ _ _ plain, others _ plain.2.2]
  datasets := by
    intro _ there
    obtain rfl := grouped.datasetFor_of_isDatasetOf there
    refine ⟨⟨dataset, found, pair⟩, fun place => ?_⟩
    have same : dataset.id = observation.dataset := Tables.idOf_of_find? found
    rw [Tables.contains, Progress.find?_addObservation_dataset, Tables.contains]
    split
    next here => rw [← here, same, found]; rfl
    next => rfl

theorem Returns.joins (ran : (Change.addObservation id phenomenonTime resultTime validTime
      parameters result stream feature).Returns environment before () after)
    (streamed : before.tables.find? .datastream stream.id = some stream)
    (featureThere : before.tables.contains .featureOfInterest feature = true) :
    ∃ observation : Observation, observation.id = id ∧ observation.feature = feature ∧
      observation.Joins stream before.tables after.tables := by
  unfold Change.addObservation Change.observationAdded at ran
  simp only [returns_bind, returns_now, returns_save, returns_fetch .datastream,
    returns_fetch .dataset] at ran
  obtain ⟨_, _, ⟨rfl, rfl⟩, group, last, grouped, _, _, rfl, datastream, _, ⟨found, rfl⟩, _, _, rfl,
    dataset, _, ⟨datasetFound, rfl⟩, rfl⟩ := ran
  obtain ⟨-, ⟨pair, pairFound, paired⟩, others⟩ :=
    grouped.datasetFor streamed (.nil before) featureThere
  rw [Progress.find?_save_of_ne _ _ _ (by decide), others _ (by decide),
    streamed] at found
  rw [Progress.find?_save_of_ne _ _ _ (by decide),
    Progress.find?_save_of_ne _ _ _ (by decide), pairFound] at datasetFound
  obtain rfl := Option.some.inj found
  obtain rfl := Option.some.inj datasetFound
  exact ⟨_, rfl, rfl, joins_addObservation grouped rfl pairFound paired others⟩

theorem succeeds_addObservation (streamed : before.tables.find? .datastream stream.id = some stream)
    (featureThere : before.tables.contains .featureOfInterest feature = true) :
    (addObservation id phenomenonTime resultTime validTime parameters result stream
      feature).Succeeds environment before := by
  unfold addObservation observationAdded
  refine Succeeds.bind ⟨_, before, returns_now.2 ⟨rfl, rfl⟩⟩ fun _ _ timed => ?_
  obtain ⟨rfl, rfl⟩ := returns_now.1 timed
  refine (succeeds_datasetFor stream feature).bind fun dataset middle grouped => ?_
  obtain ⟨-, ⟨pair, pairFound, -⟩, others⟩ :=
    grouped.datasetFor streamed (.nil before) featureThere
  refine (succeeds_save _ _).bind fun _ first saved => ?_
  obtain rfl := returns_save.1 saved
  have streamThere : middle.tables.contains .datastream stream.id = true :=
    Tables.contains_of_find? ((others _ (by decide)).trans streamed)
  refine (succeeds_fetch (Progress.contains_save streamThere _ _)).bind fun row second fetched => ?_
  obtain ⟨-, rfl⟩ := (returns_fetch .datastream).1 fetched
  refine (succeeds_save _ _).bind fun _ third saved => ?_
  obtain rfl := returns_save.1 saved
  have pairThere := Tables.contains_of_find? pairFound
  refine (succeeds_fetch ?_).bind fun _ _ _ => succeeds_save _ _
  exact Progress.contains_save (Progress.contains_save pairThere _ _) _ _

end Change

end SensorThings
