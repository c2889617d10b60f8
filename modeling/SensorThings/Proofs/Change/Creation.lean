import SensorThings.Proofs.Change.Outline
import SensorThings.Proofs.Change.Movement
import SensorThings.Proofs.Store.Links

/-!
Creations: all that making a draft can do, step by step. Whatever a draft nests, a successful run is
composed of these steps, so what each of them keeps is kept by making any draft.
-/
namespace SensorThings

/-- An entity that is related to no other yet. -/
def EntityKind.IsBare : (kind : EntityKind) → kind.Entity → Prop
  | thing, entity => Thing.locations entity = []
  | location, entity => Location.historicalLocations entity = .empty
  | sensor, _ => True
  | observedProperty, _ => True
  | unitOfMeasurement, _ => True
  | format, _ => True
  | _, _ => False

/-- Two entities share what entities of their kind are looked up by, so that they are used again.
Units are looked up by their symbols, if they have any. -/
def EntityKind.SharesKey : (kind : EntityKind) → kind.Entity → kind.Entity → Prop
  | dataset, left, right =>
    Dataset.datastream left = Dataset.datastream right ∧ Dataset.feature left = Dataset.feature right
  | unitOfMeasurement, left, right => ∃ symbol, UnitOfMeasurement.symbol left = some symbol ∧
      UnitOfMeasurement.symbol right = some symbol
  | format, left, right => Format.format left = Format.format right
  | _, _, _ => False

/-- A dataset is made for a datastream. -/
structure Dataset.MadeFor (dataset : Dataset) (stream : Datastream) : Prop where
  datastream : dataset.datastream = stream.id
  offering : dataset.offering = stream.id
  procedure : dataset.procedure = stream.sensor
  phenomenon : dataset.phenomenon = stream.observedProperty

def Tables.FormatHolds (tables : Tables) (type : ObservationType) (id : EntityId) : Prop :=
  ∃ format : Format, tables.find? .format id = some format ∧ format.format = type.uri

theorem Tables.FormatHolds.contains {tables : Tables} {type : ObservationType} {id : EntityId}
    (holds : tables.FormatHolds type id) : tables.contains .format id = true := by
  obtain ⟨format, found, -⟩ := holds
  exact contains_of_find? found

/-- A datastream as it is added: without observations, and with the format of its type. -/
structure Datastream.IsNew (datastream : Datastream) (tables : Tables) : Prop where
  unbounded : datastream.phenomenonTime = none ∧ datastream.resultTime = none
  formatted : tables.FormatHolds datastream.observationType datastream.format

/-- The progress after an observation is added to its datastream and its dataset. -/
def Progress.addObservation (progress : Progress) (observation : Observation)
    (datastream : Datastream) (dataset : Dataset) : Progress :=
  ((progress.save .observation observation).save .datastream (datastream.cover observation)).save
    .dataset (dataset.cover observation)

@[simp] theorem Progress.find?_addObservation (progress : Progress) (observation : Observation)
    (datastream : Datastream) (dataset : Dataset) {kind : EntityKind} (id : EntityId)
    (plain : kind ≠ .observation ∧ kind ≠ .datastream ∧ kind ≠ .dataset) :
    (progress.addObservation observation datastream dataset).tables.find? kind id =
      progress.tables.find? kind id := by
  unfold addObservation
  simp only [save_tables]
  simp [plain.2.2, plain.2.1, plain.1]

/-- Making the bodies of an outline leads from one progress to another. -/
inductive Creation (environment : Environment) : Outline → Progress → Progress → Prop where
  | nil (progress : Progress) : Creation environment .nil progress progress
  | append {first second : Outline} {before middle after : Progress}
      (left : Creation environment first before middle)
      (right : Creation environment second middle after) :
      Creation environment (first ++ second) before after
  /-- An entity without relations, such as the thing of a draft before its locations are made, or a
  unit or a format that was looked for and not found. -/
  | bare (kind : EntityKind) {given : Option EntityId} {before middle : Progress}
      (entity : kind.Entity) (isBare : kind.IsBare entity)
      (claimed : (Change.claim kind given).Returns environment before (kind.idOf entity) middle)
      (unshared : ∀ id other, before.tables.find? kind id = some other →
        ¬kind.SharesKey entity other) :
      Creation environment (.named kind given .nil .nil) before (middle.save kind entity)
  | feature {given : Option EntityId} {geometry : Option SentGeometry}
      {description : Option String} {before middle : Progress} (feature : FeatureOfInterest)
      (sent : feature.autoGenerated = false)
      (claimed : (Change.claim .featureOfInterest given).Returns environment before feature.id
        middle) :
      Creation environment (.namedFeature given geometry description .nil) before
        (middle.save .featureOfInterest feature)
  /-- A body that repeats a feature made from a location. -/
  | repeated {progress : Progress} (body : FeatureBody) (feature : FeatureOfInterest)
      (found : progress.tables.find? .featureOfInterest body.id = some feature)
      (repeats : body.Repeats feature) :
      Creation environment (.feature body .nil) progress progress
  /-- A feature made from a location. -/
  | derived {before middle : Progress} (location : EntityId) (feature : FeatureOfInterest)
      (there : before.tables.contains .location location = true)
      (isAutoGenerated : feature.autoGenerated = true)
      (chosen : (Change.featureId location).Returns environment before feature.id middle) :
      Creation environment .nil before (middle.save .featureOfInterest feature)
  /-- A datastream that exists is pointed at another owner. -/
  | adopted {progress : Progress} (owner : DatastreamOwner) (datastream : Datastream)
      (found : progress.tables.find? .datastream datastream.id = some datastream)
      (there : progress.tables.contains owner.key.kind owner.key.id = true) :
      Creation environment (.adopted owner.key.kind datastream.id .nil) progress
        (progress.save .datastream (owner.adopt datastream))
  | moved {progress : Progress} (thing : Thing) (locations : List EntityId)
      (found : progress.tables.find? .thing thing.id = some thing) (distinct : locations.Nodup)
      (there : ∀ location ∈ locations, progress.tables.contains .location location = true) :
      Creation environment .nil progress (progress.save .thing { thing with locations })
  | recorded {given : Option EntityId} {inner : Outline} {before middle last after : Progress}
      (historical : HistoricalLocation)
      (claimed : (Change.claim .historicalLocation given).Returns environment before historical.id
        middle)
      (made : Creation environment inner middle last)
      (thing : last.tables.contains .thing historical.thing = true)
      (somewhere : historical.locations.items ≠ [])
      (ran : (Change.record historical).Returns environment last () after) :
      Creation environment (.named .historicalLocation given inner .nil) before after
  /-- A historical location that exists gets another location. -/
  | extended {before after : Progress} (historical location : EntityId)
      (ran : (Change.extendRecord historical location).Returns environment before () after) :
      Creation environment .nil before after
  | datastream {given : Option EntityId} {inner : Outline} {before middle last : Progress}
      (datastream : Datastream)
      (claimed : (Change.claim .datastream given).Returns environment before datastream.id middle)
      (made : Creation environment inner middle last) (links : last.tables.HoldsLinksOf datastream)
      (isNew : datastream.IsNew last.tables) :
      Creation environment (.named .datastream given inner .nil) before
        (last.save .datastream datastream)
  /-- A dataset is made for a datastream as it was found earlier. -/
  | dataset {outline : Outline} {before middle : Progress} (stream : Datastream) (dataset : Dataset)
      (found : before.tables.find? .datastream stream.id = some stream)
      (made : Creation environment outline before middle) (madeFor : dataset.MadeFor stream)
      (drawn : dataset.id = environment.fresh (middle.drawn + 1))
      (empty : dataset.firstObservation = none ∧ dataset.lastObservation = none)
      (feature : middle.tables.contains .featureOfInterest dataset.feature = true)
      (unpaired : ∀ id other, middle.tables.find? .dataset id = some other →
        ¬(other.datastream = dataset.datastream ∧ other.feature = dataset.feature)) :
      Creation environment outline before (middle.draw.save .dataset dataset)
  | observation {given : Option EntityId} {first second : Outline}
      {before middle between last : Progress} (observation : Observation)
      (stream datastream : Datastream) (dataset : Dataset) (raw : Json)
      (claimed : (Change.claim .observation given).Returns environment before observation.id middle)
      (left : Creation environment first middle between)
      (streamed : between.tables.find? .datastream observation.datastream = some stream)
      (typed : stream.observationType.result raw = .ok observation.result)
      (right : Creation environment second between last)
      (feature : last.tables.contains .featureOfInterest observation.feature = true)
      (datastreamFound : last.tables.find? .datastream observation.datastream = some datastream)
      (datasetFound : last.tables.find? .dataset observation.dataset = some dataset)
      (paired : dataset.datastream = observation.datastream ∧
        dataset.feature = observation.feature) :
      Creation environment (.named .observation given (first ++ second) .nil) before
        (last.addObservation observation datastream dataset)

namespace Progress

variable {progress : Progress} {observation : Observation} {datastream : Datastream}
  {dataset : Dataset}

@[simp] theorem contains_addObservation {kind : EntityKind} {id : EntityId}
    (there : progress.tables.contains kind id = true) :
    (progress.addObservation observation datastream dataset).tables.contains kind id = true :=
  contains_save (contains_save (contains_save there _ _) _ _) _ _

@[simp] theorem contains_addObservation_self :
    (progress.addObservation observation datastream dataset).tables.contains .observation
      observation.id = true :=
  contains_save (contains_save (contains_save_self _ _ _) _ _) _ _

theorem of_contains_addObservation {key : Key}
    (there : (progress.addObservation observation datastream dataset).tables.contains key.kind
      key.id = true)
    (datastreamThere : progress.tables.contains .datastream datastream.id = true)
    (datasetThere : progress.tables.contains .dataset dataset.id = true) :
    key = ⟨.observation, observation.id⟩ ∨ progress.tables.contains key.kind key.id = true := by
  unfold addObservation at there
  simp only [contains_save_iff] at there
  rcases there with rfl | rfl | there
  · exact .inr datasetThere
  · exact .inr datastreamThere
  · exact there

end Progress

namespace Creation

variable {environment : Environment} {outline : Outline} {before after : Progress}

theorem contains (creation : Creation environment outline before after) {kind : EntityKind}
    {id : EntityId} (there : before.tables.contains kind id = true) :
    after.tables.contains kind id = true := by
  induction creation with
  | nil => exact there
  | append _ _ first second => exact second (first there)
  | bare kind entity _ claimed =>
    rw [← claimed.claim_tables] at there
    exact Progress.contains_save there _ _
  | feature feature _ claimed =>
    rw [← claimed.claim_tables] at there
    exact Progress.contains_save there _ _
  | repeated => exact there
  | derived location feature _ _ chosen =>
    rw [← chosen.featureId_tables] at there
    exact Progress.contains_save there _ _
  | adopted => exact Progress.contains_save there _ _
  | moved => exact Progress.contains_save there _ _
  | recorded historical claimed _ _ _ ran ih =>
    rw [← claimed.claim_tables] at there
    rw [ran.record.updates.contains]
    exact Progress.contains_save (ih there) _ _
  | extended historical location ran =>
    obtain ⟨found, -, lists⟩ := ran.extendRecord
    rw [lists.updates.contains]
    exact Progress.contains_save there _ _
  | datastream datastream claimed _ _ _ ih =>
    rw [← claimed.claim_tables] at there
    exact Progress.contains_save (ih there) _ _
  | dataset _ _ _ _ _ _ _ _ _ ih =>
    have later := ih there
    rw [← Progress.draw_tables] at later
    exact Progress.contains_save later _ _
  | observation observation stream datastream dataset raw claimed _ _ _ _ _ _ _ _ left right =>
    rw [← claimed.claim_tables] at there
    exact Progress.contains_addObservation (right (left there))

theorem free_before (creation : Creation environment outline before after) {kind : EntityKind}
    {id : EntityId} (free : after.tables.find? kind id = none) :
    before.tables.find? kind id = none := by
  cases found : before.tables.find? kind id with
  | none => rfl
  | some row =>
    have there := creation.contains (Tables.contains_of_find? found)
    rw [Tables.contains, free] at there
    contradiction

theorem settle {middle : Progress} (creation : Creation environment outline before middle)
    (rest : Creation environment .nil middle after) :
    Creation environment outline before after := by
  rw [← outline.append_nil]
  exact creation.append rest

end Creation

end SensorThings
