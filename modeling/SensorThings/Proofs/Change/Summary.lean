import SensorThings.Proofs.Change.Movement

/-!
Bounds and pointers found anew. A dataset or a datastream is rewritten as a function of the
observations that are there, and nothing else about it changes.
-/
namespace SensorThings

namespace Dataset

theorem foldl_cover (observations : List Observation) (dataset : Dataset) :
    observations.foldl cover dataset =
      { dataset with
        firstObservation :=
          observations.foldl ObservationPointer.orEarlier dataset.firstObservation
        lastObservation :=
          observations.foldl ObservationPointer.orLater dataset.lastObservation } := by
  induction observations generalizing dataset with
  | nil => rfl
  | cons observation rest ih => rw [List.foldl_cons, ih, cover, List.foldl_cons, List.foldl_cons]

theorem summarize_eq (dataset : Dataset) (observations : List Observation) :
    dataset.summarize observations =
      { dataset with
        firstObservation := observations.foldl ObservationPointer.orEarlier none
        lastObservation := observations.foldl ObservationPointer.orLater none } := by
  rw [summarize, foldl_cover, withoutPointers]

@[simp] theorem summarize_summarize (dataset : Dataset) (observations : List Observation) :
    (dataset.summarize observations).summarize observations = dataset.summarize observations := by
  simp only [summarize_eq]

end Dataset

namespace Datastream

theorem foldl_cover (observations : List Observation) (datastream : Datastream) :
    observations.foldl cover datastream =
      { datastream with
        phenomenonTime := observations.foldl
          (fun bounds observation => Interval.widened bounds observation.phenomenonTime.toInterval)
          datastream.phenomenonTime
        resultTime := observations.foldl
          (fun bounds observation => Interval.widened bounds (.point observation.resultTime))
          datastream.resultTime } := by
  induction observations generalizing datastream with
  | nil => rfl
  | cons observation rest ih => rw [List.foldl_cons, ih, cover, List.foldl_cons, List.foldl_cons]

theorem summarize_eq (datastream : Datastream) (observations : List Observation) :
    datastream.summarize observations =
      { datastream with
        phenomenonTime := observations.foldl
          (fun bounds observation => Interval.widened bounds observation.phenomenonTime.toInterval)
          none
        resultTime := observations.foldl
          (fun bounds observation => Interval.widened bounds (.point observation.resultTime))
          none } := by
  rw [summarize, foldl_cover]

@[simp] theorem summarize_summarize (datastream : Datastream) (observations : List Observation) :
    (datastream.summarize observations).summarize observations =
      datastream.summarize observations := by
  simp only [summarize_eq]

end Datastream

namespace Tables

def observationsOf (tables : Tables) (dataset : EntityId) : List Observation :=
  (tables.entities .observation).filter fun observation =>
    Observation.dataset observation == dataset

def observationsIn (tables : Tables) (datastream : EntityId) : List Observation :=
  (tables.entities .observation).filter fun observation =>
    (tables.idsWhere .dataset fun dataset => Dataset.datastream dataset == datastream).contains
      (Observation.dataset observation)

def repointed (tables : Tables) (dataset : Dataset) : Dataset :=
  dataset.summarize (tables.observationsOf dataset.id)

def rebounded (tables : Tables) (datastream : Datastream) : Datastream :=
  datastream.summarize (tables.observationsIn datastream.id)

@[simp] theorem repointed_repointed (tables : Tables) (dataset : Dataset) :
    tables.repointed (tables.repointed dataset) = tables.repointed dataset := by
  have id : (tables.repointed dataset).id = dataset.id := by rw [repointed, Dataset.summarize_eq]
  rw [repointed, id, repointed, Dataset.summarize_summarize]

@[simp] theorem rebounded_rebounded (tables : Tables) (datastream : Datastream) :
    tables.rebounded (tables.rebounded datastream) = tables.rebounded datastream := by
  have id : (tables.rebounded datastream).id = datastream.id := by
    rw [rebounded, Datastream.summarize_eq]
  rw [rebounded, id, rebounded, Datastream.summarize_summarize]

theorem entities_congr {left right : Tables} {kind : EntityKind}
    (same : ∀ id, left.find? kind id = right.find? kind id) :
    left.entities kind = right.entities kind := by
  unfold entities
  rw [Roster.ext_find? same]

theorem repointed_congr {left right : Tables}
    (observations : ∀ id, left.find? .observation id = right.find? .observation id) :
    left.repointed = right.repointed := by
  funext dataset
  rw [repointed, repointed, observationsOf, observationsOf, entities_congr observations]

theorem rebounded_congr {left right : Tables}
    (observations : ∀ id, left.find? .observation id = right.find? .observation id)
    (datasets : ∀ id, left.find? .dataset id = right.find? .dataset id) :
    left.rebounded = right.rebounded := by
  funext datastream
  rw [rebounded, rebounded, observationsIn, observationsIn, idsWhere, idsWhere,
    entities_congr observations, entities_congr datasets]

end Tables

namespace Change

variable {environment : Environment} {before after : Progress} {id : EntityId}

theorem Returns.summarizeDataset
    (ran : (summarizeDataset id).Returns environment before () after) :
    Updates .dataset before.tables.repointed [id] before after := by
  unfold Change.summarizeDataset at ran
  simp only [returns_bind, returns_find? .dataset] at ran
  obtain ⟨row, _, ⟨found, rfl⟩, ran⟩ := ran
  cases row with
  | none =>
    obtain ⟨-, rfl⟩ := returns_pure.1 ran
    exact .absent found
  | some dataset =>
    simp only [returns_bind, returns_tables, returns_save] at ran
    obtain ⟨_, _, ⟨rfl, rfl⟩, rfl⟩ := ran
    obtain rfl : dataset.id = id := Tables.idOf_of_find? found
    have identified : (before.tables.repointed dataset).id = dataset.id := by
      rw [Tables.repointed, Dataset.summarize_eq]
    exact .save found identified

theorem Returns.summarizeDatastream
    (ran : (summarizeDatastream id).Returns environment before () after) :
    Updates .datastream before.tables.rebounded [id] before after := by
  unfold Change.summarizeDatastream at ran
  simp only [returns_bind, returns_find? .datastream] at ran
  obtain ⟨row, _, ⟨found, rfl⟩, ran⟩ := ran
  cases row with
  | none =>
    obtain ⟨-, rfl⟩ := returns_pure.1 ran
    exact .absent found
  | some datastream =>
    simp only [returns_bind, returns_idsWhere, returns_tables, returns_save] at ran
    obtain ⟨_, _, ⟨rfl, rfl⟩, _, _, ⟨rfl, rfl⟩, rfl⟩ := ran
    obtain rfl : datastream.id = id := Tables.idOf_of_find? found
    have identified : (before.tables.rebounded datastream).id = datastream.id := by
      rw [Tables.rebounded, Datastream.summarize_eq]
    exact .save found identified

theorem Returns.summarizeDatastreams {ids : List EntityId}
    (ran : (ids.forM Change.summarizeDatastream).Returns environment before () after) :
    Updates .datastream before.tables.rebounded ids before after := by
  induction ids generalizing before with
  | nil =>
    obtain rfl := returns_forM_nil.1 ran
    exact .nil before
  | cons id rest ih =>
    obtain ⟨middle, first, ran⟩ := returns_forM_cons.1 ran
    have one := first.summarizeDatastream
    have others := ih ran
    rw [Tables.rebounded_congr (fun id => one.others id (by decide))
      (fun id => one.others id (by decide))] at others
    exact .cons before.tables.rebounded_rebounded one others

theorem Returns.observationEdited {previous : EntityId} {observation : Observation}
    (ran : (observationEdited previous observation).Returns environment before () after) :
    ∃ middle, Updates .dataset before.tables.repointed [previous, observation.dataset] before
        middle ∧
      Updates .datastream middle.tables.rebounded [observation.datastream] middle after := by
  unfold Change.observationEdited Change.summarizeBoth at ran
  simp only [returns_bind, returns_ite, returns_pure] at ran
  obtain ⟨_, middle, ⟨_, first, firstRan, second⟩, last⟩ := ran
  refine ⟨middle, ?_, last.summarizeDatastream⟩
  have one := firstRan.summarizeDataset
  rcases second with ⟨-, secondRan⟩ | ⟨same, -, rfl⟩
  · have two := secondRan.summarizeDataset
    rw [Tables.repointed_congr fun id => one.others id (by decide)] at two
    exact .cons before.tables.repointed_repointed one two
  · rw [Decidable.not_not] at same
    exact one.congr (by simp [same])

end Change

end SensorThings
