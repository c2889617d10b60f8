import SensorThings.Proofs.Change.Extent

/-!
Bounds and pointers in tables. Writes to other kinds leave them as they are, and a creation keeps
them: a new observation extends those of its datastream and its dataset, and is in no other.
-/
namespace SensorThings

namespace Tables

/-- Every datastream and every dataset has kept about its observations what is so. -/
structure Summarized (tables : Tables) : Prop where
  bounds : ∀ id datastream, tables.find? .datastream id = some datastream →
    tables.BoundsHold datastream
  pointers : ∀ id dataset, tables.find? .dataset id = some dataset → tables.PointersHold dataset

def IsSummed (kind : EntityKind) : Prop :=
  kind = .observation ∨ kind = .datastream ∨ kind = .dataset

theorem inDatastream_congr {before after : Tables}
    (same : ∀ id, after.find? .observation id = before.find? .observation id) (id : EntityId)
    (observation : Observation) :
    after.InDatastream id observation ↔ before.InDatastream id observation := by
  rw [InDatastream, same, InDatastream]

theorem inDataset_congr {before after : Tables}
    (same : ∀ id, after.find? .observation id = before.find? .observation id) (id : EntityId)
    (observation : Observation) :
    after.InDataset id observation ↔ before.InDataset id observation := by
  rw [InDataset, same, InDataset]

theorem summarized_empty : Summarized {} :=
  ⟨fun _ _ => nofun, fun _ _ => nofun⟩

namespace Summarized

variable {before after tables : Tables}

theorem of_rows (summarized : before.Summarized)
    (datastreams : ∀ id row, after.find? .datastream id = some row → after.BoundsHold row ∨
      before.find? .datastream id = some row ∧
        ∀ observation, after.InDatastream id observation ↔ before.InDatastream id observation)
    (datasets : ∀ id row, after.find? .dataset id = some row → after.PointersHold row ∨
      before.find? .dataset id = some row ∧
        ∀ observation, after.InDataset id observation ↔ before.InDataset id observation) :
    after.Summarized where
  bounds := by
    intro id row found
    obtain anew | ⟨foundBefore, same⟩ := datastreams id row found
    · exact anew
    · have rowId : Datastream.id row = id := idOf_of_find? foundBefore
      apply (summarized.bounds id row foundBefore).congr ⟨rfl, rfl⟩
      rwa [rowId]
  pointers := by
    intro id row found
    obtain anew | ⟨foundBefore, same⟩ := datasets id row found
    · exact anew
    · have rowId : Dataset.id row = id := idOf_of_find? foundBefore
      apply (summarized.pointers id row foundBefore).congr ⟨rfl, rfl⟩
      rwa [rowId]

theorem frame (summarized : before.Summarized) (same : ∀ {kind} id, IsSummed kind →
      after.find? kind id = before.find? kind id) : after.Summarized := by
  have observations := fun id => same id (.inl rfl)
  apply summarized.of_rows
  · intro id row found
    rw [same id (.inr (.inl rfl))] at found
    exact .inr ⟨found, inDatastream_congr observations id⟩
  · intro id row found
    rw [same id (.inr (.inr rfl))] at found
    exact .inr ⟨found, inDataset_congr observations id⟩

theorem put (summarized : tables.Summarized) (kind : EntityKind) (entity : kind.Entity)
    (plain : ¬IsSummed kind) : (tables.put kind entity).Summarized :=
  summarized.frame (find?_put_of_not plain tables entity)

theorem put_datastream (summarized : tables.Summarized) {datastream : Datastream}
    (holds : tables.BoundsHold datastream) : (tables.put .datastream datastream).Summarized := by
  have observations : ∀ id, (tables.put .datastream datastream).find? .observation id =
      tables.find? .observation id := fun _ => find?_put_of_ne _ _ _ (by decide)
  apply summarized.of_rows
  · intro id row found
    rw [find?_put] at found
    split at found
    next =>
      obtain rfl := Option.some.inj found
      exact .inl (holds.congr ⟨rfl, rfl⟩ (inDatastream_congr observations _))
    next => exact .inr ⟨found, inDatastream_congr observations id⟩
  · intro id row found
    rw [find?_put_of_ne _ _ _ (by decide)] at found
    exact .inr ⟨found, inDataset_congr observations id⟩

theorem put_dataset (summarized : tables.Summarized) {dataset : Dataset}
    (holds : tables.PointersHold dataset) : (tables.put .dataset dataset).Summarized := by
  have observations : ∀ id, (tables.put .dataset dataset).find? .observation id =
      tables.find? .observation id := fun _ => find?_put_of_ne _ _ _ (by decide)
  apply summarized.of_rows
  · intro id row found
    rw [find?_put_of_ne _ _ _ (by decide)] at found
    exact .inr ⟨found, inDatastream_congr observations id⟩
  · intro id row found
    rw [find?_put] at found
    split at found
    next =>
      obtain rfl := Option.some.inj found
      exact .inl (holds.congr ⟨rfl, rfl⟩ (inDataset_congr observations _))
    next => exact .inr ⟨found, inDataset_congr observations id⟩

end Summarized

end Tables

namespace Progress

variable {progress : Progress} {observation other : Observation} {datastream : Datastream}
  {dataset : Dataset}

theorem found_addObservation_iff (free : progress.tables.find? .observation observation.id = none) :
    (progress.addObservation observation datastream dataset).tables.find? .observation other.id =
        some other ↔
      progress.tables.find? .observation other.id = some other ∨ other = observation := by
  unfold addObservation
  simp only [save_tables]
  rw [Tables.find?_put_of_ne _ _ _ (by decide), Tables.find?_put_of_ne _ _ _ (by decide),
    Tables.find?_put]
  split
  next same =>
    have same : observation.id = other.id := same
    rw [← same, free]
    simp [eq_comm]
  next different =>
    constructor
    · exact .inl
    · rintro (found | rfl)
      · exact found
      · exact absurd rfl different

theorem find?_addObservation_datastream (id : EntityId) :
    (progress.addObservation observation datastream dataset).tables.find? .datastream id =
      if datastream.id = id then some (datastream.cover observation)
      else progress.tables.find? .datastream id := by
  unfold addObservation
  simp only [save_tables]
  rw [Tables.find?_put_of_ne _ _ _ (by decide), Tables.find?_put,
    Tables.find?_put_of_ne _ _ _ (by decide)]
  rfl

theorem find?_addObservation_dataset (id : EntityId) :
    (progress.addObservation observation datastream dataset).tables.find? .dataset id =
      if dataset.id = id then some (dataset.cover observation)
      else progress.tables.find? .dataset id := by
  unfold addObservation
  simp only [save_tables]
  rw [Tables.find?_put, Tables.find?_put_of_ne _ _ _ (by decide),
    Tables.find?_put_of_ne _ _ _ (by decide)]
  rfl

theorem addObservation_summarized (summarized : progress.tables.Summarized)
    (free : progress.tables.find? .observation observation.id = none)
    (datastreamFound : progress.tables.find? .datastream observation.datastream = some datastream)
    (datasetFound : progress.tables.find? .dataset observation.dataset = some dataset) :
    (progress.addObservation observation datastream dataset).tables.Summarized := by
  have streamId : datastream.id = observation.datastream := Tables.idOf_of_find? datastreamFound
  have groupId : dataset.id = observation.dataset := Tables.idOf_of_find? datasetFound
  apply summarized.of_rows
  · intro id row found
    rw [find?_addObservation_datastream] at found
    split at found
    next =>
      obtain rfl := Option.some.inj found
      left
      refine (summarized.bounds _ datastream datastreamFound).cover fun other => ?_
      rw [Tables.InDatastream, found_addObservation_iff free, or_and_right, Tables.InDatastream]
      refine or_congr_right ⟨And.left, ?_⟩
      rintro rfl
      exact ⟨rfl, streamId.symm⟩
    next elsewhere =>
      refine .inr ⟨found, fun other => ?_⟩
      rw [Tables.InDatastream, found_addObservation_iff free, or_and_right, Tables.InDatastream]
      refine or_iff_left ?_
      rintro ⟨rfl, same⟩
      exact elsewhere (streamId.trans same)
  · intro id row found
    rw [find?_addObservation_dataset] at found
    split at found
    next =>
      obtain rfl := Option.some.inj found
      left
      refine (summarized.pointers _ dataset datasetFound).cover fun other => ?_
      rw [Tables.InDataset, found_addObservation_iff free, or_and_right, Tables.InDataset]
      refine or_congr_right ⟨And.left, ?_⟩
      rintro rfl
      exact ⟨rfl, groupId.symm⟩
    next elsewhere =>
      refine .inr ⟨found, fun other => ?_⟩
      rw [Tables.InDataset, found_addObservation_iff free, or_and_right, Tables.InDataset]
      refine or_iff_left ?_
      rintro ⟨rfl, same⟩
      exact elsewhere (groupId.trans same)

end Progress

theorem Lists.summarized {historical : HistoricalLocation} {locations : List EntityId}
    {before after : Progress}
    (lists : Lists historical.id locations (before.save .historicalLocation historical) after)
    (summarized : before.tables.Summarized) : after.tables.Summarized := by
  have written : (before.save .historicalLocation historical).tables.Summarized := by
    rw [Progress.save_tables]
    exact summarized.put .historicalLocation historical (by simp [Tables.IsSummed])
  apply written.frame
  intro kind id summed
  apply lists.updates.others
  rintro rfl
  simp [Tables.IsSummed] at summed

namespace Creation

variable {environment : Environment} {outline : Outline} {before after : Progress}

/-- What is new has no observation yet, since no observation refers to what is not there. -/
private theorem not_inDatastream {tables : Tables} (linked : tables.Linked) {id : EntityId}
    (free : tables.find? .datastream id = none) (observation : Observation) :
    ¬tables.InDatastream id observation := by
  rintro ⟨found, rfl⟩
  have there := (linked .observation _ observation found).datastream
  rw [Tables.contains, free] at there
  contradiction

private theorem not_inDataset {tables : Tables} (linked : tables.Linked) {id : EntityId}
    (free : tables.find? .dataset id = none) (observation : Observation) :
    ¬tables.InDataset id observation := by
  rintro ⟨found, rfl⟩
  obtain ⟨group, groupFound, -⟩ := (linked .observation _ observation found).dataset
  rw [free] at groupFound
  contradiction

theorem summarized (creation : Creation environment outline before after)
    (fresh : environment.Fresh outline.keys before) (distinct : outline.keys.Nodup)
    (linked : before.tables.Linked) (summarized : before.tables.Summarized) :
    after.tables.Summarized := by
  induction creation with
  | nil => exact summarized
  | append left _ ihLeft ihRight =>
    rw [Outline.keys_append, List.nodup_append] at distinct
    have linkedThen := left.linked fresh.left linked
    exact ihRight (fresh.right left) distinct.2.1 linkedThen
      (ihLeft fresh.left distinct.1 linked summarized)
  | bare kind entity isBare claimed =>
    rw [claimed.claim_save_tables]
    apply summarized.put kind entity
    cases kind <;> simp_all [Tables.IsSummed, EntityKind.IsBare]
  | feature feature _ claimed =>
    rw [claimed.claim_save_tables]
    exact summarized.put .featureOfInterest feature (by simp [Tables.IsSummed])
  | repeated => exact summarized
  | derived location feature _ _ chosen =>
    rw [chosen.featureId_save_tables]
    exact summarized.put .featureOfInterest feature (by simp [Tables.IsSummed])
  | adopted owner datastream found =>
    rw [Progress.save_tables]
    have holds := summarized.bounds _ datastream found
    apply summarized.put_datastream
    cases owner <;> exact holds.congr ⟨rfl, rfl⟩ fun _ => Iff.rfl
  | moved thing locations =>
    rw [Progress.save_tables]
    exact summarized.put .thing _ (by simp [Tables.IsSummed])
  | recorded historical claimed _ _ _ ran ih =>
    rw [← claimed.claim_tables] at linked summarized
    have inner := ih (fresh.claim claimed) (Outline.nodup_inner distinct) linked summarized
    exact ran.record.summarized inner
  | extended historical location ran =>
    obtain ⟨found, -, lists⟩ := ran.extendRecord
    exact lists.summarized summarized
  | datastream datastream claimed made _ isNew ih =>
    have free := made.claimed_stays_free claimed fresh distinct (by decide)
    rw [← claimed.claim_tables] at linked summarized
    have inside := fresh.claim claimed
    rw [Progress.save_tables]
    apply (ih inside (Outline.nodup_inner distinct) linked summarized).put_datastream
    exact .unbounded isNew.unbounded (not_inDatastream (made.linked inside linked) free)
  | dataset stream dataset _ made _ drawn empty _ _ ih =>
    have free := fresh.free_after made .dataset
    rw [← drawn] at free
    rw [Progress.save_tables, Progress.draw_tables]
    apply (ih fresh distinct linked summarized).put_dataset
    exact .withoutPointers empty (not_inDataset (made.linked fresh linked) free)
  | observation observation stream datastream dataset raw claimed left _ _ right _ datastreamFound
      datasetFound _ ihLeft ihRight =>
    have free := (left.append right).claimed_stays_free claimed fresh distinct (by decide)
    rw [← claimed.claim_tables] at linked summarized
    have inside := fresh.claim claimed
    have distinctInside := Outline.nodup_inner distinct
    rw [Outline.keys_append, List.nodup_append] at distinctInside
    have linkedBetween := left.linked inside.left linked
    have summarizedBetween := ihLeft inside.left distinctInside.1 linked summarized
    have summarizedLast :=
      ihRight (inside.right left) distinctInside.2.1 linkedBetween summarizedBetween
    exact Progress.addObservation_summarized summarizedLast free datastreamFound datasetFound

end Creation

end SensorThings
