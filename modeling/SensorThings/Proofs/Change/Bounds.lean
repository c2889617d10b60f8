import SensorThings.Proofs.Change.Reachable
import SensorThings.Proofs.Change.Summarized

/-!
Bounds and pointers hold in every store that is reached. Whatever touches an observation that is
there already finds its dataset and its datastream anew.
-/
namespace SensorThings

theorem Tables.Summarized.anew {before first middle after : Progress}
    {groups streams : List EntityId}
    (summarized : before.tables.Summarized) (linked : first.tables.Linked)
    (datasets : ∀ id row, first.tables.find? .dataset id = some row → id ∉ groups →
      before.tables.find? .dataset id = some row ∧
        ∀ observation, first.tables.InDataset id observation ↔
          before.tables.InDataset id observation)
    (datastreams : ∀ id row, first.tables.find? .datastream id = some row → id ∉ streams →
      before.tables.find? .datastream id = some row ∧
        ∀ observation, first.tables.InDatastream id observation ↔
          before.tables.InDatastream id observation)
    (repoints : Updates .dataset first.tables.repointed groups first middle)
    (rebounds : Updates .datastream middle.tables.rebounded streams middle after) :
    after.tables.Summarized := by
  have observations : ∀ id, after.tables.find? .observation id =
      first.tables.find? .observation id := by
    intro id
    rw [rebounds.others id (by decide), repoints.others id (by decide)]
  apply summarized.of_rows
  · intro id row found
    rw [rebounds.find?] at found
    obtain ⟨old, oldFound, rfl⟩ := Option.map_eq_some_iff.1 found
    split
    next =>
      have anew := BoundsHold.rebounded (repoints.repointed_linked linked) old
      refine .inl (anew.congr ⟨rfl, rfl⟩ (Tables.inDatastream_congr (fun id => ?_) _))
      exact rebounds.others id (by decide)
    next elsewhere =>
      rw [repoints.others id (by decide)] at oldFound
      obtain ⟨oldBefore, stays⟩ := datastreams id old oldFound elsewhere
      refine .inr ⟨oldBefore, fun observation => ?_⟩
      rw [Tables.inDatastream_congr observations]
      exact stays observation
  · intro id row found
    rw [rebounds.others id (by decide), repoints.find?] at found
    obtain ⟨old, oldFound, rfl⟩ := Option.map_eq_some_iff.1 found
    split
    next =>
      have anew := PointersHold.repointed first.tables old
      exact .inl (anew.congr ⟨rfl, rfl⟩ (Tables.inDataset_congr observations _))
    next elsewhere =>
      obtain ⟨oldBefore, stays⟩ := datasets id old oldFound elsewhere
      refine .inr ⟨oldBefore, fun observation => ?_⟩
      rw [Tables.inDataset_congr observations]
      exact stays observation

section Revisions

variable {environment : Environment} {before after : Progress}

theorem Edits.summarized {kind : EntityKind} (edits : Edits environment kind before after)
    (fresh : environment.Fresh [] before) (linked : before.tables.Linked)
    (summarized : before.tables.Summarized) : after.tables.Summarized := by
  obtain ⟨old, new, supplied, found, identified, retains, links, -, followed⟩ := edits
  have freshThen : environment.Fresh [] _ := supplied.fresh fresh
  have linkedThen := supplied.linked fresh linked
  have summarizedThen := supplied.summarized fresh .nil linked summarized
  apply followed.summarized (freshThen.resave found identified) .nil
  · rw [Progress.save_tables]
    exact retains.linked found identified links linkedThen
  · rw [Progress.save_tables]
    by_cases stream : kind = .datastream
    · subst stream
      have same : Datastream.id new = Datastream.id old := identified
      have bounds := summarizedThen.bounds _ old found
      exact summarizedThen.put_datastream (bounds.congr retains.2 fun _ => same ▸ Iff.rfl)
    · apply summarizedThen.put kind new
      rintro (rfl | rfl | rfl)
      · exact retains
      · exact stream rfl
      · exact retains

theorem EditsObservation.summarized (edits : EditsObservation environment before after)
    (fresh : environment.Fresh [] before) (linked : before.tables.Linked)
    (summarized : before.tables.Summarized) : after.tables.Summarized := by
  obtain @⟨first, middle, id, old, new, stream, found, streamFound, refocuses, typed, repoints,
    rebounds⟩ := edits
  obtain ⟨linkedThen, holds⟩ := refocuses.linked fresh linked found
  have summarizedThen := refocuses.supplied.summarized fresh .nil linked summarized
  have oldFound : first.tables.find? .observation new.id = some old := by
    rw [refocuses.others _ (by decide), refocuses.same.1]
    exact Tables.find?_idOf found
  have elsewhere : ∀ observation : Observation, observation ≠ old → observation ≠ new →
      ((first.tables.put .observation new).find? .observation observation.id = some observation ↔
        first.tables.find? .observation observation.id = some observation) := by
    intro observation notOld notNew
    rw [Tables.find?_put]
    split
    next same =>
      have same : new.id = observation.id := same
      rw [← same, oldFound, Option.some.injEq, Option.some.injEq]
      exact iff_of_false notNew.symm notOld.symm
    next => exact Iff.rfl
  refine summarizedThen.anew ?_ ?_ ?_ repoints rebounds
  · rw [Progress.save_tables]
    exact linkedThen.put (fun _ _ => trivial) holds
  · intro place row rowFound outside
    rw [Progress.find?_save_of_ne _ _ _ (by decide)] at rowFound
    refine ⟨rowFound, fun observation => and_congr_left fun same => ?_⟩
    rw [Progress.save_tables]
    apply elsewhere observation
    · rintro rfl
      exact outside (by simp [same])
    · rintro rfl
      exact outside (by simp [same])
  · intro place row rowFound outside
    rw [Progress.find?_save_of_ne _ _ _ (by decide)] at rowFound
    refine ⟨rowFound, fun observation => and_congr_left fun same => ?_⟩
    rw [Progress.save_tables]
    apply elsewhere observation
    · rintro rfl
      exact outside (by simp [refocuses.same.2, same])
    · rintro rfl
      exact outside (by simp [same])

theorem Revision.summarized {kind : EntityKind} (revision : Revision environment before after kind)
    (fresh : environment.Fresh [] before) (linked : before.tables.Linked)
    (summarized : before.tables.Summarized) : after.tables.Summarized := by
  cases revision with
  | entity edits => exact edits.summarized fresh linked summarized
  | observation edits => exact edits.summarized fresh linked summarized

end Revisions

section Removals

variable {id : EntityId} {keys : List Key} {before middle after : Progress}

theorem Drops.inDatastream_iff (drops : Drops keys before after) {id : EntityId}
    (independent : ∀ observation, before.tables.InDatastream id observation →
      ∀ key ∈ keys, ¬EntityKind.observation.DependsOn observation key) (observation : Observation) :
    after.tables.InDatastream id observation ↔ before.tables.InDatastream id observation := by
  rw [Tables.InDatastream, drops, and_right_comm]
  exact and_iff_left_of_imp (independent observation)

theorem Drops.inDataset_iff (drops : Drops keys before after) {id : EntityId}
    (independent : ∀ observation, before.tables.InDataset id observation →
      ∀ key ∈ keys, ¬EntityKind.observation.DependsOn observation key) (observation : Observation) :
    after.tables.InDataset id observation ↔ before.tables.InDataset id observation := by
  rw [Tables.InDataset, drops, and_right_comm]
  exact and_iff_left_of_imp (independent observation)

theorem Tables.InDataset.dependsOn {tables : Tables} (linked : tables.Linked) {dataset : Dataset}
    {observation : Observation} (found : tables.find? .dataset id = some dataset)
    (member : tables.InDataset id observation) {key : Key}
    (owner : key.kind = .datastream ∨ key.kind = .featureOfInterest)
    (depends : EntityKind.observation.DependsOn observation key) :
    EntityKind.dataset.DependsOn dataset key := by
  obtain ⟨observationFound, rfl⟩ := member
  obtain ⟨group, groupFound, paired⟩ := (linked .observation _ observation observationFound).dataset
  rw [found] at groupFound
  obtain rfl := Option.some.inj groupFound
  obtain ⟨kind, target⟩ := key
  rcases owner with rfl | rfl <;>
    simp_all [EntityKind.DependsOn, EntityKind.references]

theorem Drops.summarized_of_datastreams {ids : List EntityId}
    (drops : Drops (ids.map (Key.mk .datastream)) before after) (linked : before.tables.Linked)
    (linkedThen : after.tables.Linked) (summarized : before.tables.Summarized) :
    after.tables.Summarized := by
  refine summarized.anew linkedThen ?_ ?_ (.nil after) (.nil after)
  · intro place row found _
    obtain ⟨foundBefore, stays⟩ := (drops ..).1 found
    refine ⟨foundBefore, drops.inDataset_iff fun observation member key keyMember depends => ?_⟩
    obtain ⟨stream, -, rfl⟩ := List.mem_map.1 keyMember
    exact stays _ keyMember (member.dependsOn linked foundBefore (.inl rfl) depends)
  · intro place row found _
    obtain ⟨foundBefore, stays⟩ := (drops ..).1 found
    refine ⟨foundBefore, drops.inDatastream_iff fun observation member key keyMember depends => ?_⟩
    obtain ⟨stream, -, rfl⟩ := List.mem_map.1 keyMember
    apply stays _ keyMember
    have rowId : Datastream.id row = place := Tables.idOf_of_find? found
    have same : stream = observation.datastream := by
      simpa [EntityKind.DependsOn, EntityKind.references] using depends
    left
    rw [same, member.2, ← rowId]
    rfl

theorem Drops.summarized_of_unreferred {key : Key} (drops : Drops [key] before after)
    (summarized : before.tables.Summarized) (plain : ¬Tables.IsSummed key.kind)
    (unreferred : ∀ kind id row, before.tables.find? kind id = some row →
      key ∉ kind.references row) : after.tables.Summarized := by
  apply summarized.frame
  intro kind id summed
  apply drops.find?_of_unreferred unreferred
  rintro rfl
  exact plain summed

theorem Disowns.summarized {owner : Key} {ids : List EntityId}
    (disowns : Disowns owner ids before after)
    (linked : before.tables.Linked) (summarized : before.tables.Summarized) :
    after.tables.Summarized :=
  disowns.drops.summarized_of_datastreams linked (disowns.linked linked) summarized

theorem Forgets.summarized {ids : List EntityId} (forgets : Forgets ids before after)
    (summarized : before.tables.Summarized) : after.tables.Summarized := by
  apply summarized.frame
  intro kind id summed
  apply forgets.others
  · rintro rfl
    simp [Tables.IsSummed] at summed
  · rintro rfl
    simp [Tables.IsSummed] at summed

theorem Departs.summarized {location : Location} (departs : Departs id location before after)
    (summarized : before.tables.Summarized) : after.tables.Summarized := by
  apply summarized.frame
  intro kind place summed
  apply departs.others
  all_goals
    rintro rfl
    simp [Tables.IsSummed] at summed

theorem summarized_of_feature {streams : List EntityId}
    (drops : Drops [⟨.featureOfInterest, id⟩] before middle)
    (covered : ∀ place (dataset : Dataset), before.tables.find? .dataset place = some dataset →
      dataset.feature = id → dataset.datastream ∈ streams)
    (rebounds : Updates .datastream middle.tables.rebounded streams middle after)
    (linked : before.tables.Linked) (summarized : before.tables.Summarized) :
    after.tables.Summarized := by
  have linkedThen : middle.tables.Linked := by
    apply drops.linked linked
    simpa using linked.closed (.inr rfl)
  refine summarized.anew linkedThen ?_ ?_ (.nil middle) rebounds
  · intro place row found _
    obtain ⟨foundBefore, stays⟩ := (drops ..).1 found
    rw [List.forall_mem_singleton] at stays
    refine ⟨foundBefore, drops.inDataset_iff fun observation member => ?_⟩
    rw [List.forall_mem_singleton]
    exact fun depends => stays (member.dependsOn linked foundBefore (.inr rfl) depends)
  · intro place row found outside
    obtain ⟨foundBefore, -⟩ := (drops ..).1 found
    refine ⟨foundBefore, drops.inDatastream_iff fun observation member => ?_⟩
    rw [List.forall_mem_singleton]
    intro depends
    have same : id = observation.feature := by
      simpa [EntityKind.DependsOn, EntityKind.references] using depends
    obtain ⟨group, groupFound, paired⟩ := (linked .observation _ observation member.1).dataset
    have inStreams := covered _ group groupFound (paired.2.trans same.symm)
    rw [paired.1, member.2] at inStreams
    exact outside inStreams

theorem summarized_of_observation {last : Progress} {observation : Observation}
    (found : before.tables.find? .observation id = some observation)
    (drops : Drops [⟨.observation, id⟩] before middle)
    (repoints : Updates .dataset middle.tables.repointed [observation.dataset] middle last)
    (rebounds : Updates .datastream last.tables.rebounded [observation.datastream] last after)
    (linked : before.tables.Linked) (summarized : before.tables.Summarized) :
    after.tables.Summarized := by
  have unreferred : ∀ kind place row, before.tables.find? kind place = some row →
      ⟨.observation, id⟩ ∉ kind.references row := by
    intro kind place row _
    cases kind <;> simp [EntityKind.references]
  have gone : ∀ other : Observation,
      before.tables.find? .observation other.id = some other →
      EntityKind.observation.DependsOn other ⟨.observation, id⟩ → other = observation := by
    intro other otherFound depends
    have same : id = other.id := by
      simpa [EntityKind.DependsOn, EntityKind.references, EntityKind.idOf] using depends
    rw [← same, found] at otherFound
    exact (Option.some.inj otherFound).symm
  refine summarized.anew (drops.linked_of_unreferred linked unreferred) ?_ ?_ repoints rebounds
  · intro place row rowFound outside
    rw [drops.find?_of_unreferred unreferred place
      (show EntityKind.observation ≠ .dataset by decide)] at rowFound
    refine ⟨rowFound, drops.inDataset_iff fun other member => ?_⟩
    rw [List.forall_mem_singleton]
    intro depends
    obtain rfl := gone other member.1 depends
    exact outside (by simp [member.2])
  · intro place row rowFound outside
    rw [drops.find?_of_unreferred unreferred place
      (show EntityKind.observation ≠ .datastream by decide)] at rowFound
    refine ⟨rowFound, drops.inDatastream_iff fun other member => ?_⟩
    rw [List.forall_mem_singleton]
    intro depends
    obtain rfl := gone other member.1 depends
    exact outside (by simp [member.2])

theorem Removal.summarized {kind : EntityKind} (removal : Removal id before after kind)
    (linked : before.tables.Linked) (summarized : before.tables.Summarized) :
    after.tables.Summarized := by
  cases removal with
  | thing disowns forgets drops =>
    exact drops.summarized_of_unreferred (forgets.summarized (disowns.summarized linked summarized))
      (by simp [Tables.IsSummed]) (disowns.unreferred_of_forgets forgets)
  | location departs => exact departs.summarized summarized
  | historicalLocation forgets => exact forgets.summarized summarized
  | sensor disowns drops =>
    exact drops.summarized_of_unreferred (disowns.summarized linked summarized)
      (by simp [Tables.IsSummed]) (disowns.unreferred_of_ne_thing (.inl rfl))
  | observedProperty disowns drops =>
    exact drops.summarized_of_unreferred (disowns.summarized linked summarized)
      (by simp [Tables.IsSummed]) (disowns.unreferred_of_ne_thing (.inr rfl))
  | datastream drops =>
    have dropped : Drops ([id].map (Key.mk .datastream)) before after := drops
    apply dropped.summarized_of_datastreams linked _ summarized
    apply drops.linked linked
    simpa using linked.closed (.inl rfl)
  | feature drops covered rebounds =>
    exact summarized_of_feature drops covered rebounds linked summarized
  | observation observation found drops repoints rebounds =>
    exact summarized_of_observation found drops repoints rebounds linked summarized

end Removals

theorem Alteration.summarized {environment : Environment} {before after : Progress}
    {request : ChangeRequest} (alteration : Alteration environment before after request)
    (fresh : environment.Fresh request.keys before) (distinct : request.keys.Nodup)
    (linked : before.tables.Linked) (summarized : before.tables.Summarized) :
    after.tables.Summarized := by
  cases alteration with
  | created creation => exact creation.summarized fresh distinct linked summarized
  | revised revision => exact revision.summarized fresh linked summarized
  | removed removal => exact removal.summarized linked summarized

namespace Change

variable {environment : Environment} {before : Progress} {id : EntityId}

theorem exists_summarizeDataset :
    ∃ after, (summarizeDataset id).Returns environment before () after := by
  unfold summarizeDataset
  simp only [returns_bind, returns_find? .dataset]
  cases found : before.tables.find? .dataset id with
  | none => exact ⟨before, none, before, ⟨rfl, rfl⟩, returns_pure.2 ⟨rfl, rfl⟩⟩
  | some dataset =>
    exact ⟨_, some dataset, before, ⟨rfl, rfl⟩,
      returns_bind.2 ⟨_, _, returns_tables.2 ⟨rfl, rfl⟩, returns_save.2 rfl⟩⟩

theorem exists_summarizeDatastream :
    ∃ after, (summarizeDatastream id).Returns environment before () after := by
  unfold summarizeDatastream
  simp only [returns_bind, returns_find? .datastream]
  cases found : before.tables.find? .datastream id with
  | none => exact ⟨before, none, before, ⟨rfl, rfl⟩, returns_pure.2 ⟨rfl, rfl⟩⟩
  | some datastream =>
    exact ⟨_, some datastream, before, ⟨rfl, rfl⟩,
      returns_bind.2 ⟨_, _, returns_idsWhere.2 ⟨rfl, rfl⟩,
        returns_bind.2 ⟨_, _, returns_tables.2 ⟨rfl, rfl⟩, returns_save.2 rfl⟩⟩⟩

end Change

theorem Updates.tables_eq {kind : EntityKind} {f : kind.Entity → kind.Entity} {ids : List EntityId}
    {before after : Progress} (updates : Updates kind f ids before after)
    (fixed : ∀ id row, before.tables.find? kind id = some row → f row = row) :
    after.tables = before.tables := by
  apply Tables.ext_find?
  intro other id
  by_cases same : other = kind
  · subst same
    rw [updates.find?]
    cases found : before.tables.find? other id with
    | none => rfl
    | some row => rw [Option.map_some, fixed id row found, ite_self]
  · exact updates.others id same

/-- An interval that a datastream has for a bound, or an observation for a time. -/
inductive Tables.Stores (tables : Tables) (interval : Interval) : Prop where
  | bound {id : EntityId} {datastream : Datastream}
      (found : tables.find? .datastream id = some datastream)
      (here : datastream.phenomenonTime = some interval ∨ datastream.resultTime = some interval)
  | time {id : EntityId} {observation : Observation}
      (found : tables.find? .observation id = some observation)
      (here : observation.phenomenonTime = .interval interval ∨
        observation.validTime = some interval)

namespace Store

theorem change_of_returns {α : Type} {store : Store} {environment : Environment} {change : Change α}
    {value : α} {after : Progress}
    (ran : change.Returns environment (.start store.tables) value after) :
    (store.change environment change).1 = .ok value ∧
      (store.change environment change).2.tables = after.tables := by
  unfold Store.change Change.start
  have outcome : change environment ⟨.start store.tables, 0⟩ = .ok value after := ran
  rw [outcome]
  exact ⟨rfl, rfl⟩

theorem Reachable.summarized {allowed : ChangeRequest → Prop} {store : Store}
    (reachable : store.Reachable allowed)
    (distinct : ∀ request, allowed request → request.keys.Nodup) : store.tables.Summarized :=
  reachable.tables_induction Tables.summarized_empty
    fun _ request _ _ isAllowed fresh linked summarized alteration =>
      alteration.summarized fresh (distinct request isAllowed) linked summarized

/-- In every store that is reached by requests whose bodies differ in their keys, bounds are the
hulls of the times of observations, pointers name the first and the last observation as it is now,
no interval ends before it starts, and finding bounds and pointers anew changes nothing. -/
theorem reachable_summaries {store : Store}
    (reachable : store.Reachable fun request => request.keys.Nodup) :
    (∀ id datastream, store.tables.find? .datastream id = some datastream →
      store.tables.BoundsHold datastream) ∧
    (∀ id dataset, store.tables.find? .dataset id = some dataset →
      store.tables.PointersHold dataset) ∧
    (∀ interval, store.tables.Stores interval →
      Instant.isBefore interval.stop interval.start = false) ∧
    ∀ environment id,
      ((store.change environment (Change.summarizeDataset id)).1 = .ok () ∧
        (store.change environment (Change.summarizeDataset id)).2.tables = store.tables) ∧
      (store.change environment (Change.summarizeDatastream id)).1 = .ok () ∧
        (store.change environment (Change.summarizeDatastream id)).2.tables = store.tables := by
  have linked : store.tables.Linked := reachable.linked
  have summarized := reachable.summarized fun _ distinct => distinct
  refine ⟨summarized.bounds, summarized.pointers, fun interval _ => interval.ordered, ?_⟩
  intro environment id
  constructor
  · obtain ⟨after, ran⟩ := Change.exists_summarizeDataset
    obtain ⟨succeeded, result⟩ := change_of_returns ran
    refine ⟨succeeded, result.trans (ran.summarizeDataset.tables_eq fun place row found => ?_)⟩
    exact (summarized.pointers place row found).repointed_eq
  · obtain ⟨after, ran⟩ := Change.exists_summarizeDatastream
    obtain ⟨succeeded, result⟩ := change_of_returns ran
    refine ⟨succeeded, result.trans (ran.summarizeDatastream.tables_eq fun place row found => ?_)⟩
    exact (summarized.bounds place row found).rebounded_eq linked

end Store

namespace EarlierObservation

open FirstObservation (environment later)

theorem bounded :
    ((store.tables.find? .datastream (environment.fresh 2)).bind fun stream =>
      (Datastream.phenomenonTime stream).map fun hull => (hull.start, hull.stop)) =
        some (default, fifthDay) ∧
    ((store.tables.find? .dataset (environment.fresh 9)).map fun (dataset : Dataset) =>
      (dataset.firstObservation.map ObservationPointer.observation,
        dataset.lastObservation.map ObservationPointer.observation)) =
      some (some (later.fresh 1), some (environment.fresh 7)) := by
  unfold store observed Store.change Change.start request earlier
  simp only [Change.ofRequest, Change.create, Change.draft, read_body, read_first]
  decide +kernel

end EarlierObservation

namespace Store

open FirstObservation (environment later) in
open EarlierObservation in
/-- The bounds of the first stream reach from its second observation to its first, and its dataset
points at them in that order. -/
theorem reachable_summaries_earlier_observation :
    ∃ (stream : Datastream) (dataset : Dataset) (hull : Interval),
      store.tables.find? .datastream (environment.fresh 2) = some stream ∧
      store.tables.find? .dataset (environment.fresh 9) = some dataset ∧
      stream.phenomenonTime = some hull ∧ (hull.start, hull.stop) = (default, fifthDay) ∧
      dataset.firstObservation.map ObservationPointer.observation = some (later.fresh 1) ∧
      dataset.lastObservation.map ObservationPointer.observation = some (environment.fresh 7) ∧
      store.tables.BoundsHold stream ∧ store.tables.PointersHold dataset := by
  obtain ⟨stream, streamFound, spans⟩ := Option.bind_eq_some_iff.1 bounded.1
  obtain ⟨hull, isHull, ends⟩ := Option.map_eq_some_iff.1 spans
  obtain ⟨dataset, datasetFound, points⟩ := Option.map_eq_some_iff.1 bounded.2
  obtain ⟨first, last⟩ := Prod.mk.inj points
  have distinct : request.keys.Nodup ∧ earlier.keys.Nodup := by
    rw [keys_request, keys_earlier]
    exact ⟨.nil, .nil⟩
  obtain ⟨bounds, pointers, -⟩ := reachable_summaries (reachable distinct.1 distinct.2)
  exact ⟨stream, dataset, hull, streamFound, datasetFound, isHull, ends, first, last,
    bounds _ _ streamFound, pointers _ _ datasetFound⟩

end Store

end SensorThings
