import SensorThings.Change.Removal
import SensorThings.Proofs.Change.Removal

/-!
Runs of removals. Each takes away what a removal of its kind does, provided that the links hold
before: they tell which observations go with a dataset.
-/
namespace SensorThings

namespace Change

variable {environment : Environment} {before after : Progress} {id : EntityId}

theorem Returns.deletes {kind : EntityKind} {ids : List EntityId}
    (ran : (ids.forM fun id => do let _ ← Change.delete kind id).Returns environment before ()
      after) : Rewrites kind (fun _ => none) ids before after := by
  apply Rewrites.forM (by simp) _ ran
  intro id first last one
  obtain ⟨row, middle, deleted, ended⟩ := returns_bind.1 one
  obtain ⟨-, rfl⟩ := returns_pure.1 ended
  exact .delete deleted rfl

theorem Returns.clears {ids : List EntityId}
    (ran : (ids.forM fun id => do
      let dataset : Dataset ← Change.fetch .dataset id
      Change.save .dataset dataset.withoutPointers).Returns environment before () after) :
    Updates .dataset Dataset.withoutPointers ids before after := by
  apply Updates.forM Dataset.withoutPointers_withoutPointers _ ran
  intro id start stop one
  simp only [returns_bind, returns_fetch .dataset, returns_save] at one
  obtain ⟨dataset, _, ⟨found, rfl⟩, rfl⟩ := one
  exact .save found rfl

theorem Returns.removeDatasets {ids : List EntityId}
    (ran : (removeDatasets ids).Returns environment before () after) :
    Drops (ids.map (Key.mk .dataset)) before after := by
  unfold Change.removeDatasets at ran
  simp only [returns_bind, returns_idsWhere] at ran
  obtain ⟨_, first, cleared, members, _, ⟨rfl, rfl⟩, _, second, emptied, dropped⟩ := ran
  exact .of_datasets cleared.clears emptied.deletes dropped.deletes

theorem Returns.removeDatastream (ran : (removeDatastream id).Returns environment before () after)
    (linked : before.tables.Linked) : Drops [⟨.datastream, id⟩] before after := by
  unfold Change.removeDatastream at ran
  simp only [returns_bind, returns_existing, returns_idsWhere, returns_pure] at ran
  obtain ⟨_, _, ⟨-, -, rfl⟩, datasets, _, ⟨selected, rfl⟩, _, middle, dropped, row, _, deleted, -,
    rfl⟩ := ran
  refine .of_owner (.inl rfl) linked (fun dataset => ?_) dropped.removeDatasets deleted
  rw [← selected, Tables.mem_idsWhere_iff]
  refine exists_congr fun entity => and_congr_right fun _ => ?_
  rw [beq_iff_eq, eq_comm]
  simp [EntityKind.references]

theorem Returns.removeDatastreams {ids : List EntityId}
    (ran : (ids.forM Change.removeDatastream).Returns environment before () after)
    (linked : before.tables.Linked) : Drops (ids.map (Key.mk .datastream)) before after := by
  induction ids generalizing before with
  | nil =>
    obtain rfl := returns_forM_nil.1 ran
    exact fun _ _ _ => by simp
  | cons id rest ih =>
    obtain ⟨middle, first, ran⟩ := returns_forM_cons.1 ran
    have one := first.removeDatastream linked
    have between : middle.tables.Linked := by
      apply one.linked linked
      simpa using linked.closed (.inl rfl)
    exact one.append (ih ran between)

theorem Returns.disowns {owner : Key} {keep : Datastream → Bool}
    (ran : ((before.tables.idsWhere .datastream keep).forM Change.removeDatastream).Returns
      environment before () after) (linked : before.tables.Linked)
    (kept : ∀ row, keep row = true ↔ owner ∈ EntityKind.datastream.references row) :
    Disowns owner (before.tables.idsWhere .datastream keep) before after where
  members := by
    intro id
    rw [Tables.mem_idsWhere_iff]
    exact exists_congr fun row => and_congr_right fun _ => kept row
  drops := ran.removeDatastreams linked

theorem Returns.removeFeature (ran : (removeFeature id).Returns environment before () after)
    (linked : before.tables.Linked) : Removal id before after .featureOfInterest := by
  unfold Change.removeFeature at ran
  simp only [returns_bind, returns_existing, returns_tables] at ran
  obtain ⟨_, _, ⟨-, -, rfl⟩, _, _, ⟨rfl, rfl⟩, _, first, dropped, row, middle, deleted, ran⟩ := ran
  refine .feature (.of_owner (.inr rfl) linked (fun place => ?_) dropped.removeDatasets deleted) ?_
    ran.summarizeDatastreams
  · have members : place ∈ before.tables.idsWhere .dataset (fun dataset =>
        Dataset.feature dataset == id) ↔ _ := Tables.mem_idsWhere_iff
    apply members.trans
    refine exists_congr fun entity => and_congr_right fun _ => ?_
    rw [beq_iff_eq, eq_comm]
    simp [EntityKind.references]
  · intro place dataset found same
    rw [IdSet.mem_ofIds_iff]
    refine List.mem_map_of_mem (List.mem_filter.2 ⟨?_, by simpa using same⟩)
    exact Tables.mem_entities_iff.2 (Tables.find?_idOf found)

theorem Returns.removeObservation
    (ran : (removeObservation id).Returns environment before () after) :
    Removal id before after .observation := by
  unfold Change.removeObservation at ran
  simp only [returns_bind] at ran
  obtain ⟨observation, middle, deleted, _, last, repointed, rebounded⟩ := ran
  refine .observation observation deleted.delete.1 (.of_delete deleted ?_)
    repointed.summarizeDataset rebounded.summarizeDatastream
  intro kind place row _
  cases kind <;> simp [EntityKind.references]

theorem Returns.removeHistoricalLocation {ids : List EntityId} {last : Progress}
    (ran : (removeHistoricalLocation id).Returns environment before () after)
    (rest : Forgets ids after last) : Forgets (id :: ids) before last := by
  unfold Change.removeHistoricalLocation at ran
  obtain ⟨historical, middle, deleted, ran⟩ := returns_bind.1 ran
  refine .cons deleted.delete.1 (.delete deleted rfl) ?_ rest
  apply Updates.forM (Location.forgetting_forgetting id) _ ran
  intro place first last one
  simp only [returns_bind, returns_find? .location] at one
  obtain ⟨row, _, ⟨found, rfl⟩, one⟩ := one
  cases row with
  | none =>
    obtain ⟨-, rfl⟩ := returns_pure.1 one
    exact .absent found
  | some location =>
    obtain rfl := returns_save.1 one
    exact .save found rfl

theorem Returns.removeHistoricalLocations {ids : List EntityId}
    (ran : (ids.forM Change.removeHistoricalLocation).Returns environment before () after) :
    Forgets ids before after := by
  induction ids generalizing before with
  | nil =>
    obtain rfl := returns_forM_nil.1 ran
    exact .nil before
  | cons id rest ih =>
    obtain ⟨middle, first, ran⟩ := returns_forM_cons.1 ran
    exact first.removeHistoricalLocation (ih ran)

theorem Returns.removeSensor (ran : (removeSensor id).Returns environment before () after)
    (linked : before.tables.Linked) : Removal id before after .sensor := by
  unfold Change.removeSensor at ran
  simp only [returns_bind, returns_existing, returns_idsWhere, returns_pure] at ran
  obtain ⟨_, _, ⟨-, -, rfl⟩, _, _, ⟨rfl, rfl⟩, _, middle, dropped, row, _, deleted, -, rfl⟩ := ran
  have disowns : Disowns ⟨.sensor, id⟩ _ before middle := dropped.disowns linked fun row => by
    rw [beq_iff_eq, eq_comm]
    simp [EntityKind.references]
  exact .sensor disowns (.of_delete deleted (disowns.unreferred_of_ne_thing (.inl rfl)))

theorem Returns.removeObservedProperty
    (ran : (removeObservedProperty id).Returns environment before () after)
    (linked : before.tables.Linked) : Removal id before after .observedProperty := by
  unfold Change.removeObservedProperty at ran
  simp only [returns_bind, returns_existing, returns_idsWhere, returns_pure] at ran
  obtain ⟨_, _, ⟨-, -, rfl⟩, _, _, ⟨rfl, rfl⟩, _, middle, dropped, row, _, deleted, -, rfl⟩ := ran
  have disowns : Disowns ⟨.observedProperty, id⟩ _ before middle :=
    dropped.disowns linked fun row => by
      rw [beq_iff_eq, eq_comm]
      simp [EntityKind.references]
  exact .observedProperty disowns (.of_delete deleted (disowns.unreferred_of_ne_thing (.inr rfl)))

theorem Returns.removeThing (ran : (removeThing id).Returns environment before () after)
    (linked : before.tables.Linked) : Removal id before after .thing := by
  unfold Change.removeThing at ran
  simp only [returns_bind, returns_existing, returns_idsWhere, returns_pure] at ran
  obtain ⟨_, _, ⟨-, -, rfl⟩, _, _, ⟨rfl, rfl⟩, _, first, dropped, _, _, ⟨rfl, rfl⟩, _, second,
    forgotten, thing, _, deleted, -, rfl⟩ := ran
  have disowns : Disowns ⟨.thing, id⟩ _ before first := dropped.disowns linked fun row => by
    rw [beq_iff_eq, eq_comm]
    simp [EntityKind.references]
  have forgets := forgotten.removeHistoricalLocations
  exact .thing disowns forgets (.of_delete deleted (disowns.unreferred_of_forgets forgets))

theorem Returns.removeLocation (ran : (removeLocation id).Returns environment before () after) :
    Removal id before after .location := by
  unfold Change.removeLocation at ran
  simp only [returns_bind, returns_idsWhere] at ran
  obtain ⟨location, first, deleted, things, _, ⟨rfl, rfl⟩, _, second, left, ran⟩ := ran
  have departed : Updates .thing (Thing.leaving id)
      (first.tables.idsWhere .thing fun thing => (Thing.locations thing).contains id) first
      second := by
    apply Updates.forM (Thing.leaving_leaving id) _ left
    intro place start stop one
    simp only [returns_bind, returns_fetch .thing, returns_save] at one
    obtain ⟨thing, _, ⟨found, rfl⟩, rfl⟩ := one
    exact .save found rfl
  have revisited : Rewrites .historicalLocation (HistoricalLocation.leaving id)
      location.historicalLocations.items second after := by
    apply Rewrites.forM (HistoricalLocation.leaving_leaving id) _ ran
    intro place start stop one
    simp only [returns_bind, returns_find? .historicalLocation] at one
    obtain ⟨row, _, ⟨found, rfl⟩, one⟩ := one
    cases row with
    | none =>
      obtain ⟨-, rfl⟩ := returns_pure.1 one
      exact .absent found
    | some historical =>
      simp only [returns_ite, returns_bind, returns_pure, returns_save] at one
      obtain ⟨gone, _, _, deleted, -, rfl⟩ | ⟨remains, rfl⟩ := one
      · refine .delete deleted ?_
        obtain rfl := Option.some.inj (found.symm.trans deleted.delete.1)
        exact if_pos gone
      · exact .save found (if_neg remains) rfl
  exact .location (.of_rewrites deleted.delete.1 (.delete deleted rfl) departed revisited)

theorem Returns.remove {kind : EntityKind}
    (ran : (remove kind id).Returns environment before () after) (linked : before.tables.Linked) :
    Removal id before after kind := by
  cases kind
  case thing => exact Returns.removeThing ran linked
  case location => exact Returns.removeLocation ran
  case historicalLocation =>
    exact .historicalLocation (Returns.removeHistoricalLocation ran (.nil _))
  case sensor => exact Returns.removeSensor ran linked
  case observedProperty => exact Returns.removeObservedProperty ran linked
  case datastream => exact .datastream (Returns.removeDatastream ran linked)
  case featureOfInterest => exact Returns.removeFeature ran linked
  case observation => exact Returns.removeObservation ran
  all_goals exact (returns_throw.1 ran).elim

end Change

end SensorThings
