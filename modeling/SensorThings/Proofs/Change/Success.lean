import SensorThings.Proofs.Change.Bounds

/-!
Removals that cannot fail. Whatever a cascade deletes or reads is still there when its turn comes:
identifiers are collected without repetition, and a step takes away nothing that a later one needs.
-/
namespace SensorThings

theorem Drops.contains {keys : List Key} {before after : Progress}
    (drops : Drops keys before after) {kind : EntityKind} {id : EntityId}
    (independent : ∀ row, before.tables.find? kind id = some row →
      ∀ key ∈ keys, ¬kind.DependsOn row key)
    (there : before.tables.contains kind id = true) : after.tables.contains kind id = true := by
  obtain ⟨row, found⟩ := Tables.contains_iff.1 there
  exact Tables.contains_of_find? ((drops ..).2 ⟨found, independent row found⟩)

theorem Drops.contains_datastream {id place : EntityId} {before after : Progress}
    (drops : Drops [⟨.datastream, id⟩] before after) (different : place ≠ id)
    (there : before.tables.contains .datastream place = true) :
    after.tables.contains .datastream place = true := by
  apply drops.contains _ there
  intro row found
  have same : Datastream.id row = place := Tables.idOf_of_find? found
  simpa [EntityKind.DependsOn, EntityKind.references, EntityKind.idOf, same] using different.symm

namespace Change

variable {α β : Type} {environment : Environment} {before : Progress}

def Succeeds (change : Change α) (environment : Environment) (before : Progress) : Prop :=
  ∃ value after, change.Returns environment before value after

theorem Succeeds.bind {change : Change α} {next : α → Change β}
    (first : change.Succeeds environment before)
    (rest : ∀ value after, change.Returns environment before value after →
      (next value).Succeeds environment after) :
    (change >>= next).Succeeds environment before := by
  obtain ⟨value, middle, ran⟩ := first
  obtain ⟨result, after, ranOn⟩ := rest value middle ran
  exact ⟨result, after, returns_bind.2 ⟨value, middle, ran, ranOn⟩⟩

theorem succeeds_pure (value : α) : (pure value : Change α).Succeeds environment before :=
  ⟨value, before, returns_pure.2 ⟨rfl, rfl⟩⟩

theorem succeeds_tables : Change.tables.Succeeds environment before :=
  ⟨_, _, returns_tables.2 ⟨rfl, rfl⟩⟩

theorem succeeds_find? (kind : EntityKind) (id : EntityId) :
    (Change.find? kind id).Succeeds environment before :=
  ⟨_, _, (returns_find? kind).2 ⟨rfl, rfl⟩⟩

theorem succeeds_save (kind : EntityKind) (entity : kind.Entity) :
    (Change.save kind entity).Succeeds environment before :=
  ⟨(), _, returns_save.2 rfl⟩

theorem succeeds_fetch {kind : EntityKind} {id : EntityId}
    (there : before.tables.contains kind id = true) :
    (Change.fetch kind id).Succeeds environment before := by
  obtain ⟨entity, found⟩ := Tables.contains_iff.1 there
  exact ⟨entity, before, (returns_fetch kind).2 ⟨found, rfl⟩⟩

theorem Succeeds.after_existing {kind : EntityKind} {id : EntityId} {next : EntityId → Change α}
    (there : before.tables.contains kind id = true)
    (rest : (next id).Succeeds environment before) :
    (Change.existing kind id >>= next).Succeeds environment before :=
  Succeeds.bind ⟨id, before, returns_existing.2 ⟨there, rfl, rfl⟩⟩ fun _ _ existed => by
    obtain ⟨-, rfl, rfl⟩ := returns_existing.1 existed
    exact rest

theorem Succeeds.after_idsWhere {kind : EntityKind} {keep : kind.Entity → Bool}
    {next : List EntityId → Change α}
    (rest : (next (before.tables.idsWhere kind keep)).Succeeds environment before) :
    (Change.idsWhere kind keep >>= next).Succeeds environment before :=
  Succeeds.bind ⟨_, before, returns_idsWhere.2 ⟨rfl, rfl⟩⟩ fun _ _ selected => by
    obtain ⟨rfl, rfl⟩ := returns_idsWhere.1 selected
    exact rest

theorem succeeds_delete {kind : EntityKind} {id : EntityId}
    (there : before.tables.contains kind id = true) :
    (Change.delete kind id).Succeeds environment before := by
  obtain ⟨entity, found⟩ := Tables.contains_iff.1 there
  exact ⟨entity, exists_delete found⟩

theorem succeeds_forM {action : α → Change Unit} (needs : List α → Progress → Prop)
    (step : ∀ item rest first, needs (item :: rest) first →
      (action item).Succeeds environment first ∧
        ∀ last, (action item).Returns environment first () last → needs rest last)
    {items : List α} (ready : needs items before) :
    (items.forM action).Succeeds environment before := by
  induction items generalizing before with
  | nil => exact ⟨(), before, returns_forM_nil.2 rfl⟩
  | cons item rest ih =>
    obtain ⟨⟨_, middle, ran⟩, kept⟩ := step item rest before ready
    obtain ⟨_, after, ranOn⟩ := ih (kept middle ran)
    exact ⟨(), after, returns_forM_cons.2 ⟨middle, ran, ranOn⟩⟩

/-- Entities are there, each named once. -/
structure Stand (kind : EntityKind) (ids : List EntityId) (progress : Progress) : Prop where
  distinct : ids.Nodup
  there : ∀ id ∈ ids, progress.tables.contains kind id = true

namespace Stand

variable {kind : EntityKind} {id : EntityId} {ids : List EntityId} {middle after : Progress}

theorem idsWhere (keep : kind.Entity → Bool) (progress : Progress) :
    Stand kind (progress.tables.idsWhere kind keep) progress where
  distinct := (progress.tables.nodup_ids kind).sublist (List.filter_sublist.map kind.idOf)
  there := by
    intro id member
    obtain ⟨entity, found, -⟩ := Tables.mem_idsWhere_iff.1 member
    exact Tables.contains_of_find? found

theorem head (stand : Stand kind (id :: ids) before) : before.tables.contains kind id = true :=
  stand.there id List.mem_cons_self

theorem later (stand : Stand kind ids before)
    (kept : ∀ id ∈ ids, before.tables.contains kind id = true →
      after.tables.contains kind id = true) : Stand kind ids after where
  distinct := stand.distinct
  there := fun id member => kept id member (stand.there id member)

theorem tail (stand : Stand kind (id :: ids) before)
    (kept : ∀ other, other ≠ id → before.tables.contains kind other = true →
      after.tables.contains kind other = true) : Stand kind ids after where
  distinct := (List.nodup_cons.1 stand.distinct).2
  there := fun other member =>
    kept other (ne_of_mem_of_not_mem member (List.nodup_cons.1 stand.distinct).1)
      (stand.there other (List.mem_cons_of_mem _ member))

end Stand

theorem Returns.contains_of_delete {kind other : EntityKind} {id place : EntityId}
    {entity : kind.Entity} {after : Progress}
    (ran : (Change.delete kind id).Returns environment before entity after)
    (different : other = kind → place ≠ id) (there : before.tables.contains other place = true) :
    after.tables.contains other place = true := by
  obtain ⟨-, removed, -⟩ := ran.delete
  rw [Tables.contains, removed]
  by_cases same : other = kind
  · subst same
    rwa [Tables.find?_remove, if_neg (different rfl)]
  · rwa [Tables.find?_remove_of_ne _ _ _ same]

theorem succeeds_deletes {kind : EntityKind} {ids : List EntityId} (stand : Stand kind ids before) :
    (ids.forM fun id => do let _ ← Change.delete kind id).Succeeds environment before := by
  refine succeeds_forM (Stand kind) (fun id rest first stand => ⟨?_, fun last ran => ?_⟩) stand
  · exact (succeeds_delete stand.head).bind fun _ _ _ => succeeds_pure ()
  · obtain ⟨_, _, deleted, ended⟩ := returns_bind.1 ran
    obtain ⟨-, rfl⟩ := returns_pure.1 ended
    exact stand.tail fun other different => deleted.contains_of_delete fun _ => different

theorem succeeds_clears {ids : List EntityId} (stand : Stand .dataset ids before) :
    (ids.forM fun id => do
      let dataset : Dataset ← Change.fetch .dataset id
      Change.save .dataset dataset.withoutPointers).Succeeds environment before := by
  refine succeeds_forM (Stand .dataset) (fun id rest first stand => ⟨?_, fun last ran => ?_⟩) stand
  · exact (succeeds_fetch stand.head).bind fun _ _ _ => succeeds_save _ _
  · obtain ⟨_, _, fetched, saved⟩ := returns_bind.1 ran
    obtain ⟨-, rfl⟩ := (returns_fetch .dataset).1 fetched
    obtain rfl := returns_save.1 saved
    exact stand.tail fun other _ there => Progress.contains_save there ..

theorem succeeds_removeDatasets {ids : List EntityId} (stand : Stand .dataset ids before) :
    (removeDatasets ids).Succeeds environment before := by
  refine (succeeds_clears stand).bind fun _ first cleared => ?_
  refine Succeeds.after_idsWhere ?_
  refine (succeeds_deletes (.idsWhere _ first)).bind fun _ second emptied => ?_
  apply succeeds_deletes
  apply stand.later
  intro id _ there
  rw [Tables.contains, emptied.deletes.others id (by decide)]
  rwa [← cleared.clears.contains] at there

theorem succeeds_removeDatastream {id : EntityId}
    (there : before.tables.contains .datastream id = true) :
    (removeDatastream id).Succeeds environment before := by
  refine Succeeds.after_existing there ?_
  refine Succeeds.after_idsWhere ?_
  refine (succeeds_removeDatasets (.idsWhere _ _)).bind fun _ middle dropped => ?_
  refine (succeeds_delete ?_).bind fun _ _ _ => succeeds_pure ()
  apply dropped.removeDatasets.contains _ there
  simp [EntityKind.DependsOn, EntityKind.references]

theorem succeeds_removeDatastreams {ids : List EntityId} (stand : Stand .datastream ids before)
    (linked : before.tables.Linked) :
    (ids.forM removeDatastream).Succeeds environment before := by
  refine succeeds_forM (fun rest progress => Stand .datastream rest progress ∧
    progress.tables.Linked) (fun id rest first ready => ⟨?_, fun last ran => ?_⟩) ⟨stand, linked⟩
  · exact succeeds_removeDatastream ready.1.head
  · have drops := ran.removeDatastream ready.2
    refine ⟨ready.1.tail fun other different => Drops.contains_datastream drops different, ?_⟩
    exact drops.linked ready.2 (by simpa using ready.2.closed (.inl rfl))

theorem succeeds_removeHistoricalLocation {id : EntityId}
    (there : before.tables.contains .historicalLocation id = true) :
    (removeHistoricalLocation id).Succeeds environment before := by
  refine (succeeds_delete there).bind fun historical middle _ => ?_
  refine succeeds_forM (fun _ _ => True) (fun place rest first _ => ⟨?_, fun _ _ => trivial⟩)
    trivial
  refine (succeeds_find? .location place).bind fun location _ _ => ?_
  cases location with
  | none => exact succeeds_pure ()
  | some row => exact succeeds_save _ _

theorem succeeds_removeHistoricalLocations {ids : List EntityId}
    (stand : Stand .historicalLocation ids before) :
    (ids.forM removeHistoricalLocation).Succeeds environment before := by
  refine succeeds_forM (Stand .historicalLocation) (fun id rest first stand => ⟨?_, ?_⟩) stand
  · exact succeeds_removeHistoricalLocation stand.head
  · intro last ran
    have forgets : Forgets [id] first last := ran.removeHistoricalLocation (.nil _)
    refine stand.tail fun other different there => ?_
    rwa [Tables.contains, forgets.records, if_neg (by simpa using different)]

theorem succeeds_removeThing {id : EntityId} (there : before.tables.contains .thing id = true)
    (linked : before.tables.Linked) : (removeThing id).Succeeds environment before := by
  refine Succeeds.after_existing there ?_
  refine Succeeds.after_idsWhere ?_
  refine (succeeds_removeDatastreams (.idsWhere _ _) linked).bind fun _ first dropped => ?_
  refine Succeeds.after_idsWhere ?_
  refine (succeeds_removeHistoricalLocations (.idsWhere _ _)).bind fun _ second forgotten => ?_
  refine (succeeds_delete ?_).bind fun _ _ _ => succeeds_pure ()
  rw [Tables.contains, forgotten.removeHistoricalLocations.others id (by decide) (by decide)]
  apply (dropped.removeDatastreams linked).contains _ there
  simp [EntityKind.DependsOn, EntityKind.references]

theorem succeeds_removeTool {kind : EntityKind} {id : EntityId} {keep : Datastream → Bool}
    (tool : kind = .sensor ∨ kind = .observedProperty)
    (there : before.tables.contains kind id = true) (linked : before.tables.Linked) :
    Succeeds (do
      let _ ← Change.existing kind id
      let datastreams ← Change.idsWhere .datastream keep
      datastreams.forM removeDatastream
      let _ ← Change.delete kind id) environment before := by
  refine Succeeds.after_existing there ?_
  refine Succeeds.after_idsWhere ?_
  refine (succeeds_removeDatastreams (.idsWhere _ _) linked).bind fun _ middle dropped => ?_
  refine (succeeds_delete ?_).bind fun _ _ _ => succeeds_pure ()
  apply (dropped.removeDatastreams linked).contains _ there
  rcases tool with rfl | rfl <;> simp [EntityKind.DependsOn, EntityKind.references]

theorem succeeds_removeLocation {id : EntityId}
    (there : before.tables.contains .location id = true) :
    (removeLocation id).Succeeds environment before := by
  refine (succeeds_delete there).bind fun location first _ => ?_
  refine Succeeds.after_idsWhere ?_
  refine Succeeds.bind ?_ fun _ second _ => ?_
  · refine succeeds_forM (Stand .thing) (fun place rest middle stand => ⟨?_, fun last ran => ?_⟩)
      (.idsWhere _ _)
    · exact (succeeds_fetch stand.head).bind fun _ _ _ => succeeds_save _ _
    · obtain ⟨_, _, fetched, saved⟩ := returns_bind.1 ran
      obtain ⟨-, rfl⟩ := (returns_fetch .thing).1 fetched
      obtain rfl := returns_save.1 saved
      exact stand.tail fun other _ there => Progress.contains_save there ..
  · refine succeeds_forM (fun _ _ => True) (fun place rest middle _ => ⟨?_, fun _ _ => trivial⟩)
      trivial
    refine (succeeds_find? .historicalLocation place).bind fun historical _ read => ?_
    obtain ⟨found, rfl⟩ := (returns_find? .historicalLocation).1 read
    cases historical with
    | none => exact succeeds_pure ()
    | some row =>
      dsimp only
      split
      · exact (succeeds_delete (Tables.contains_of_find? found)).bind fun _ _ _ => succeeds_pure ()
      · exact succeeds_save _ _

theorem succeeds_summarizeDatastream (id : EntityId) :
    (summarizeDatastream id).Succeeds environment before := by
  obtain ⟨after, ran⟩ := exists_summarizeDatastream
  exact ⟨(), after, ran⟩

theorem succeeds_removeFeature {id : EntityId}
    (there : before.tables.contains .featureOfInterest id = true) :
    (removeFeature id).Succeeds environment before := by
  refine Succeeds.after_existing there ?_
  refine succeeds_tables.bind fun _ _ read => ?_
  obtain ⟨rfl, rfl⟩ := returns_tables.1 read
  have stand : Stand .dataset (before.tables.idsWhere .dataset fun dataset =>
      Dataset.feature dataset == id) before := .idsWhere _ _
  refine (succeeds_removeDatasets stand).bind fun _ middle dropped => ?_
  refine (succeeds_delete ?_).bind fun _ last _ => ?_
  · apply dropped.removeDatasets.contains _ there
    simp [EntityKind.DependsOn, EntityKind.references]
  · exact succeeds_forM (fun _ _ => True) (fun _ _ _ _ =>
      ⟨succeeds_summarizeDatastream _, fun _ _ => trivial⟩) trivial

theorem succeeds_removeObservation {id : EntityId}
    (there : before.tables.contains .observation id = true) :
    (removeObservation id).Succeeds environment before := by
  refine (succeeds_delete there).bind fun observation middle _ => ?_
  obtain ⟨last, repointed⟩ := exists_summarizeDataset
  exact Succeeds.bind ⟨(), last, repointed⟩ fun _ _ _ => succeeds_summarizeDatastream _

theorem succeeds_remove {kind : EntityKind} {id : EntityId} (isPublic : kind.isPublic = true)
    (there : before.tables.contains kind id = true) (linked : before.tables.Linked) :
    (remove kind id).Succeeds environment before := by
  cases kind
  case thing => exact succeeds_removeThing there linked
  case location => exact succeeds_removeLocation there
  case historicalLocation => exact succeeds_removeHistoricalLocation there
  case sensor => exact succeeds_removeTool (.inl rfl) there linked
  case observedProperty => exact succeeds_removeTool (.inr rfl) there linked
  case datastream => exact succeeds_removeDatastream there
  case featureOfInterest => exact succeeds_removeFeature there
  case observation => exact succeeds_removeObservation there
  all_goals contradiction

theorem bind_of_error {change : Change α} {next : α → Change β} {failure : Failure}
    {progress : Progress} (failed : change environment before = .error failure progress) :
    (change >>= next) environment before = .error failure progress := by
  simp only [Bind.bind, ReaderT.bind, EStateM.bind, failed]

@[simp] theorem existing_of_absent {kind : EntityKind} {id : EntityId}
    (absent : before.tables.find? kind id = none) :
    Change.existing kind id environment before = .error (.notFound kind id) before := by
  have missing : before.tables.get kind id = .error (.notFound kind id) := by
    rw [Tables.get, absent]
  apply bind_of_error
  change ofExcept (before.tables.get kind id) environment before = _
  rw [missing]
  rfl

@[simp] theorem delete_of_absent {kind : EntityKind} {id : EntityId}
    (absent : before.tables.find? kind id = none) :
    Change.delete kind id environment before = .error (.notFound kind id) before := by
  have absent : before.transaction.tables.find? kind id = none := absent
  unfold Change.delete Transaction.delete
  rw [absent]

theorem remove_of_absent {kind : EntityKind} {id : EntityId} (isPublic : kind.isPublic = true)
    (absent : before.tables.find? kind id = none) :
    remove kind id environment before = .error (.notFound kind id) before := by
  cases kind
  case location => exact bind_of_error (delete_of_absent absent)
  case historicalLocation => exact bind_of_error (delete_of_absent absent)
  case observation => exact bind_of_error (delete_of_absent absent)
  case dataset => contradiction
  case unitOfMeasurement => contradiction
  case format => contradiction
  all_goals exact bind_of_error (existing_of_absent absent)

end Change

end SensorThings
