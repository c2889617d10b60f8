import SensorThings.Change.Removal
import SensorThings.Proofs.Change.Preserving

/-!
What survives removals. Removing an entity deletes rows, takes out of others what referred to it,
and finds bounds and pointers anew; a property of the tables that all this preserves, every removal
preserves.
-/
namespace SensorThings

/-- A row without what referred to an entity that is removed. -/
def EntityKind.Diminishes : (kind : EntityKind) → kind.Entity → kind.Entity → Prop
  | thing, old, new => ∃ locations, new = { old with locations : Thing }
  | location, old, new => ∃ historicalLocations, new = { old with historicalLocations : Location }
  | historicalLocation, old, new => ∃ locations, new = { old with locations : HistoricalLocation }
  | dataset, old, new => new = Dataset.withoutPointers old
  | _, _, _ => False

theorem EntityKind.Diminishes.identified {kind : EntityKind} {old new : kind.Entity}
    (diminishes : kind.Diminishes old new) : kind.idOf new = kind.idOf old := by
  cases kind with
  | thing | location | historicalLocation =>
    obtain ⟨_, rfl⟩ := diminishes
    rfl
  | dataset =>
    obtain rfl := diminishes
    rfl
  | _ => exact diminishes.elim

/-- Everything that a removal does preserves a property. -/
structure SurvivesRemoval (holds : Tables → Prop) : Prop where
  removed : ∀ tables kind id, holds tables → holds (tables.remove kind id)
  diminished : ∀ tables kind id old new, holds tables → tables.find? kind id = some old →
    kind.Diminishes old new → holds (tables.put kind new)
  summarizeDataset : ∀ id, (Change.summarizeDataset id).Preserves holds fun _ => True
  summarizeDatastream : ∀ id, (Change.summarizeDatastream id).Preserves holds fun _ => True

namespace SurvivesRemoval

open Change

variable {holds : Tables → Prop} (survives : SurvivesRemoval holds)

include survives

theorem delete (kind : EntityKind) (id : EntityId) :
    (Change.delete kind id).Preserves holds fun _ => True :=
  preserves_delete fun tables => survives.removed tables kind id

theorem deleteOnly (kind : EntityKind) (id : EntityId) :
    (do let _ ← Change.delete kind id : Change Unit).Preserves holds fun _ => True :=
  (survives.delete kind id).bind fun _ _ => preserves_pure trivial

theorem resave {kind : EntityKind} {progress : Progress} {id : EntityId} {old new : kind.Entity}
    (kept : holds progress.tables) (found : progress.tables.find? kind id = some old)
    (diminishes : kind.Diminishes old new) : holds (progress.save kind new).tables := by
  rw [Progress.save_tables]
  exact survives.diminished _ kind id old new kept found diminishes

theorem diminish (kind : EntityKind) (id : EntityId) {f : kind.Entity → kind.Entity}
    (diminishes : ∀ row, kind.Diminishes row (f row)) :
    (do let row ← fetch kind id; save kind (f row)).Preserves holds fun _ => True := by
  intro environment before value after ran kept
  simp only [returns_bind, returns_fetch kind, returns_save] at ran
  obtain ⟨row, _, ⟨found, rfl⟩, rfl⟩ := ran
  exact ⟨survives.resave kept found (diminishes row), trivial⟩

theorem removeDatasets (ids : List EntityId) :
    (Change.removeDatasets ids).Preserves holds fun _ => True := by
  unfold Change.removeDatasets
  refine (preserves_forM fun id _ => survives.diminish .dataset id fun _ => rfl).bind fun _ _ => ?_
  refine (preserves_idsWhere _ _).bind fun _ _ => ?_
  refine (preserves_forM fun id _ => survives.deleteOnly .observation id).bind fun _ _ => ?_
  exact preserves_forM fun id _ => survives.deleteOnly .dataset id

theorem removeObservation (id : EntityId) :
    (Change.removeObservation id).Preserves holds fun _ => True :=
  (survives.delete _ _).bind fun _ _ => (survives.summarizeDataset _).bind fun _ _ =>
    survives.summarizeDatastream _

theorem removeDatastream (id : EntityId) :
    (Change.removeDatastream id).Preserves holds fun _ => True :=
  (preserves_existing _ _).bind fun _ _ => (preserves_idsWhere _ _).bind fun _ _ =>
    (survives.removeDatasets _).bind fun _ _ => survives.deleteOnly _ _

theorem removeFeature (id : EntityId) :
    (Change.removeFeature id).Preserves holds fun _ => True :=
  (preserves_existing _ _).bind fun _ _ => preserves_tables.bind fun _ _ =>
    (survives.removeDatasets _).bind fun _ _ => (survives.delete _ _).bind fun _ _ =>
    preserves_forM fun datastream _ => survives.summarizeDatastream datastream

theorem removeHistoricalLocation (id : EntityId) :
    (Change.removeHistoricalLocation id).Preserves holds fun _ => True := by
  unfold Change.removeHistoricalLocation
  refine (survives.delete _ _).bind fun historical _ => preserves_forM fun location _ => ?_
  intro environment before value after ran kept
  simp only [returns_bind, returns_find? .location] at ran
  obtain ⟨row, _, ⟨found, rfl⟩, ran⟩ := ran
  cases row with
  | none =>
    obtain ⟨-, rfl⟩ := returns_pure.1 ran
    exact ⟨kept, trivial⟩
  | some row =>
    obtain rfl := returns_save.1 ran
    exact ⟨survives.resave kept found ⟨_, rfl⟩, trivial⟩

theorem removeThing (id : EntityId) : (Change.removeThing id).Preserves holds fun _ => True := by
  unfold Change.removeThing
  refine (preserves_existing _ _).bind fun _ _ => (preserves_idsWhere _ _).bind fun _ _ => ?_
  refine (preserves_forM fun id _ => survives.removeDatastream id).bind fun _ _ => ?_
  refine (preserves_idsWhere _ _).bind fun _ _ => ?_
  refine (preserves_forM fun id _ => survives.removeHistoricalLocation id).bind fun _ _ => ?_
  exact survives.deleteOnly _ _

theorem removeSensor (id : EntityId) : (Change.removeSensor id).Preserves holds fun _ => True :=
  (preserves_existing _ _).bind fun _ _ => (preserves_idsWhere _ _).bind fun _ _ =>
    (preserves_forM fun id _ => survives.removeDatastream id).bind fun _ _ =>
    survives.deleteOnly _ _

theorem removeObservedProperty (id : EntityId) :
    (Change.removeObservedProperty id).Preserves holds fun _ => True :=
  (preserves_existing _ _).bind fun _ _ => (preserves_idsWhere _ _).bind fun _ _ =>
    (preserves_forM fun id _ => survives.removeDatastream id).bind fun _ _ =>
    survives.deleteOnly _ _

theorem removeLocation (id : EntityId) :
    (Change.removeLocation id).Preserves holds fun _ => True := by
  unfold Change.removeLocation
  refine (survives.delete _ _).bind fun location _ => (preserves_idsWhere _ _).bind fun _ _ => ?_
  refine (preserves_forM fun thing _ => survives.diminish .thing thing
    fun row => ⟨_, rfl⟩).bind fun _ _ => preserves_forM fun historical _ => ?_
  intro environment before value after ran kept
  simp only [returns_bind, returns_find? .historicalLocation] at ran
  obtain ⟨row, _, ⟨found, rfl⟩, ran⟩ := ran
  cases row with
  | none =>
    obtain ⟨-, rfl⟩ := returns_pure.1 ran
    exact ⟨kept, trivial⟩
  | some row =>
    obtain ⟨-, ran⟩ | ⟨-, ran⟩ := returns_ite.1 ran
    · exact survives.deleteOnly _ _ ran kept
    · obtain rfl := returns_save.1 ran
      exact ⟨survives.resave kept found ⟨_, rfl⟩, trivial⟩

theorem remove (kind : EntityKind) (id : EntityId) :
    (Change.remove kind id).Preserves holds fun _ => True := by
  cases kind with
  | thing => exact survives.removeThing id
  | location => exact survives.removeLocation id
  | historicalLocation => exact survives.removeHistoricalLocation id
  | sensor => exact survives.removeSensor id
  | observedProperty => exact survives.removeObservedProperty id
  | datastream => exact survives.removeDatastream id
  | featureOfInterest => exact survives.removeFeature id
  | observation => exact survives.removeObservation id
  | dataset => exact preserves_throw _
  | unitOfMeasurement => exact preserves_throw _
  | format => exact preserves_throw _

end SurvivesRemoval

end SensorThings
