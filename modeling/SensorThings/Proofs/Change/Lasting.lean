import SensorThings.Proofs.Change.Freshness

/-!
What a creation leaves as it was. Entities that are there get other relations, bounds and pointers
while something is made, and nothing else about them changes.
-/
namespace SensorThings

namespace EntityKind

/-- An entity differs from an earlier one in what follows other entities, and in nothing else. -/
def Lasts : (kind : EntityKind) → kind.Entity → kind.Entity → Prop
  | thing, (old : Thing), (new : Thing) => new = { old with locations := new.locations }
  | location, (old : Location), (new : Location) =>
    new = { old with historicalLocations := new.historicalLocations }
  | historicalLocation, (old : HistoricalLocation), (new : HistoricalLocation) =>
    new = { old with locations := new.locations }
  | datastream, (old : Datastream), (new : Datastream) =>
    new = { old with
      thing := new.thing, sensor := new.sensor, observedProperty := new.observedProperty
      phenomenonTime := new.phenomenonTime, resultTime := new.resultTime }
  | dataset, (old : Dataset), (new : Dataset) =>
    new = { old with
      firstObservation := new.firstObservation, lastObservation := new.lastObservation }
  | _, old, new => new = old

theorem Lasts.refl {kind : EntityKind} (entity : kind.Entity) : kind.Lasts entity entity := by
  cases kind <;> rfl

theorem Lasts.trans {kind : EntityKind} {first second third : kind.Entity}
    (left : kind.Lasts first second) (right : kind.Lasts second third) :
    kind.Lasts first third := by
  cases kind
  all_goals
    simp only [Lasts] at left right ⊢
    rw [right, left]

theorem Lasts.unit {old new : Datastream} (lasts : EntityKind.datastream.Lasts old new) :
    new.unit = old.unit := by
  rw [show new = _ from lasts]

theorem Lasts.record {old new : HistoricalLocation}
    (lasts : EntityKind.historicalLocation.Lasts old new) : new.thing = old.thing := by
  rw [show new = _ from lasts]

end EntityKind

namespace Tables

def Leaves (before after : Tables) : Prop :=
  ∀ kind id old, before.find? kind id = some old →
    ∃ new, after.find? kind id = some new ∧ kind.Lasts old new

namespace Leaves

variable {before middle after tables : Tables}

theorem refl (tables : Tables) : tables.Leaves tables :=
  fun _ _ old found => ⟨old, found, .refl old⟩

theorem trans (left : before.Leaves middle) (right : middle.Leaves after) :
    before.Leaves after := by
  intro kind id old found
  obtain ⟨new, here, lasts⟩ := left kind id old found
  obtain ⟨last, there, lastsLater⟩ := right kind id new here
  exact ⟨last, there, lasts.trans lastsLater⟩

theorem free_before (leaves : before.Leaves after) {kind : EntityKind} {id : EntityId}
    (free : after.find? kind id = none) : before.find? kind id = none := by
  cases found : before.find? kind id with
  | none => rfl
  | some old =>
    obtain ⟨new, here, -⟩ := leaves kind id old found
    rw [free] at here
    contradiction

theorem contains (leaves : before.Leaves after) {kind : EntityKind} {id : EntityId}
    (there : before.contains kind id = true) : after.contains kind id = true := by
  obtain ⟨old, found⟩ := contains_iff.1 there
  obtain ⟨new, here, -⟩ := leaves kind id old found
  exact contains_of_find? here

theorem put (leaves : before.Leaves tables) {kind : EntityKind} {entity : kind.Entity}
    (lasts : ∀ old, before.find? kind (kind.idOf entity) = some old → kind.Lasts old entity) :
    before.Leaves (tables.put kind entity) := by
  intro other id old found
  by_cases same : other = kind
  · subst same
    rw [find?_put]
    split
    next here =>
      subst here
      exact ⟨entity, rfl, lasts old found⟩
    next => exact leaves other id old found
  · simpa [same] using leaves other id old found

theorem put_free (leaves : before.Leaves tables) {kind : EntityKind} {entity : kind.Entity}
    (free : before.find? kind (kind.idOf entity) = none) :
    before.Leaves (tables.put kind entity) := by
  apply leaves.put
  intro old found
  rw [free] at found
  contradiction

theorem put_found (kind : EntityKind) {id : EntityId} {old : kind.Entity} (new : kind.Entity)
    (found : tables.find? kind id = some old) (identified : kind.idOf new = kind.idOf old)
    (lasts : kind.Lasts old new) : tables.Leaves (tables.put kind new) := by
  apply (refl tables).put
  intro row rowFound
  rw [identified, find?_idOf found] at rowFound
  exact Option.some.inj rowFound ▸ lasts

end Leaves

end Tables

theorem Updates.leaves {kind : EntityKind} {f : kind.Entity → kind.Entity} {ids : List EntityId}
    {before after : Progress} (updates : Updates kind f ids before after)
    (lasts : ∀ row, kind.Lasts row (f row)) : before.tables.Leaves after.tables := by
  intro other id old found
  by_cases same : other = kind
  · subst same
    refine ⟨if id ∈ ids then f old else old, by rw [updates.find?, found, Option.map_some], ?_⟩
    split
    · exact lasts old
    · exact .refl old
  · exact ⟨old, (updates.others id same).trans found, .refl old⟩

namespace Creation

variable {environment : Environment} {outline : Outline} {before middle last after : Progress}

/-- Only the observation is new; its datastream is covered, and so is its dataset. -/
private theorem leaves_addObservation {observation : Observation} {datastream : Datastream}
    {dataset : Dataset} (leaves : before.tables.Leaves last.tables)
    (free : before.tables.find? .observation observation.id = none)
    (datastreamFound : last.tables.find? .datastream observation.datastream = some datastream)
    (datasetFound : last.tables.find? .dataset observation.dataset = some dataset) :
    before.tables.Leaves (last.addObservation observation datastream dataset).tables := by
  unfold Progress.addObservation
  simp only [Progress.save_tables]
  have added : before.tables.Leaves (last.tables.put .observation observation) :=
    leaves.put_free free
  have streamFound : (last.tables.put .observation observation).find? .datastream
      observation.datastream = some datastream :=
    (Tables.find?_put_of_ne _ _ _ (by decide)).trans datastreamFound
  have groupFound : ((last.tables.put .observation observation).put .datastream
      (datastream.cover observation)).find? .dataset observation.dataset = some dataset := by
    simpa using datasetFound
  have covered :=
    Tables.Leaves.put_found .datastream (datastream.cover observation) streamFound rfl rfl
  have grouped := Tables.Leaves.put_found .dataset (dataset.cover observation) groupFound rfl rfl
  exact (added.trans covered).trans grouped

theorem leaves (creation : Creation environment outline before after)
    (fresh : environment.Fresh outline.keys before) : before.tables.Leaves after.tables := by
  induction creation with
  | nil => exact .refl _
  | append left _ ihLeft ihRight => exact (ihLeft fresh.left).trans (ihRight (fresh.right left))
  | bare kind entity _ claimed =>
    rw [claimed.claim_save_tables]
    exact (Tables.Leaves.refl _).put_free (fresh.free_of_claim claimed)
  | feature feature _ claimed =>
    rw [claimed.claim_save_tables]
    exact (Tables.Leaves.refl _).put_free (fresh.free_of_claim claimed)
  | repeated => exact .refl _
  | derived location feature _ _ chosen =>
    rw [chosen.featureId_save_tables]
    exact (Tables.Leaves.refl _).put_free (fresh.free_of_featureId chosen)
  | adopted owner datastream found =>
    rw [Progress.save_tables]
    cases owner <;> exact .put_found _ _ found rfl rfl
  | moved thing locations found =>
    rw [Progress.save_tables]
    exact .put_found _ _ found rfl rfl
  | recorded historical claimed _ _ _ ran ih =>
    have free := fresh.free_of_claim claimed
    rw [← claimed.claim_tables] at free ⊢
    refine .trans ?_ (ran.record.updates.leaves fun _ => rfl)
    rw [Progress.save_tables]
    exact (ih (fresh.claim claimed)).put_free free
  | extended historical location ran =>
    obtain ⟨found, here, lists⟩ := ran.extendRecord
    refine .trans ?_ (lists.updates.leaves fun _ => rfl)
    rw [Progress.save_tables]
    exact .put_found _ _ here rfl rfl
  | datastream datastream claimed _ _ _ ih =>
    have free := fresh.free_of_claim claimed
    rw [← claimed.claim_tables] at free ⊢
    rw [Progress.save_tables]
    exact (ih (fresh.claim claimed)).put_free free
  | dataset stream dataset _ made _ drawn _ _ _ ih =>
    rw [Progress.save_tables, Progress.draw_tables]
    have free := fresh.free_after made .dataset
    rw [← drawn] at free
    exact (ih fresh).put_free (made.free_before free)
  | observation observation stream datastream dataset raw claimed left _ _ _ _ datastreamFound
      datasetFound _ ihLeft ihRight =>
    have free := fresh.free_of_claim claimed
    rw [← claimed.claim_tables] at free ⊢
    have inside := fresh.claim claimed
    exact leaves_addObservation ((ihLeft inside.left).trans (ihRight (inside.right left))) free
      datastreamFound datasetFound

end Creation

end SensorThings
