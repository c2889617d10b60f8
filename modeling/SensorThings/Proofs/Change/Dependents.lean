import SensorThings.Proofs.Change.Removal

/-!
What goes with an entity that is removed, given by rules, one for each way of depending on another
entity. In linked tables the rules come down to the keys that an entity refers to.
-/
namespace SensorThings

namespace Tables

/-- What goes when an entity is removed: itself and all that depends on it. -/
inductive GoesWith (tables : Tables) (root : Key) : (kind : EntityKind) → kind.Entity → Prop where
  | itself (kind : EntityKind) (entity : kind.Entity) (same : root = ⟨kind, kind.idOf entity⟩) :
      GoesWith tables root kind entity
  | owned (datastream : Datastream)
      (owner : root = ⟨.thing, datastream.thing⟩ ∨ root = ⟨.sensor, datastream.sensor⟩ ∨
        root = ⟨.observedProperty, datastream.observedProperty⟩) :
      GoesWith tables root .datastream datastream
  | ofDatastream (dataset : Dataset) (datastream : Datastream)
      (found : tables.find? .datastream dataset.datastream = some datastream)
      (goes : GoesWith tables root .datastream datastream) : GoesWith tables root .dataset dataset
  | ofFeature (dataset : Dataset) (same : root = ⟨.featureOfInterest, dataset.feature⟩) :
      GoesWith tables root .dataset dataset
  | ofDataset (observation : Observation) (dataset : Dataset)
      (found : tables.find? .dataset observation.dataset = some dataset)
      (goes : GoesWith tables root .dataset dataset) :
      GoesWith tables root .observation observation
  | ofThing (historical : HistoricalLocation) (same : root = ⟨.thing, historical.thing⟩) :
      GoesWith tables root .historicalLocation historical
  | nowhere (historical : HistoricalLocation) (location : EntityId)
      (same : root = ⟨.location, location⟩) (only : historical.locations.items = [location]) :
      GoesWith tables root .historicalLocation historical

/-- A historical location goes, and the location that it lists has to forget it. -/
def Withdrawn (tables : Tables) (root : Key) (location historical : EntityId) : Prop :=
  ∃ row : HistoricalLocation, tables.find? .historicalLocation historical = some row ∧
    tables.GoesWith root .historicalLocation row ∧ location ∈ row.locations.items

/-- Locations forget the historical locations that go, and nothing else. -/
def Withdraws (before : Tables) (root : Key) (after : Tables) : Prop :=
  ∀ id, ∃ withdrawn : List EntityId,
    (∀ historical, historical ∈ withdrawn ↔ before.Withdrawn root id historical) ∧
      after.find? .location id = (before.find? .location id).map (Location.forgetting withdrawn)

variable {tables : Tables} {root : Key}

theorem goesWith_datastream_iff {datastream : Datastream} :
    tables.GoesWith root .datastream datastream ↔
      root = ⟨.datastream, datastream.id⟩ ∨ root = ⟨.thing, datastream.thing⟩ ∨
        root = ⟨.sensor, datastream.sensor⟩ ∨
          root = ⟨.observedProperty, datastream.observedProperty⟩ := by
  constructor
  · rintro (⟨_, _, same⟩ | ⟨_, owner⟩)
    · exact .inl same
    · exact .inr owner
  · rintro (same | owner)
    · exact .itself .datastream datastream same
    · exact .owned datastream owner

theorem goesWith_dataset_iff {dataset : Dataset} :
    tables.GoesWith root .dataset dataset ↔
      root = ⟨.dataset, dataset.id⟩ ∨ root = ⟨.featureOfInterest, dataset.feature⟩ ∨
        ∃ datastream, tables.find? .datastream dataset.datastream = some datastream ∧
          tables.GoesWith root .datastream datastream := by
  constructor
  · rintro (⟨_, _, same⟩ | _ | ⟨_, datastream, found, goes⟩ | ⟨_, same⟩)
    · exact .inl same
    · exact .inr (.inr ⟨datastream, found, goes⟩)
    · exact .inr (.inl same)
  · rintro (same | same | ⟨datastream, found, goes⟩)
    · exact .itself .dataset dataset same
    · exact .ofFeature dataset same
    · exact .ofDatastream dataset datastream found goes

theorem goesWith_observation_iff (linked : tables.Linked) {id : EntityId}
    {observation : Observation} (found : tables.find? .observation id = some observation) :
    tables.GoesWith root .observation observation ↔
      root = ⟨.observation, observation.id⟩ ∨ root = ⟨.dataset, observation.dataset⟩ ∨
        root = ⟨.featureOfInterest, observation.feature⟩ ∨
          ∃ datastream, tables.find? .datastream observation.datastream = some datastream ∧
            tables.GoesWith root .datastream datastream := by
  obtain ⟨group, groupFound, stream, feature⟩ := (linked .observation id observation found).dataset
  have groupId : group.id = observation.dataset := idOf_of_find? groupFound
  rw [← stream, ← feature, ← groupId, ← goesWith_dataset_iff]
  constructor
  · rintro (⟨_, _, same⟩ | _ | _ | _ | ⟨_, dataset, datasetFound, goes⟩)
    · exact .inl same
    · rw [groupFound] at datasetFound
      obtain rfl := Option.some.inj datasetFound
      exact .inr goes
  · rintro (same | goes)
    · exact .itself .observation observation same
    · exact .ofDataset observation group groupFound goes

theorem goesWith_historicalLocation_iff {historical : HistoricalLocation} :
    tables.GoesWith root .historicalLocation historical ↔
      root = ⟨.historicalLocation, historical.id⟩ ∨ root = ⟨.thing, historical.thing⟩ ∨
        ∃ location, root = ⟨.location, location⟩ ∧ historical.locations.items = [location] := by
  constructor
  · rintro (⟨_, _, same⟩ | _ | _ | _ | _ | ⟨_, same⟩ | ⟨_, location, same, only⟩)
    · exact .inl same
    · exact .inr (.inl same)
    · exact .inr (.inr ⟨location, same, only⟩)
  · rintro (same | same | ⟨location, same, only⟩)
    · exact .itself .historicalLocation historical same
    · exact .ofThing historical same
    · exact .nowhere historical location same only

/-- Locations forget nothing unless a historical location goes, its thing or a location. -/
theorem not_withdrawn (settled : root.kind ≠ .thing ∧ root.kind ≠ .location ∧
    root.kind ≠ .historicalLocation) (location historical : EntityId) :
    ¬tables.Withdrawn root location historical := by
  rintro ⟨row, -, goes, -⟩
  rw [goesWith_historicalLocation_iff] at goes
  rcases goes with rfl | rfl | ⟨place, rfl, -⟩ <;> simp at settled

theorem goesWith_iff_of_alone {kind : EntityKind} {entity : kind.Entity}
    (alone : kind ≠ .datastream ∧ kind ≠ .dataset ∧ kind ≠ .observation ∧
      kind ≠ .historicalLocation) :
    tables.GoesWith root kind entity ↔ root = ⟨kind, kind.idOf entity⟩ := by
  refine ⟨fun goes => ?_, .itself kind entity⟩
  cases goes
  case itself same => exact same
  all_goals simp at alone

theorem goesWith_of_datastream_iff {target id : EntityId}
    (there : tables.contains .datastream id = true) :
    (∃ datastream, tables.find? .datastream id = some datastream ∧
      tables.GoesWith ⟨.datastream, target⟩ .datastream datastream) ↔ target = id := by
  obtain ⟨datastream, found⟩ := contains_iff.1 there
  have same : Datastream.id datastream = id := idOf_of_find? found
  simp [found, goesWith_datastream_iff, same]

theorem eq_or_eq_of_goesWith (place : root.kind = .location ∨ root.kind = .historicalLocation)
    {kind : EntityKind} {row : kind.Entity} (goes : tables.GoesWith root kind row) :
    root = ⟨kind, kind.idOf row⟩ ∨ kind = .historicalLocation := by
  obtain ⟨goal, target⟩ := root
  cases goes with
  | itself _ _ same => exact .inl same
  | owned _ owner => rcases place with rfl | rfl <;> simp at owner
  | ofDatastream _ _ _ goes =>
    rw [goesWith_datastream_iff] at goes
    rcases place with rfl | rfl <;> simp at goes
  | ofFeature _ same => rcases place with rfl | rfl <;> simp at same
  | ofDataset _ _ _ goes =>
    simp only [goesWith_dataset_iff, goesWith_datastream_iff] at goes
    rcases place with rfl | rfl <;> simp at goes
  | ofThing _ _ => exact .inr rfl
  | nowhere _ _ _ _ => exact .inr rfl

theorem goesWith_iff_dependsOn (linked : tables.Linked)
    (owner : root.kind = .datastream ∨ root.kind = .featureOfInterest ∨ root.kind = .observation)
    {kind : EntityKind} {id : EntityId} {row : kind.Entity}
    (found : tables.find? kind id = some row) :
    tables.GoesWith root kind row ↔ kind.DependsOn row root := by
  obtain ⟨goal, target⟩ := root
  have links := linked kind id row found
  cases kind
  case datastream =>
    rw [goesWith_datastream_iff]
    rcases owner with rfl | rfl | rfl <;>
      simp [EntityKind.DependsOn, EntityKind.references, EntityKind.idOf]
  case dataset =>
    rw [goesWith_dataset_iff]
    rcases owner with rfl | rfl | rfl
    case inl =>
      rw [goesWith_of_datastream_iff links.1]
      simp [EntityKind.DependsOn, EntityKind.references]
    all_goals
      simp [goesWith_datastream_iff, EntityKind.DependsOn, EntityKind.references]
  case observation =>
    rw [goesWith_observation_iff linked found]
    rcases owner with rfl | rfl | rfl
    case inl =>
      rw [goesWith_of_datastream_iff links.datastream]
      simp [EntityKind.DependsOn, EntityKind.references]
    all_goals
      simp [goesWith_datastream_iff, EntityKind.DependsOn, EntityKind.references, EntityKind.idOf]
  case historicalLocation =>
    rw [goesWith_historicalLocation_iff]
    rcases owner with rfl | rfl | rfl <;>
      simp [EntityKind.DependsOn, EntityKind.references]
  all_goals
    rw [goesWith_iff_of_alone (by simp)]
    rcases owner with rfl | rfl | rfl <;> simp [EntityKind.DependsOn, EntityKind.references]

theorem goesWith_iff_of_streams (linked : tables.Linked) {ids : List EntityId}
    (owner : root.kind = .thing ∨ root.kind = .sensor ∨ root.kind = .observedProperty)
    (members : ∀ id, id ∈ ids ↔ ∃ row, tables.find? .datastream id = some row ∧
      root ∈ EntityKind.datastream.references row) {kind : EntityKind} {id : EntityId}
    {row : kind.Entity} (found : tables.find? kind id = some row) :
    tables.GoesWith root kind row ↔
      (∃ stream ∈ ids, kind.DependsOn row ⟨.datastream, stream⟩) ∨ kind.DependsOn row root := by
  have streams : ∀ id, id ∈ ids ↔ ∃ datastream, tables.find? .datastream id = some datastream ∧
      tables.GoesWith root .datastream datastream := by
    intro id
    rw [members]
    refine exists_congr fun datastream => and_congr_right fun _ => ?_
    obtain ⟨goal, target⟩ := root
    rw [goesWith_datastream_iff]
    rcases owner with rfl | rfl | rfl <;> simp [EntityKind.references]
  cases kind
  case datastream =>
    have same : Datastream.id row = id := idOf_of_find? found
    have member := streams id
    have refers := members id
    simp only [found, Option.some.injEq, exists_eq_left'] at member refers
    have itself (stream : EntityId) :
        EntityKind.datastream.DependsOn row ⟨.datastream, stream⟩ ↔ stream = id := by
      simp [EntityKind.DependsOn, EntityKind.references, EntityKind.idOf, same]
    have throughOwner : EntityKind.datastream.DependsOn row root ↔ id ∈ ids := by
      rw [refers, EntityKind.DependsOn, or_iff_right]
      rintro rfl
      simp at owner
    simp [← member, itself, throughOwner]
  case dataset =>
    rw [goesWith_dataset_iff, ← streams]
    obtain ⟨goal, target⟩ := root
    rcases owner with rfl | rfl | rfl <;>
      simp [EntityKind.DependsOn, EntityKind.references]
  case observation =>
    rw [goesWith_observation_iff linked found, ← streams]
    obtain ⟨goal, target⟩ := root
    rcases owner with rfl | rfl | rfl <;>
      simp [EntityKind.DependsOn, EntityKind.references]
  case historicalLocation =>
    rw [goesWith_historicalLocation_iff]
    obtain ⟨goal, target⟩ := root
    rcases owner with rfl | rfl | rfl <;>
      simp [EntityKind.DependsOn, EntityKind.references]
  all_goals
    rw [goesWith_iff_of_alone (by simp)]
    obtain ⟨goal, target⟩ := root
    rcases owner with rfl | rfl | rfl <;>
      simp [EntityKind.DependsOn, EntityKind.references]

end Tables

end SensorThings
