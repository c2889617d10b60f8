import SensorThings.Proofs.Store.View

/-!
Links between entities. An entity may refer to others, and whatever it refers to has to be there. A
write keeps all links as long as nothing that is referred to goes, datasets keep their pair, and
locations keep the historical locations that they list.
-/
namespace SensorThings

namespace Tables

/-- All that a datastream refers to is there. -/
structure HoldsLinksOf (tables : Tables) (datastream : Datastream) : Prop where
  thing : tables.contains .thing datastream.thing = true
  sensor : tables.contains .sensor datastream.sensor = true
  observedProperty : tables.contains .observedProperty datastream.observedProperty = true
  unit : tables.contains .unitOfMeasurement datastream.unit = true
  format : tables.contains .format datastream.format = true

/-- A historical location is somewhere, and each of its locations lists it. -/
structure HoldsPlacesOf (tables : Tables) (historical : HistoricalLocation) : Prop where
  thing : tables.contains .thing historical.thing = true
  somewhere : historical.locations.items ≠ []
  listed : ∀ id ∈ historical.locations.items, ∃ location : Location,
    tables.find? .location id = some location ∧
      historical.id ∈ location.historicalLocations.items

/-- An observation is in the dataset of its datastream and its feature. -/
structure HoldsGroupOf (tables : Tables) (observation : Observation) : Prop where
  datastream : tables.contains .datastream observation.datastream = true
  feature : tables.contains .featureOfInterest observation.feature = true
  dataset : ∃ dataset : Dataset, tables.find? .dataset observation.dataset = some dataset ∧
    dataset.datastream = observation.datastream ∧ dataset.feature = observation.feature

end Tables

namespace EntityKind

def references : (kind : EntityKind) → kind.Entity → List Key
  | thing, entity => (Thing.locations entity).map (Key.mk .location)
  | historicalLocation, entity => ⟨.thing, HistoricalLocation.thing entity⟩ ::
    (HistoricalLocation.locations entity).items.map (Key.mk .location)
  | datastream, entity =>
    [⟨.thing, Datastream.thing entity⟩, ⟨.sensor, Datastream.sensor entity⟩,
      ⟨.observedProperty, Datastream.observedProperty entity⟩,
      ⟨.unitOfMeasurement, Datastream.unit entity⟩, ⟨.format, Datastream.format entity⟩]
  | observation, entity =>
    [⟨.datastream, Observation.datastream entity⟩,
      ⟨.featureOfInterest, Observation.feature entity⟩, ⟨.dataset, Observation.dataset entity⟩]
  | dataset, entity =>
    [⟨.datastream, Dataset.datastream entity⟩, ⟨.featureOfInterest, Dataset.feature entity⟩]
  | _, _ => []

/-- What an entity of a kind refers to is there. -/
def LinksHold : (kind : EntityKind) → Tables → kind.Entity → Prop
  | thing, tables, entity =>
    (Thing.locations entity).Nodup ∧
      ∀ id ∈ Thing.locations entity, tables.contains .location id = true
  | historicalLocation, tables, entity => tables.HoldsPlacesOf entity
  | datastream, tables, entity => tables.HoldsLinksOf entity
  | observation, tables, entity => tables.HoldsGroupOf entity
  | dataset, tables, entity =>
    tables.contains .datastream (Dataset.datastream entity) = true ∧
      tables.contains .featureOfInterest (Dataset.feature entity) = true
  | _, _, _ => True

/-- What other entities rely on when an entity is written again. -/
def Keeps : (kind : EntityKind) → kind.Entity → kind.Entity → Prop
  | dataset, old, new =>
    Dataset.datastream old = Dataset.datastream new ∧ Dataset.feature old = Dataset.feature new
  | location, old, new => ∀ id ∈ (Location.historicalLocations old).items,
    id ∈ (Location.historicalLocations new).items
  | _, _, _ => True

theorem Keeps.refl {kind : EntityKind} (entity : kind.Entity) : kind.Keeps entity entity := by
  cases kind
  case dataset => exact ⟨rfl, rfl⟩
  case location => exact fun _ member => member
  all_goals trivial

theorem Keeps.trans {kind : EntityKind} {first second third : kind.Entity}
    (left : kind.Keeps first second) (right : kind.Keeps second third) :
    kind.Keeps first third := by
  cases kind
  case dataset => exact ⟨left.1.trans right.1, left.2.trans right.2⟩
  case location => exact fun id member => right id (left id member)
  all_goals trivial

end EntityKind

namespace Tables

def Spares (before after : Tables) (key : Key) : Prop :=
  ∀ old, before.find? key.kind key.id = some old →
    ∃ new, after.find? key.kind key.id = some new ∧ key.kind.Keeps old new

def Extends (before after : Tables) : Prop :=
  ∀ key, before.Spares after key

theorem Spares.contains {before after : Tables} {kind : EntityKind} {id : EntityId}
    (spares : before.Spares after ⟨kind, id⟩) (there : before.contains kind id = true) :
    after.contains kind id = true := by
  obtain ⟨old, found⟩ := contains_iff.1 there
  obtain ⟨new, here, -⟩ := spares old found
  exact contains_of_find? here

theorem linksHold_of_spares {before after : Tables} {kind : EntityKind} {entity : kind.Entity}
    (spares : ∀ key ∈ kind.references entity, before.Spares after key)
    (holds : kind.LinksHold before entity) : kind.LinksHold after entity := by
  cases kind
  case thing =>
    refine ⟨holds.1, fun id member => ?_⟩
    exact (spares ⟨.location, id⟩ (List.mem_map_of_mem member)).contains (holds.2 id member)
  case historicalLocation =>
    refine ⟨(spares _ List.mem_cons_self).contains holds.thing, holds.somewhere,
      fun id member => ?_⟩
    obtain ⟨old, found, listed⟩ := holds.listed id member
    obtain ⟨new, here, kept⟩ :=
      spares ⟨.location, id⟩ (List.mem_cons_of_mem _ (List.mem_map_of_mem member)) old found
    exact ⟨new, here, kept _ listed⟩
  case datastream =>
    simp only [EntityKind.references, List.forall_mem_cons] at spares
    obtain ⟨thing, sensor, property, unit, format, -⟩ := spares
    exact ⟨thing.contains holds.thing, sensor.contains holds.sensor,
      property.contains holds.observedProperty, unit.contains holds.unit,
      format.contains holds.format⟩
  case observation =>
    simp only [EntityKind.references, List.forall_mem_cons] at spares
    obtain ⟨datastream, feature, dataset, -⟩ := spares
    obtain ⟨old, found, pair⟩ := holds.dataset
    obtain ⟨new, here, kept⟩ := dataset old found
    exact ⟨datastream.contains holds.datastream, feature.contains holds.feature, new, here,
      kept.1.symm.trans pair.1, kept.2.symm.trans pair.2⟩
  case dataset =>
    simp only [EntityKind.references, List.forall_mem_cons] at spares
    obtain ⟨datastream, feature, -⟩ := spares
    exact ⟨datastream.contains holds.1, feature.contains holds.2⟩
  all_goals trivial

namespace Extends

variable {before middle after tables : Tables}

theorem refl (tables : Tables) : tables.Extends tables :=
  fun _ old found => ⟨old, found, .refl old⟩

theorem trans (left : before.Extends middle) (right : middle.Extends after) :
    before.Extends after := by
  intro key old found
  obtain ⟨new, here, kept⟩ := left key old found
  obtain ⟨last, there, keptLater⟩ := right key new here
  exact ⟨last, there, kept.trans keptLater⟩

theorem put {kind : EntityKind} {entity : kind.Entity}
    (keeps : ∀ old, tables.find? kind (kind.idOf entity) = some old → kind.Keeps old entity) :
    tables.Extends (tables.put kind entity) := by
  rintro ⟨other, id⟩ old found
  by_cases same : other = kind
  · subst same
    rw [find?_put]
    split
    next here =>
      subst here
      exact ⟨entity, rfl, keeps old found⟩
    next => exact ⟨old, found, .refl old⟩
  · exact ⟨old, (find?_put_of_ne _ _ _ same).trans found, .refl old⟩

theorem put_free {kind : EntityKind} {entity : kind.Entity}
    (free : tables.find? kind (kind.idOf entity) = none) :
    tables.Extends (tables.put kind entity) := by
  apply put
  intro old found
  rw [free] at found
  contradiction

theorem linksHold (growth : before.Extends after) {kind : EntityKind} {entity : kind.Entity}
    (holds : kind.LinksHold before entity) : kind.LinksHold after entity :=
  linksHold_of_spares (fun key _ => growth key) holds

end Extends

/-- Whatever any entity refers to is there. -/
def Linked (tables : Tables) : Prop :=
  ∀ kind id entity, tables.find? kind id = some entity → kind.LinksHold tables entity

theorem linked_empty : Linked {} := by
  intro kind id entity found
  cases kind <;> contradiction

namespace Linked

variable {before after tables : Tables}

theorem later (linked : before.Linked) (growth : before.Extends after)
    (rows : ∀ kind id entity, after.find? kind id = some entity →
      before.find? kind id = some entity ∨ kind.LinksHold after entity) : after.Linked := by
  intro kind id entity found
  obtain old | holds := rows kind id entity found
  · exact growth.linksHold (linked kind id entity old)
  · exact holds

theorem put (linked : tables.Linked) {kind : EntityKind} {entity : kind.Entity}
    (keeps : ∀ old, tables.find? kind (kind.idOf entity) = some old → kind.Keeps old entity)
    (holds : kind.LinksHold tables entity) : (tables.put kind entity).Linked := by
  have growth := Extends.put keeps
  apply linked.later growth
  intro other id row found
  by_cases same : other = kind
  · subst same
    rw [find?_put] at found
    split at found
    next =>
      obtain rfl := Option.some.inj found
      exact .inr (growth.linksHold holds)
    next => exact .inl found
  · rw [find?_put_of_ne _ _ _ same] at found
    exact .inl found

theorem put_free (linked : tables.Linked) {kind : EntityKind} {entity : kind.Entity}
    (free : tables.find? kind (kind.idOf entity) = none) (holds : kind.LinksHold tables entity) :
    (tables.put kind entity).Linked := by
  apply linked.put _ holds
  intro old found
  rw [free] at found
  contradiction

end Linked

end Tables

end SensorThings
