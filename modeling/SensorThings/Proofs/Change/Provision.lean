import SensorThings.Proofs.Change.Freshness

/-!
What is looked for before it is made. A look-up gives the first entity by identifier that suits;
where none does, a new one is added under a free identifier, and no other row is touched.
-/
namespace SensorThings

namespace Tables

theorem find?_put_of_some {tables : Tables} {kind other : EntityKind} {entity : kind.Entity}
    {id : EntityId} {row : other.Entity} (free : tables.find? kind (kind.idOf entity) = none)
    (found : tables.find? other id = some row) :
    (tables.put kind entity).find? other id = some row := by
  by_cases same : other = kind
  · subst same
    exact find?_put_of_free free found
  · rwa [find?_put_of_ne _ _ _ same]

/-- The first entity of a kind, by identifier, that suits. -/
structure IsFirst (tables : Tables) (kind : EntityKind) (suits : kind.Entity → Prop)
    (id : EntityId) : Prop where
  here : ∃ row, tables.find? kind id = some row ∧ suits row
  least : ∀ other row, tables.find? kind other = some row → suits row → ¬other < id

/-- The first entity that suits is used; where none suits, one is made. -/
inductive Provides (before : Tables) (kind : EntityKind) (suits : kind.Entity → Prop)
    (make : EntityId → kind.Entity) (id : EntityId) (after : Tables) : Prop where
  | used (first : before.IsFirst kind suits id) (unchanged : after = before)
  | made (absent : ∀ other row, before.find? kind other = some row → ¬suits row)
      (free : before.find? kind id = none) (added : after = before.put kind (make id))

section

variable {tables : Tables} {kind : EntityKind} {suits : kind.Entity → Prop}
  {predicate : Predicate} {id : EntityId}

theorem IsFirst.unique {other : EntityId} (left : tables.IsFirst kind suits id)
    (right : tables.IsFirst kind suits other) : id = other := by
  obtain ⟨⟨row, found, rowSuits⟩, least⟩ := left
  obtain ⟨⟨later, laterFound, laterSuits⟩, laterLeast⟩ := right
  exact EntityId.eq_of_not_lt (laterLeast id row found rowSuits)
    (least other later laterFound laterSuits)

theorem isFirst_of_findWhere?
    (selects : ∀ row, tables.selects kind predicate row = true ↔ suits row)
    (found : (tables.findWhere? kind predicate).map kind.idOf = some id) :
    tables.IsFirst kind suits id := by
  obtain ⟨row, first, rfl⟩ := Option.map_eq_some_iff.1 found
  obtain ⟨selected, earlier, later, split, unselected⟩ := List.find?_eq_some_iff_append.1 first
  have there : row ∈ tables.entities kind := List.mem_of_find?_eq_some first
  refine ⟨⟨row, mem_entities_iff.1 there, (selects row).1 selected⟩, ?_⟩
  intro other found otherFound otherSuits less
  obtain rfl : kind.idOf found = other := idOf_of_find? otherFound
  have sorted := (tables.table kind).sorted
  have items : (tables.table kind).items = earlier ++ row :: later := split
  have member := mem_entities_iff.2 otherFound
  rw [items, List.pairwise_append, List.pairwise_cons] at sorted
  rw [split] at member
  rcases List.mem_append.1 member with inEarlier | inRest
  · exact absurd ((selects found).2 otherSuits) (by simpa using unselected found inEarlier)
  rcases List.mem_cons.1 inRest with rfl | inLater
  · exact EntityId.lt_irrefl _ less
  · exact EntityId.lt_irrefl _ (EntityId.lt_trans (sorted.2.1.1 found inLater) less)

theorem IsFirst.findWhere? (first : tables.IsFirst kind suits id)
    (selects : ∀ row, tables.selects kind predicate row = true ↔ suits row) :
    (tables.findWhere? kind predicate).map kind.idOf = some id := by
  cases looked : (tables.findWhere? kind predicate).map kind.idOf with
  | none =>
    obtain ⟨row, found, rowSuits⟩ := first.here
    exact absurd ((selects row).2 rowSuits) (not_selects_of_findWhere? looked found)
  | some other => rw [first.unique (isFirst_of_findWhere? selects looked)]

end

namespace Provides

variable {before after : Tables} {kind : EntityKind} {suits : kind.Entity → Prop}
  {make : EntityId → kind.Entity} {id : EntityId}

theorem isFirst (provides : before.Provides kind suits make id after)
    (identified : kind.idOf (make id) = id) (makes : suits (make id)) :
    after.IsFirst kind suits id := by
  cases provides with
  | used first unchanged => exact unchanged ▸ first
  | made absent free added =>
    subst added
    refine ⟨⟨make id, find?_put_self _ _ identified, makes⟩, ?_⟩
    intro other row found rowSuits less
    rw [find?_put, identified] at found
    split at found
    next same => exact EntityId.lt_irrefl _ (same ▸ less)
    next => exact absent other row found rowSuits

theorem others (provides : before.Provides kind suits make id after) {other : EntityKind}
    (different : other ≠ kind) (place : EntityId) :
    after.find? other place = before.find? other place := by
  cases provides with
  | used _ unchanged => rw [unchanged]
  | made _ _ added => rw [added, find?_put_of_ne _ _ _ different]

theorem find?_of_some (provides : before.Provides kind suits make id after)
    (identified : kind.idOf (make id) = id) {other : EntityKind} {place : EntityId}
    {row : other.Entity} (found : before.find? other place = some row) :
    after.find? other place = some row := by
  cases provides with
  | used _ unchanged => rwa [unchanged]
  | made _ free added =>
    rw [added]
    exact find?_put_of_some (identified.symm ▸ free) found

end Provides

end Tables

namespace Change

variable {environment : Environment} {before after : Progress} {keys : List Key} {id : EntityId}

theorem returns_add {kind : EntityKind} {make : EntityId → kind.Entity} :
    (do
      let id ← draw
      save kind (make id)
      return id : Change EntityId).Returns environment before id after ↔
      environment.fresh (before.drawn + 1) = id ∧ before.draw.save kind (make id) = after := by
  simp only [returns_bind, returns_draw, returns_save, returns_pure]
  constructor
  · rintro ⟨_, _, ⟨rfl, rfl⟩, _, _, rfl, rfl, rfl⟩
    exact ⟨rfl, rfl⟩
  · rintro ⟨rfl, rfl⟩
    exact ⟨_, _, ⟨rfl, rfl⟩, (), _, rfl, rfl, rfl⟩

theorem Returns.add {kind : EntityKind} {make : EntityId → kind.Entity}
    {suits : kind.Entity → Prop}
    (ran : (do
      let id ← draw
      save kind (make id)
      return id : Change EntityId).Returns environment before id after)
    (fresh : environment.Fresh keys before)
    (absent : ∀ other row, before.tables.find? kind other = some row → ¬suits row) :
    before.tables.Provides kind suits make id after.tables := by
  obtain ⟨rfl, rfl⟩ := returns_add.1 ran
  refine .made absent (fresh.free kind) ?_
  simp

/-- A row is looked up, and added where none is found. -/
theorem Returns.provide {kind : EntityKind} {predicate : Predicate} {suits : kind.Entity → Prop}
    {make : EntityId → kind.Entity} {next : Option EntityId → Change EntityId}
    (ran : (idWhere? kind predicate >>= next).Returns environment before id after)
    (reuses : ∀ id, next (some id) = pure id)
    (adds : next none = do
      let id ← draw
      save kind (make id)
      return id)
    (selects : ∀ row, before.tables.selects kind predicate row = true ↔ suits row)
    (fresh : environment.Fresh keys before) :
    before.tables.Provides kind suits make id after.tables := by
  obtain ⟨found, _, looked, ran⟩ := returns_bind.1 ran
  obtain ⟨selected, rfl⟩ := returns_idWhere?.1 looked
  cases found with
  | some found =>
    rw [reuses] at ran
    obtain ⟨rfl, rfl⟩ := returns_pure.1 ran
    exact .used (Tables.isFirst_of_findWhere? selects selected) rfl
  | none =>
    rw [adds] at ran
    refine ran.add fresh fun other row there suited => ?_
    exact Tables.not_selects_of_findWhere? selected there ((selects row).2 suited)

end Change

/-- A unit suits a draft with the same symbol; without a symbol, a draft is suited by none. -/
def UnitDraft.Suits (draft : UnitDraft) (unit : UnitOfMeasurement) : Prop :=
  ∃ symbol, draft.symbol = some symbol ∧ unit.symbol = some symbol

def UnitDraft.asUnit (draft : UnitDraft) (id : EntityId) : UnitOfMeasurement where
  id := id
  name := draft.name
  symbol := draft.symbol
  definition := draft.definition

/-- The dataset for the observations of a datastream about a feature, without any. -/
def Datastream.asDataset (stream : Datastream) (feature id : EntityId) : Dataset where
  id := id
  datastream := stream.id
  procedure := stream.sensor
  phenomenon := stream.observedProperty
  feature := feature
  offering := stream.id
  firstObservation := none
  lastObservation := none

namespace Change

variable {environment : Environment} {before after : Progress} {keys : List Key} {id : EntityId}

theorem Returns.unitFor_provides {draft : UnitDraft}
    (ran : (Change.unitFor draft).Returns environment before id after)
    (fresh : environment.Fresh keys before) :
    before.tables.Provides .unitOfMeasurement draft.Suits draft.asUnit id after.tables := by
  unfold Change.unitFor at ran
  cases named : draft.symbol with
  | none =>
    have looks : Change.unitOfSymbol? draft.symbol = pure none := by
      rw [named]
      rfl
    rw [looks] at ran
    obtain ⟨_, _, looked, ran⟩ := returns_bind.1 ran
    obtain ⟨rfl, rfl⟩ := returns_pure.1 looked
    refine Returns.add ran fresh ?_
    rintro other row found ⟨symbol, given, -⟩
    rw [named] at given
    contradiction
  | some symbol =>
    have looks : Change.unitOfSymbol? draft.symbol =
        idWhere? .unitOfMeasurement (.equal (.here "symbol") (.text symbol)) := by
      rw [named]
      rfl
    have selects : ∀ unit, before.tables.selects .unitOfMeasurement
        (.equal (.here "symbol") (.text symbol)) unit = true ↔ draft.Suits unit := by
      intro unit
      rw [Tables.selects_symbol, UnitDraft.Suits, named]
      simp
    rw [looks] at ran
    exact Returns.provide ran (fun _ => rfl) rfl selects fresh

theorem Returns.formatFor_provides {type : ObservationType}
    (ran : (Change.formatFor type).Returns environment before id after)
    (fresh : environment.Fresh keys before) :
    before.tables.Provides .format (fun format => Format.format format = type.uri)
      (fun id => ⟨id, type.uri⟩) id after.tables :=
  Returns.provide ran (fun _ => rfl) rfl (before.tables.selects_format type.uri) fresh

theorem Returns.datasetFor_provides {stream : Datastream} {feature : EntityId}
    (ran : (Change.datasetFor stream feature).Returns environment before id after)
    (fresh : environment.Fresh keys before) :
    before.tables.Provides .dataset (fun dataset => Dataset.datastream dataset = stream.id ∧
      Dataset.feature dataset = feature) (stream.asDataset feature) id after.tables :=
  Returns.provide ran (fun _ => rfl) rfl (before.tables.selects_pair stream.id feature) fresh

end Change

end SensorThings
