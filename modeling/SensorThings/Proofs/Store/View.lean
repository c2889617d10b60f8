import SensorThings.Store.Transaction

/-!
Tables are their view: what `find?` gives for every kind and identifier says everything about them.
-/
namespace SensorThings

theorem Text.compare_beq_eq (left right : String) :
    (compare left right == .eq) = decide (left = right) := by
  rw [Bool.eq_iff_iff, beq_iff_eq, decide_eq_true_iff, Std.LawfulEqCmp.compare_eq_iff_eq]

theorem EntityId.compare_text_eq (left right : EntityId) :
    (compare left.text right.text == .eq) = decide (left = right) := by
  rw [Text.compare_beq_eq, decide_eq_decide]
  exact ⟨fun same => by cases left; cases right; exact congrArg mk same, congrArg text⟩

namespace Roster

variable {α : Type} {key : α → EntityId}

theorem mem_items_iff {roster : Roster α key} {item : α} :
    item ∈ roster.items ↔ roster.find? (key item) = some item :=
  ⟨find?_of_mem, mem_of_find?⟩

private theorem nodup_items (roster : Roster α key) : roster.items.Nodup := by
  refine roster.sorted.imp fun {left right} less same => ?_
  subst same
  exact EntityId.lt_irrefl _ less

theorem ext_find? {left right : Roster α key} (same : ∀ id, left.find? id = right.find? id) :
    left = right := by
  have members : ∀ item, item ∈ left.items ↔ item ∈ right.items := fun item => by
    rw [mem_items_iff, mem_items_iff, same]
  have perm : left.items.Perm right.items :=
    (List.perm_ext_iff_of_nodup left.nodup_items right.nodup_items).2 members
  have items : left.items = right.items := by
    refine perm.eq_of_pairwise (fun first second _ _ before after => ?_) left.sorted right.sorted
    exact absurd (EntityId.lt_trans before after) (EntityId.lt_irrefl _)
  cases left
  cases right
  cases items
  rfl

theorem contains_iff {roster : Roster α key} {id : EntityId} :
    roster.contains id = true ↔ ∃ item, roster.find? id = some item := by
  rw [contains, Option.isSome_iff_exists]

end Roster

namespace IdSet

@[simp] theorem find?_eq_some_iff {ids : IdSet} {id found : EntityId} :
    ids.find? id = some found ↔ found = id ∧ id ∈ ids.items := by
  constructor
  · intro here
    have same : found = id := Roster.key_of_find? here
    exact ⟨same, same ▸ Roster.mem_of_find? here⟩
  · rintro ⟨rfl, member⟩
    exact Roster.find?_of_mem member

@[simp] theorem contains_iff {ids : IdSet} {id : EntityId} :
    ids.contains id = true ↔ id ∈ ids.items := by
  rw [Roster.contains_iff]
  simp [find?_eq_some_iff]

@[simp] theorem mem_insert_iff {ids : IdSet} {id other : EntityId} :
    other ∈ (ids.insert id).items ↔ other = id ∨ other ∈ ids.items := by
  rw [← contains_iff, ← contains_iff, Roster.contains, Roster.find?_insert, Roster.contains]
  by_cases same : id = other
  · simp [same]
  · simp [same, Ne.symm same]

@[simp] theorem mem_erase_iff {ids : IdSet} {id other : EntityId} :
    other ∈ (ids.erase id).items ↔ other ≠ id ∧ other ∈ ids.items := by
  simp [Roster.erase, and_comm]

@[simp] theorem mem_ofIds_iff {ids : List EntityId} {id : EntityId} :
    id ∈ (ofIds ids).items ↔ id ∈ ids := by
  have step : ∀ (rest : List EntityId) (start : IdSet),
      id ∈ (rest.foldl Roster.insert start).items ↔ id ∈ start.items ∨ id ∈ rest := by
    intro rest
    induction rest with
    | nil => simp
    | cons first rest ih =>
      intro start
      rw [List.foldl_cons, ih, mem_insert_iff, List.mem_cons]
      rw [or_assoc, or_left_comm]
  simp [ofIds, Roster.ofList, step, Roster.empty]

theorem ext_mem {left right : IdSet} (same : ∀ id, id ∈ left.items ↔ id ∈ right.items) :
    left = right := by
  apply Roster.ext_find?
  intro id
  apply Option.ext
  intro found
  rw [find?_eq_some_iff, find?_eq_some_iff, same]

@[simp] theorem insert_of_mem {ids : IdSet} {id : EntityId} (member : id ∈ ids.items) :
    ids.insert id = ids := by
  apply Roster.ext_find?
  intro other
  rw [Roster.find?_insert]
  split
  next same => exact (find?_eq_some_iff.2 ⟨same, same ▸ member⟩).symm
  next => rfl

@[simp] theorem items_erase_eq_nil_iff {ids : IdSet} {id : EntityId} (inhabited : ids.items ≠ []) :
    (ids.erase id).items = [] ↔ ids.items = [id] := by
  constructor
  · intro nothing
    have all : ∀ other ∈ ids.items, other = id := by
      refine fun other member => Decidable.byContradiction fun different => ?_
      have stays := mem_erase_iff.2 ⟨different, member⟩
      rw [nothing] at stays
      contradiction
    obtain ⟨items, sorted⟩ := ids
    match items with
    | [] => contradiction
    | [first] => exact congrArg (fun other => [other]) (all first List.mem_cons_self)
    | first :: second :: _ =>
      have less := (List.pairwise_cons.1 sorted).1 second List.mem_cons_self
      rw [all first List.mem_cons_self, all second (by simp)] at less
      exact (EntityId.lt_irrefl _ less).elim
  · intro only
    rw [List.eq_nil_iff_forall_not_mem]
    intro other member
    rw [mem_erase_iff, only, List.mem_singleton] at member
    exact member.1 member.2

@[simp] theorem erase_of_not_mem {ids : IdSet} {id : EntityId} (absent : id ∉ ids.items) :
    ids.erase id = ids := by
  apply Roster.ext_find?
  intro other
  rw [Roster.find?_erase, ite_eq_right_iff]
  rintro rfl
  cases found : ids.find? other with
  | none => rfl
  | some member => exact absurd (find?_eq_some_iff.1 found).2 absent

end IdSet

namespace Tables

theorem ext_find? {left right : Tables}
    (same : ∀ kind id, left.find? kind id = right.find? kind id) :
    left = right := by
  have tables : ∀ kind, left.table kind = right.table kind := fun kind =>
    Roster.ext_find? (same kind)
  cases left
  cases right
  simp only [mk.injEq]
  exact ⟨tables .thing, tables .location, tables .historicalLocation, tables .sensor,
    tables .observedProperty, tables .datastream, tables .featureOfInterest, tables .observation,
    tables .dataset, tables .unitOfMeasurement, tables .format⟩

theorem idOf_of_find? {tables : Tables} {kind : EntityKind} {id : EntityId} {entity : kind.Entity}
    (found : tables.find? kind id = some entity) : kind.idOf entity = id :=
  Roster.key_of_find? found

theorem find?_idOf {tables : Tables} {kind : EntityKind} {id : EntityId} {entity : kind.Entity}
    (found : tables.find? kind id = some entity) :
    tables.find? kind (kind.idOf entity) = some entity :=
  (idOf_of_find? found).symm ▸ found

@[simp]
theorem find?_put_self (tables : Tables) (kind : EntityKind) {entity : kind.Entity} {id : EntityId}
    (identified : kind.idOf entity = id) :
    (tables.put kind entity).find? kind id = some entity := by
  rw [find?_put, if_pos identified]

theorem find?_put_of_free {tables : Tables} {kind : EntityKind} {entity row : kind.Entity}
    {id : EntityId} (free : tables.find? kind (kind.idOf entity) = none)
    (found : tables.find? kind id = some row) :
    (tables.put kind entity).find? kind id = some row := by
  rw [find?_put, if_neg]
  · exact found
  · rintro rfl
    rw [free] at found
    contradiction

theorem put_self {tables : Tables} {kind : EntityKind} {id : EntityId} {entity : kind.Entity}
    (found : tables.find? kind id = some entity) : tables.put kind entity = tables := by
  apply ext_find?
  intro other place
  by_cases same : other = kind
  · subst same
    rw [find?_put, idOf_of_find? found]
    split
    next here => rw [← here, found]
    next => rfl
  · exact find?_put_of_ne _ _ _ same

theorem find?_put_of_not {kinds : EntityKind → Prop} {kind other : EntityKind}
    (apart : ¬kinds kind) (tables : Tables) (entity : kind.Entity) (id : EntityId)
    (among : kinds other) : (tables.put kind entity).find? other id = tables.find? other id := by
  apply find?_put_of_ne
  rintro rfl
  exact apart among

@[simp] theorem mem_entities_iff {tables : Tables} {kind : EntityKind} {entity : kind.Entity} :
    entity ∈ tables.entities kind ↔ tables.find? kind (kind.idOf entity) = some entity :=
  Roster.mem_items_iff

theorem nodup_ids (tables : Tables) (kind : EntityKind) :
    ((tables.entities kind).map kind.idOf).Nodup := by
  refine List.pairwise_map.2 ((tables.table kind).sorted.imp fun {left right} less same => ?_)
  exact EntityId.lt_irrefl _ (same ▸ less)

theorem contains_iff {tables : Tables} {kind : EntityKind} {id : EntityId} :
    tables.contains kind id = true ↔ ∃ entity, tables.find? kind id = some entity := by
  rw [contains, Option.isSome_iff_exists]

theorem contains_of_find? {tables : Tables} {kind : EntityKind} {id : EntityId}
    {entity : kind.Entity} (found : tables.find? kind id = some entity) :
    tables.contains kind id = true :=
  contains_iff.2 ⟨entity, found⟩

@[simp] theorem contains_put_iff (tables : Tables) (kind other : EntityKind) (entity : kind.Entity)
    (id : EntityId) :
    (tables.put kind entity).contains other id = true ↔
      other = kind ∧ kind.idOf entity = id ∨ tables.contains other id = true := by
  unfold contains
  by_cases same : other = kind
  · subst same
    rw [find?_put]
    by_cases here : other.idOf entity = id <;> simp [here]
  · rw [find?_put_of_ne _ _ _ same]
    simp [same]

@[simp] theorem contains_put_self (tables : Tables) (kind : EntityKind) (entity : kind.Entity) :
    (tables.put kind entity).contains kind (kind.idOf entity) = true :=
  (contains_put_iff ..).2 (.inl ⟨rfl, rfl⟩)

@[simp] theorem contains_put_of_contains {tables : Tables} {other : EntityKind} {id : EntityId}
    (there : tables.contains other id = true) (kind : EntityKind) (entity : kind.Entity) :
    (tables.put kind entity).contains other id = true :=
  (contains_put_iff ..).2 (.inr there)

theorem contains_of_findWhere? {tables : Tables} {kind : EntityKind} {predicate : Predicate}
    {id : EntityId} (found : (tables.findWhere? kind predicate).map kind.idOf = some id) :
    tables.contains kind id = true := by
  obtain ⟨entity, selected, rfl⟩ := Option.map_eq_some_iff.1 found
  exact contains_of_find? (mem_entities_iff.1 (List.mem_of_find?_eq_some selected))

theorem mem_idsWhere_iff {tables : Tables} {kind : EntityKind} {keep : kind.Entity → Bool}
    {id : EntityId} :
    id ∈ tables.idsWhere kind keep ↔
      ∃ entity, tables.find? kind id = some entity ∧ keep entity := by
  simp only [idsWhere, List.mem_map, List.mem_filter, mem_entities_iff]
  constructor
  · rintro ⟨entity, ⟨found, kept⟩, rfl⟩
    exact ⟨entity, found, kept⟩
  · rintro ⟨entity, found, kept⟩
    have same := idOf_of_find? found
    exact ⟨entity, ⟨same ▸ found, kept⟩, same⟩

end Tables

end SensorThings
