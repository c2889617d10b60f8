import SensorThings.Proofs.Change.Run

/-!
Changes that preserve a property of the tables. A change is composed of others, and what each of
them preserves, the whole preserves; a result may be known to be good where later parts rely on it.
-/
namespace SensorThings.Change

variable {α β : Type} {holds : Tables → Prop} {good : α → Prop} {better : β → Prop}

/-- Where a change succeeds from tables for which something holds, it holds afterwards too, and the
result is good. -/
def Preserves (holds : Tables → Prop) (change : Change α) (good : α → Prop) : Prop :=
  ∀ ⦃environment before value after⦄, change.Returns environment before value after →
    holds before.tables → holds after.tables ∧ good value

theorem preserves_pure {value : α} (isGood : good value) :
    (pure value : Change α).Preserves holds good := by
  intro environment before result after ran kept
  obtain ⟨rfl, rfl⟩ := returns_pure.1 ran
  exact ⟨kept, isGood⟩

theorem preserves_throw (failure : Failure) :
    (throw failure : Change α).Preserves holds good :=
  fun _ _ _ _ ran _ => (returns_throw.1 ran).elim

theorem Preserves.bind {change : Change α} {next : α → Change β}
    (first : change.Preserves holds good)
    (second : ∀ value, good value → (next value).Preserves holds better) :
    (change >>= next).Preserves holds better := by
  intro environment before value after ran kept
  obtain ⟨found, middle, firstRan, secondRan⟩ := returns_bind.1 ran
  obtain ⟨keptThen, isGood⟩ := first firstRan kept
  exact second found isGood secondRan keptThen

theorem preserves_ite {condition : Prop} [Decidable condition] {left right : Change α}
    (whenTrue : left.Preserves holds good) (whenFalse : right.Preserves holds good) :
    (if condition then left else right).Preserves holds good := by
  split
  · exact whenTrue
  · exact whenFalse

theorem preserves_forM {items : List α} {action : α → Change Unit}
    (each : ∀ item ∈ items, (action item).Preserves holds fun _ => True) :
    (items.forM action).Preserves holds fun _ => True := by
  induction items with
  | nil => exact preserves_pure trivial
  | cons item rest ih =>
    rw [List.forall_mem_cons] at each
    exact each.1.bind fun _ _ => ih each.2

theorem preserves_mapM {items : List α} {action : α → Change β}
    (each : ∀ item ∈ items, (action item).Preserves holds fun _ => True) :
    (items.mapM action).Preserves holds fun _ => True := by
  induction items with
  | nil => exact preserves_pure trivial
  | cons item rest ih =>
    rw [List.forall_mem_cons] at each
    rw [List.mapM_cons]
    exact each.1.bind fun _ _ => (ih each.2).bind fun _ _ => preserves_pure trivial

theorem preserves_of_tables {change : Change α}
    (reads : ∀ {environment before value after}, change.Returns environment before value after →
      after.tables = before.tables ∧ good value) : change.Preserves holds good := by
  intro environment before value after ran kept
  obtain ⟨same, isGood⟩ := reads ran
  exact ⟨same ▸ kept, isGood⟩

theorem preserves_save {kind : EntityKind} {entity : kind.Entity}
    (kept : ∀ tables, holds tables → holds (tables.put kind entity)) :
    (save kind entity).Preserves holds fun _ => True := by
  intro environment before value after ran heldBefore
  obtain rfl := returns_save.1 ran
  rw [Progress.save_tables]
  exact ⟨kept _ heldBefore, trivial⟩

theorem preserves_delete {kind : EntityKind} {id : EntityId}
    (kept : ∀ tables, holds tables → holds (tables.remove kind id)) :
    (delete kind id).Preserves holds fun _ => True := by
  intro environment before value after ran heldBefore
  obtain ⟨-, removed, -⟩ := ran.delete
  rw [removed]
  exact ⟨kept _ heldBefore, trivial⟩

theorem preserves_fetch {kind : EntityKind} {id : EntityId} {good : kind.Entity → Prop}
    (rows : ∀ tables, holds tables → ∀ row, tables.find? kind id = some row → good row) :
    (fetch kind id).Preserves holds good := by
  intro environment before value after ran kept
  obtain ⟨found, rfl⟩ := (returns_fetch kind).1 ran
  exact ⟨kept, rows _ kept value found⟩

theorem preserves_find? {kind : EntityKind} {id : EntityId} {good : kind.Entity → Prop}
    (rows : ∀ tables, holds tables → ∀ row, tables.find? kind id = some row → good row) :
    (find? kind id).Preserves holds fun found => ∀ row, found = some row → good row := by
  intro environment before value after ran kept
  obtain ⟨rfl, rfl⟩ := (returns_find? kind).1 ran
  exact ⟨kept, rows _ kept⟩

@[simp] theorem preserves_tables : Change.tables.Preserves holds holds := by
  intro environment before value after ran kept
  obtain ⟨rfl, rfl⟩ := returns_tables.1 ran
  exact ⟨kept, kept⟩

/-! What only reads. -/

theorem preserves_ofExcept {result : Except Failure α}
    (isGood : ∀ value, result = .ok value → good value) :
    (ofExcept result).Preserves holds good :=
  preserves_of_tables fun ran => by
    obtain ⟨same, rfl⟩ := returns_ofExcept.1 ran
    exact ⟨rfl, isGood _ same⟩

theorem preserves_require {kind : EntityKind} {property : String} {given : Option α}
    (isGood : ∀ value, given = some value → good value) :
    (require kind property given).Preserves holds good :=
  preserves_of_tables fun ran => by
    obtain ⟨same, rfl⟩ := returns_require.1 ran
    exact ⟨rfl, isGood _ same⟩

theorem preserves_member (kind : EntityKind) (property : String) (given : Option α) :
    (require kind property given).Preserves holds fun _ => True :=
  preserves_require fun _ _ => trivial

theorem preserves_requireThat (kind : EntityKind) (property : String) (given : Bool) :
    (requireThat kind property given).Preserves holds fun _ => True :=
  preserves_of_tables fun ran => by
    obtain ⟨-, rfl⟩ := returns_requireThat.1 ran
    exact ⟨rfl, trivial⟩

theorem preserves_now : now.Preserves holds fun _ => True :=
  preserves_of_tables fun ran => by
    obtain ⟨-, rfl⟩ := returns_now.1 ran
    exact ⟨rfl, trivial⟩

theorem preserves_config : config.Preserves holds fun _ => True :=
  preserves_of_tables fun ran => by
    obtain ⟨-, rfl⟩ := returns_config.1 ran
    exact ⟨rfl, trivial⟩

theorem preserves_draw : draw.Preserves holds fun _ => True :=
  preserves_of_tables fun ran => by
    obtain ⟨-, rfl⟩ := returns_draw.1 ran
    exact ⟨Progress.draw_tables _, trivial⟩

theorem preserves_claim (kind : EntityKind) (given : Option EntityId) :
    (claim kind given).Preserves holds fun _ => True :=
  preserves_of_tables fun ran => ⟨ran.claim_tables, trivial⟩

theorem preserves_idsWhere (kind : EntityKind) (keep : kind.Entity → Bool) :
    (idsWhere kind keep).Preserves holds fun _ => True :=
  preserves_of_tables fun ran => by
    obtain ⟨-, rfl⟩ := returns_idsWhere.1 ran
    exact ⟨rfl, trivial⟩

theorem preserves_existing (kind : EntityKind) (id : EntityId) :
    (existing kind id).Preserves holds fun _ => True :=
  preserves_of_tables fun ran => by
    obtain ⟨-, -, rfl⟩ := returns_existing.1 ran
    exact ⟨rfl, trivial⟩

theorem preserves_idWhere? (kind : EntityKind) (predicate : Predicate) :
    (idWhere? kind predicate).Preserves holds fun _ => True :=
  preserves_of_tables fun ran => by
    obtain ⟨-, rfl⟩ := returns_idWhere?.1 ran
    exact ⟨rfl, trivial⟩

theorem preserves_featureId (location : EntityId) :
    (featureId location).Preserves holds fun _ => True :=
  preserves_of_tables fun ran => ⟨ran.featureId_tables, trivial⟩

end SensorThings.Change
