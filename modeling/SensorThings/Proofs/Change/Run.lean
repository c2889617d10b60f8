import SensorThings.Change.Creation
import SensorThings.Proofs.Store.View

/-!
Runs of changes that succeed. What each operation does to the tables and to the count of drawn
identifiers is said here once; whatever is composed of them is taken apart by these lemmas.
-/
namespace SensorThings

namespace Progress

def tables (progress : Progress) : Tables :=
  progress.transaction.tables

def save (progress : Progress) (kind : EntityKind) (entity : kind.Entity) : Progress :=
  { progress with transaction := progress.transaction.save kind entity }

def draw (progress : Progress) : Progress :=
  { progress with drawn := progress.drawn + 1 }

def start (tables : Tables) : Progress :=
  ⟨.start tables, 0⟩

@[simp] theorem start_tables (tables : Tables) : (start tables).tables = tables := rfl

@[simp] theorem save_tables (progress : Progress) (kind : EntityKind) (entity : kind.Entity) :
    (progress.save kind entity).tables = progress.tables.put kind entity := by
  simp only [save, tables, Transaction.save]
  split <;> rfl

theorem find?_save_of_ne (progress : Progress) {kind other : EntityKind} (entity : kind.Entity)
    (id : EntityId) (different : other ≠ kind) :
    (progress.save kind entity).tables.find? other id = progress.tables.find? other id := by
  simp [different]

@[simp] theorem save_drawn (progress : Progress) (kind : EntityKind) (entity : kind.Entity) :
    (progress.save kind entity).drawn = progress.drawn := rfl

@[simp] theorem draw_tables (progress : Progress) : progress.draw.tables = progress.tables := rfl

@[simp] theorem draw_drawn (progress : Progress) : progress.draw.drawn = progress.drawn + 1 := rfl

theorem contains_save_iff {progress : Progress} {kind : EntityKind} {entity : kind.Entity}
    {key : Key} :
    (progress.save kind entity).tables.contains key.kind key.id = true ↔
      key = ⟨kind, kind.idOf entity⟩ ∨ progress.tables.contains key.kind key.id = true := by
  obtain ⟨other, id⟩ := key
  rw [save_tables, Tables.contains_put_iff, Key.mk.injEq]
  exact or_congr_left (and_congr_right fun _ => eq_comm)

theorem contains_save_self (progress : Progress) (kind : EntityKind) (entity : kind.Entity) :
    (progress.save kind entity).tables.contains kind (kind.idOf entity) = true := by
  rw [save_tables]
  exact Tables.contains_put_self _ _ _

theorem contains_save {progress : Progress} {other : EntityKind} {id : EntityId}
    (there : progress.tables.contains other id = true) (kind : EntityKind) (entity : kind.Entity) :
    (progress.save kind entity).tables.contains other id = true := by
  rw [save_tables]
  exact Tables.contains_put_of_contains there _ _

end Progress

namespace Change

variable {α β : Type} {environment : Environment} {before after : Progress}

def Returns (change : Change α) (environment : Environment) (before : Progress) (value : α)
    (after : Progress) : Prop :=
  change environment before = .ok value after

theorem returns_iff {change : Change α} {result value : α} {left : Progress}
    (ran : change environment before = .ok result left) :
    change.Returns environment before value after ↔ result = value ∧ left = after := by
  unfold Returns
  rw [ran, EStateM.Result.ok.injEq]

@[simp] theorem returns_pure {result value : α} :
    (pure result : Change α).Returns environment before value after ↔
      result = value ∧ before = after :=
  returns_iff rfl

@[simp] theorem returns_throw {failure : Failure} {value : α} :
    (throw failure : Change α).Returns environment before value after ↔ False := by
  constructor
  · intro ran
    have failed : EStateM.Result.error failure before = .ok value after := ran
    contradiction
  · exact False.elim

@[simp] theorem returns_bind {change : Change α} {next : α → Change β} {value : β} :
    (change >>= next).Returns environment before value after ↔
      ∃ found middle, change.Returns environment before found middle ∧
        (next found).Returns environment middle value after := by
  simp only [Returns, Bind.bind, ReaderT.bind, EStateM.bind]
  cases ran : change environment before with
  | ok found middle =>
    constructor
    · exact fun rest => ⟨found, middle, rfl, rest⟩
    · rintro ⟨_, _, ⟨⟩, rest⟩
      exact rest
  | error failure middle => simp

theorem returns_bind_congr {change : Change α} {next other : α → Change β} {value : β}
    (same : ∀ found middle, change.Returns environment before found middle →
      ((next found).Returns environment middle value after ↔
        (other found).Returns environment middle value after)) :
    (change >>= next).Returns environment before value after ↔
      (change >>= other).Returns environment before value after := by
  simp only [returns_bind]
  exact exists_congr fun found => exists_congr fun middle => and_congr_right (same found middle)

theorem returns_bind_of_reads {change : Change α} {next : α → Change β}
    {outcome : α → Prop} {value : β}
    (reads : ∀ {found middle}, change.Returns environment before found middle ↔
      outcome found ∧ before = middle) :
    (change >>= next).Returns environment before value after ↔
      ∃ found, outcome found ∧ (next found).Returns environment before value after := by
  rw [returns_bind]
  constructor
  · rintro ⟨found, _, ran, rest⟩
    obtain ⟨here, rfl⟩ := reads.1 ran
    exact ⟨found, here, rest⟩
  · rintro ⟨found, here, rest⟩
    exact ⟨found, before, reads.2 ⟨here, rfl⟩, rest⟩

@[simp]
theorem returns_ite {condition : Prop} [Decidable condition] {left right : Change α} {value : α} :
    (if condition then left else right).Returns environment before value after ↔
      condition ∧ left.Returns environment before value after ∨
      ¬condition ∧ right.Returns environment before value after := by
  by_cases holds : condition <;> simp [holds]

@[simp] theorem returns_now {value : Instant} :
    now.Returns environment before value after ↔ environment.now = value ∧ before = after :=
  returns_iff rfl

@[simp] theorem returns_config {value : Config} :
    config.Returns environment before value after ↔
      environment.config = value ∧ before = after :=
  returns_iff rfl

@[simp] theorem returns_tables {value : Tables} :
    Change.tables.Returns environment before value after ↔
      before.tables = value ∧ before = after :=
  returns_iff rfl

@[simp] theorem returns_draw {value : EntityId} :
    draw.Returns environment before value after ↔
      environment.fresh (before.drawn + 1) = value ∧ before.draw = after :=
  returns_iff rfl

@[simp] theorem returns_save {kind : EntityKind} {entity : kind.Entity} {value : Unit} :
    (save kind entity).Returns environment before value after ↔
      before.save kind entity = after := by
  have saved : (save kind entity).Returns environment before value after ↔
      () = value ∧ before.save kind entity = after := returns_iff rfl
  simpa using saved

theorem Returns.delete {kind : EntityKind} {id : EntityId} {value : kind.Entity}
    (ran : (Change.delete kind id).Returns environment before value after) :
    before.tables.find? kind id = some value ∧
      after.tables = before.tables.remove kind id ∧ after.drawn = before.drawn := by
  unfold Returns Change.delete Transaction.delete at ran
  unfold Progress.tables
  cases found : before.transaction.tables.find? kind id with
  | none => simp [found] at ran
  | some entity =>
    simp only [found, EStateM.Result.ok.injEq] at ran
    obtain ⟨rfl, rfl⟩ := ran
    exact ⟨rfl, rfl, rfl⟩

theorem exists_delete {kind : EntityKind} {id : EntityId} {value : kind.Entity}
    (found : before.tables.find? kind id = some value) :
    ∃ after, (Change.delete kind id).Returns environment before value after := by
  have found : before.transaction.tables.find? kind id = some value := found
  unfold Returns Change.delete Transaction.delete
  rw [found]
  exact ⟨_, rfl⟩

@[simp] theorem returns_ofExcept {result : Except Failure α} {value : α} :
    (ofExcept result).Returns environment before value after ↔
      result = .ok value ∧ before = after := by
  cases result with
  | ok found =>
    rw [ofExcept, returns_pure, Except.ok.injEq]
  | error failure => simp [ofExcept, returns_throw]

@[simp] theorem returns_missing {kind : EntityKind} {property : String} {value : α} :
    (missing kind property : Change α).Returns environment before value after ↔ False :=
  returns_throw

@[simp]
theorem returns_require {kind : EntityKind} {property : String} {given : Option α} {value : α} :
    (require kind property given).Returns environment before value after ↔
      given = some value ∧ before = after := by
  cases given with
  | some found =>
    rw [require, returns_pure, Option.some.injEq]
  | none => simp [require, returns_missing]

@[simp]
theorem returns_requireThat {kind : EntityKind} {property : String} {given : Bool} {value : Unit} :
    (requireThat kind property given).Returns environment before value after ↔
      given = true ∧ before = after := by
  simp [requireThat, returns_ite, returns_missing, returns_pure]

/-! In the lemmas about reading, the kind is explicit: the type of what is read depends on it. -/

@[simp] theorem returns_find? (kind : EntityKind) {id : EntityId} {value : Option kind.Entity} :
    (Change.find? kind id).Returns environment before value after ↔
      before.tables.find? kind id = value ∧ before = after :=
  returns_iff rfl

@[simp] theorem returns_fetch (kind : EntityKind) {id : EntityId} {value : kind.Entity} :
    (fetch kind id).Returns environment before value after ↔
      before.tables.find? kind id = some value ∧ before = after := by
  unfold fetch
  rw [returns_bind]
  simp only [returns_tables, returns_ofExcept, Tables.get]
  constructor
  · rintro ⟨_, _, ⟨rfl, rfl⟩, gotten, same⟩
    refine ⟨?_, same⟩
    split at gotten
    next entity found => rw [found, Except.ok.inj gotten]
    next => contradiction
  · rintro ⟨found, rfl⟩
    exact ⟨_, _, ⟨rfl, rfl⟩, by rw [found], rfl⟩

@[simp] theorem returns_existing {kind : EntityKind} {id value : EntityId} :
    (existing kind id).Returns environment before value after ↔
      before.tables.contains kind id = true ∧ id = value ∧ before = after := by
  unfold existing
  rw [returns_bind, Tables.contains_iff]
  simp only [returns_fetch kind, returns_pure]
  constructor
  · rintro ⟨entity, _, ⟨found, rfl⟩, rfl, rfl⟩
    exact ⟨⟨entity, found⟩, rfl, rfl⟩
  · rintro ⟨⟨entity, found⟩, rfl, rfl⟩
    exact ⟨entity, _, ⟨found, rfl⟩, rfl, rfl⟩

theorem returns_existing_bind {kind : EntityKind} {id : EntityId}
    {next : EntityId → Change α} {value : α} :
    (existing kind id >>= next).Returns environment before value after ↔
      before.tables.contains kind id = true ∧ (next id).Returns environment before value after := by
  rw [returns_bind_of_reads (returns_existing.trans and_assoc.symm)]
  constructor
  · rintro ⟨_, ⟨there, rfl⟩, rest⟩
    exact ⟨there, rest⟩
  · rintro ⟨there, rest⟩
    exact ⟨id, ⟨there, rfl⟩, rest⟩

@[simp]
theorem returns_idWhere? {kind : EntityKind} {predicate : Predicate} {value : Option EntityId} :
    (idWhere? kind predicate).Returns environment before value after ↔
      (before.tables.findWhere? kind predicate).map kind.idOf = value ∧ before = after :=
  returns_iff rfl

@[simp]
theorem returns_idsWhere {kind : EntityKind} {keep : kind.Entity → Bool} {value : List EntityId} :
    (idsWhere kind keep).Returns environment before value after ↔
      before.tables.idsWhere kind keep = value ∧ before = after :=
  returns_iff rfl

theorem returns_claim {kind : EntityKind} {given : Option EntityId} {value : EntityId} :
    (claim kind given).Returns environment before value after ↔
      given = none ∧ environment.fresh (before.drawn + 1) = value ∧ before.draw = after ∨
      given = some value ∧ before.tables.contains kind value = false ∧ before = after := by
  cases given with
  | none => simp [claim, returns_draw]
  | some id =>
    unfold claim
    simp only [returns_bind, returns_tables, returns_ite, returns_throw, returns_pure]
    constructor
    · rintro ⟨_, _, ⟨rfl, rfl⟩, ⟨_, ⟨⟩⟩ | ⟨free, rfl, rfl⟩⟩
      exact .inr ⟨rfl, by simpa using free, rfl⟩
    · rintro (⟨⟨⟩, _⟩ | ⟨⟨⟩, free, rfl⟩)
      exact ⟨_, _, ⟨rfl, rfl⟩, .inr ⟨by simpa using free, rfl, rfl⟩⟩

@[simp] theorem returns_claim_some {kind : EntityKind} {id value : EntityId} :
    (claim kind (some id)).Returns environment before value after ↔
      (id = value ∧ before.tables.contains kind id = false) ∧ before = after := by
  rw [returns_claim]
  constructor
  · rintro (⟨⟨⟩, -⟩ | ⟨⟨⟩, free, rfl⟩)
    exact ⟨⟨rfl, free⟩, rfl⟩
  · rintro ⟨⟨rfl, free⟩, rfl⟩
    exact .inr ⟨rfl, free, rfl⟩

theorem Returns.claim_tables {kind : EntityKind} {given : Option EntityId} {value : EntityId}
    (ran : (claim kind given).Returns environment before value after) :
    after.tables = before.tables := by
  obtain ⟨-, -, rfl⟩ | ⟨-, -, rfl⟩ := returns_claim.1 ran <;> rfl

theorem Returns.claim_save_tables {kind other : EntityKind} {given : Option EntityId}
    {value : EntityId} {entity : other.Entity}
    (ran : (claim kind given).Returns environment before value after) :
    (after.save other entity).tables = before.tables.put other entity := by
  rw [Progress.save_tables, ran.claim_tables]

theorem returns_featureId {location value : EntityId} :
    (featureId location).Returns environment before value after ↔
      before.tables.contains .featureOfInterest location = true ∧
        environment.fresh (before.drawn + 1) = value ∧ before.draw = after ∨
      location = value ∧ before.tables.contains .featureOfInterest value = false ∧
        before = after := by
  unfold featureId
  simp only [returns_bind, returns_tables, returns_ite, returns_draw, returns_pure]
  constructor
  · rintro ⟨_, _, ⟨rfl, rfl⟩, drawn | ⟨free, rfl, rfl⟩⟩
    · exact .inl drawn
    · exact .inr ⟨rfl, by simpa using free, rfl⟩
  · rintro (drawn | ⟨rfl, free, rfl⟩)
    · exact ⟨_, _, ⟨rfl, rfl⟩, .inl drawn⟩
    · exact ⟨_, _, ⟨rfl, rfl⟩, .inr ⟨by simpa using free, rfl, rfl⟩⟩

theorem Returns.featureId_tables {location value : EntityId}
    (ran : (featureId location).Returns environment before value after) :
    after.tables = before.tables := by
  obtain ⟨-, -, rfl⟩ | ⟨-, -, rfl⟩ := returns_featureId.1 ran <;> rfl

theorem Returns.featureId_save_tables {location value : EntityId} {kind : EntityKind}
    {entity : kind.Entity} (ran : (featureId location).Returns environment before value after) :
    (after.save kind entity).tables = before.tables.put kind entity := by
  rw [Progress.save_tables, ran.featureId_tables]

theorem returns_forM_nil {action : α → Change Unit} {value : Unit} :
    (([] : List α).forM action).Returns environment before value after ↔ before = after := by
  simp

theorem returns_forM_cons {item : α} {items : List α} {action : α → Change Unit} {value : Unit} :
    ((item :: items).forM action).Returns environment before value after ↔
      ∃ middle, (action item).Returns environment before () middle ∧
        (items.forM action).Returns environment middle value after := by
  have step : (action item >>= fun _ => items.forM action).Returns environment before value after ↔
      _ := returns_bind
  exact step.trans ⟨fun ⟨_, middle, ran⟩ => ⟨middle, ran⟩, fun ⟨middle, ran⟩ => ⟨(), middle, ran⟩⟩

end Change

theorem Store.change_ok {α : Type} {store : Store} {environment : Environment} {change : Change α}
    {value : α} (succeeded : (store.change environment change).1 = .ok value) :
    ∃ after, change.Returns environment (.start store.tables) value after ∧
      (store.change environment change).2.tables = after.tables := by
  unfold Store.change Change.start at succeeded ⊢
  unfold Change.Returns Progress.start
  cases ran : change environment ⟨.start store.tables, 0⟩ with
  | ok found after =>
    rw [ran] at succeeded
    obtain rfl := Except.ok.inj succeeded
    exact ⟨after, rfl, rfl⟩
  | error failure after =>
    rw [ran] at succeeded
    contradiction

theorem Store.returns_of_change {α : Type} {store after : Store} {environment : Environment}
    {change : Change α} {value : α}
    (succeeded : store.change environment change = (.ok value, after)) :
    ∃ last, change.Returns environment (.start store.tables) value last ∧
      after.tables = last.tables := by
  obtain ⟨last, ran, tables⟩ := change_ok (congrArg Prod.fst succeeded)
  rw [succeeded] at tables
  exact ⟨last, ran, tables⟩

end SensorThings
