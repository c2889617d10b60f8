import SensorThings.Proofs.Change.Composed
import SensorThings.Proofs.Change.Run

/-!
What changes depend on. A change within some regions neither reads nor writes anything else, so
changes within different regions can be swapped. The log of a transaction is no region: changes
write it and never read it.
-/
namespace SensorThings

/-- What a change can read and write. -/
inductive Region where
  /-- The entities of a kind. -/
  | rows (kind : EntityKind)
  /-- The identifiers that are left to draw. -/
  | supply

namespace Region

def Any (_ : Region) : Prop := True

def RowsOf (kind : EntityKind) (region : Region) : Prop :=
  region = rows kind

theorem rowsOf_rows (kind : EntityKind) : RowsOf kind (rows kind) := rfl

end Region

namespace Progress

/-- Two progresses that differ in other regions only. -/
structure AgreeOn (regions : Region → Prop) (left right : Progress) : Prop where
  rows : ∀ kind, regions (.rows kind) →
    ∀ id, left.tables.find? kind id = right.tables.find? kind id
  supply : regions .supply → left.drawn = right.drawn

namespace AgreeOn

variable {regions : Region → Prop} {left middle right : Progress}

theorem refl (progress : Progress) : progress.AgreeOn regions progress :=
  ⟨fun _ _ _ => rfl, fun _ => rfl⟩

theorem symm (agree : left.AgreeOn regions right) : right.AgreeOn regions left :=
  ⟨fun kind uses id => (agree.rows kind uses id).symm, fun uses => (agree.supply uses).symm⟩

theorem trans (first : left.AgreeOn regions middle) (second : middle.AgreeOn regions right) :
    left.AgreeOn regions right :=
  ⟨fun kind uses id => (first.rows kind uses id).trans (second.rows kind uses id),
    fun uses => (first.supply uses).trans (second.supply uses)⟩

theorem mono {fewer : Region → Prop} (agree : left.AgreeOn regions right)
    (fewerOf : ∀ region, fewer region → regions region) : left.AgreeOn fewer right :=
  ⟨fun kind uses => agree.rows kind (fewerOf _ uses), fun uses => agree.supply (fewerOf _ uses)⟩

theorem of_cases (part : Region → Prop) (inside : left.AgreeOn part right)
    (outside : left.AgreeOn (fun region => regions region ∧ ¬part region) right) :
    left.AgreeOn regions right := by
  constructor
  · intro kind uses
    by_cases inPart : part (.rows kind)
    · exact inside.rows kind inPart
    · exact outside.rows kind ⟨uses, inPart⟩
  · intro uses
    by_cases inPart : part .supply
    · exact inside.supply inPart
    · exact outside.supply ⟨uses, inPart⟩

theorem tables_eq (agree : left.AgreeOn Region.Any right) : left.tables = right.tables :=
  Tables.ext_find? fun kind id => agree.rows kind trivial id

theorem contains_eq (agree : left.AgreeOn regions right) {kind : EntityKind}
    (uses : regions (.rows kind)) (id : EntityId) :
    left.tables.contains kind id = right.tables.contains kind id := by
  unfold Tables.contains
  rw [agree.rows kind uses]

theorem save (agree : left.AgreeOn regions right) (kind : EntityKind) (entity : kind.Entity) :
    (left.save kind entity).AgreeOn regions (right.save kind entity) := by
  constructor
  · intro other uses id
    rw [save_tables, save_tables]
    by_cases same : kind = other
    · subst same
      rw [Tables.find?_put, Tables.find?_put, agree.rows kind uses]
    · rw [Tables.find?_put_of_ne _ _ _ (Ne.symm same), Tables.find?_put_of_ne _ _ _ (Ne.symm same),
        agree.rows other uses]
  · exact agree.supply

end AgreeOn

end Progress

namespace Change

variable {α β γ : Type} {regions : Region → Prop} {environment : Environment}
  {before after : Progress}

/-- The change does the same wherever the regions are the same, and leaves all others alone. -/
structure Within (regions : Region → Prop) (change : Change α) : Prop where
  follows : ∀ ⦃environment before value after other⦄,
    change.Returns environment before value after → before.AgreeOn regions other →
      ∃ later, change.Returns environment other value later ∧ after.AgreeOn regions later
  frame : ∀ ⦃environment before value after⦄, change.Returns environment before value after →
    after.AgreeOn (fun region => ¬regions region) before

theorem within_of_reads {change : Change α} {outcome : Environment → Progress → α → Prop}
    (returns : ∀ {environment before value after},
      change.Returns environment before value after ↔
        outcome environment before value ∧ before = after)
    (depends : ∀ {environment before value other}, before.AgreeOn regions other →
      outcome environment before value → outcome environment other value) :
    change.Within regions := by
  constructor
  · intro environment before value after other ran agree
    obtain ⟨found, rfl⟩ := returns.1 ran
    exact ⟨other, returns.2 ⟨depends agree found, rfl⟩, agree⟩
  · intro environment before value after ran
    obtain ⟨-, rfl⟩ := returns.1 ran
    exact .refl before

theorem within_pure (value : α) : (pure value : Change α).Within regions :=
  within_of_reads returns_pure fun _ => id

theorem within_throw (failure : Failure) : (throw failure : Change α).Within regions :=
  ⟨fun _ _ _ _ _ ran => (returns_throw.1 ran).elim, fun _ _ _ _ ran => (returns_throw.1 ran).elim⟩

theorem Within.bind {change : Change α} {next : α → Change β} (first : change.Within regions)
    (second : ∀ value, (next value).Within regions) : (change >>= next).Within regions := by
  constructor
  · intro environment before value after other ran agree
    obtain ⟨found, middle, firstRan, secondRan⟩ := returns_bind.1 ran
    obtain ⟨between, firstLater, agreeThen⟩ := first.follows firstRan agree
    obtain ⟨later, secondLater, agreeAfter⟩ := (second found).follows secondRan agreeThen
    exact ⟨later, returns_bind.2 ⟨found, between, firstLater, secondLater⟩, agreeAfter⟩
  · intro environment before value after ran
    obtain ⟨found, middle, firstRan, secondRan⟩ := returns_bind.1 ran
    exact ((second found).frame secondRan).trans (first.frame firstRan)

/-! The primitive operations. -/

theorem within_require (kind : EntityKind) (property : String) (given : Option α) :
    (require kind property given).Within regions :=
  within_of_reads returns_require fun _ => id

theorem within_now : now.Within regions :=
  within_of_reads returns_now fun _ => id

theorem within_config : config.Within regions :=
  within_of_reads returns_config fun _ => id

theorem within_tables : Change.tables.Within Region.Any :=
  within_of_reads returns_tables fun agree found => agree.tables_eq ▸ found

theorem within_fetch {kind : EntityKind} (uses : regions (.rows kind)) (id : EntityId) :
    (fetch kind id).Within regions :=
  within_of_reads (returns_fetch kind) fun agree found => (agree.rows kind uses id).symm.trans found

theorem within_existing {kind : EntityKind} (uses : regions (.rows kind)) (id : EntityId) :
    (existing kind id).Within regions :=
  (within_fetch uses id).bind fun _ => within_pure id

theorem within_draw (uses : regions .supply) : draw.Within regions := by
  constructor
  · intro environment before value after other ran agree
    obtain ⟨rfl, rfl⟩ := returns_draw.1 ran
    rw [agree.supply uses]
    refine ⟨other.draw, returns_draw.2 ⟨rfl, rfl⟩, agree.rows, fun _ => ?_⟩
    rw [Progress.draw_drawn, Progress.draw_drawn, agree.supply uses]
  · intro environment before value after ran
    obtain ⟨-, rfl⟩ := returns_draw.1 ran
    exact ⟨fun _ _ _ => rfl, fun unused => (unused uses).elim⟩

theorem within_save {kind : EntityKind} (uses : regions (.rows kind)) (entity : kind.Entity) :
    (save kind entity).Within regions := by
  constructor
  · intro environment before value after other ran agree
    obtain rfl := returns_save.1 ran
    exact ⟨other.save kind entity, returns_save.2 rfl, agree.save kind entity⟩
  · intro environment before value after ran
    obtain rfl := returns_save.1 ran
    refine ⟨fun other unused id => ?_, fun _ => rfl⟩
    rw [Progress.find?_save_of_ne]
    rintro rfl
    exact unused uses

theorem within_delete {kind : EntityKind} (uses : regions (.rows kind)) (id : EntityId) :
    (delete kind id).Within regions := by
  constructor
  · intro environment before value after other ran agree
    obtain ⟨found, removed, drawn⟩ := ran.delete
    rw [agree.rows kind uses] at found
    obtain ⟨later, ranToo⟩ := exists_delete found
    obtain ⟨-, removedToo, drawnToo⟩ := ranToo.delete
    refine ⟨later, ranToo, fun place usesPlace key => ?_, fun usesSupply => ?_⟩
    · rw [removed, removedToo]
      by_cases same : place = kind
      · subst same
        rw [Tables.find?_remove, Tables.find?_remove, agree.rows place uses]
      · rw [Tables.find?_remove_of_ne _ _ _ same, Tables.find?_remove_of_ne _ _ _ same,
          agree.rows place usesPlace]
    · rw [drawn, drawnToo, agree.supply usesSupply]
  · intro environment before value after ran
    obtain ⟨-, removed, drawn⟩ := ran.delete
    refine ⟨fun place unused key => ?_, fun _ => drawn⟩
    rw [removed, Tables.find?_remove_of_ne]
    rintro rfl
    exact unused uses

theorem within_claim {kind : EntityKind} (uses : regions (.rows kind)) (id : EntityId) :
    (claim kind (some id)).Within regions :=
  within_of_reads returns_claim_some fun agree found =>
    ⟨found.1, (agree.contains_eq uses id).symm.trans found.2⟩

theorem Composed.within {change : Change α} (composed : change.Composed) :
    change.Within Region.Any := by
  induction composed with
  | pure value => exact within_pure value
  | throw failure => exact within_throw failure
  | bind first second withinFirst withinSecond => exact withinFirst.bind withinSecond
  | now => exact within_now
  | config => exact within_config
  | tables => exact within_tables
  | draw => exact within_draw trivial
  | save kind entity => exact within_save trivial entity
  | delete kind id => exact within_delete trivial id

theorem Returns.swap {first : Change α} {second : Change β} {next : α → β → Change γ}
    {left right : Region → Prop} {value : γ}
    (ran : (first >>= fun x => second >>= fun y => next x y).Returns environment before value
      after)
    (firstWithin : first.Within left) (secondWithin : second.Within right)
    (nextWithin : ∀ x y, (next x y).Within Region.Any)
    (apart : ∀ region, left region → ¬right region) :
    ∃ later, (second >>= fun y => first >>= fun x => next x y).Returns environment before value
      later ∧ after.tables = later.tables := by
  have apartToo : ∀ region, right region → ¬left region :=
    fun region uses usesToo => apart region usesToo uses
  obtain ⟨x, middle, firstRan, rest⟩ := returns_bind.1 ran
  obtain ⟨y, last, secondRan, nextRan⟩ := returns_bind.1 rest
  have firstLeaves := firstWithin.frame firstRan
  have secondLeaves := secondWithin.frame secondRan
  obtain ⟨between, secondThen, agreeSecond⟩ :=
    secondWithin.follows secondRan (firstLeaves.mono apartToo)
  have secondLeavesThen := secondWithin.frame secondThen
  obtain ⟨lastThen, firstThen, agreeFirst⟩ :=
    firstWithin.follows firstRan (secondLeavesThen.symm.mono apart)
  have firstLeavesThen := firstWithin.frame firstThen
  have agree : last.AgreeOn Region.Any lastThen := by
    apply Progress.AgreeOn.of_cases left
    · exact (secondLeaves.mono apart).trans agreeFirst
    apply Progress.AgreeOn.of_cases right
    · exact agreeSecond.trans (firstLeavesThen.symm.mono apartToo)
    -- Everything else is as it was before both, in either order.
    have unchanged : last.AgreeOn (fun region => ¬left region ∧ ¬right region) lastThen :=
      .trans (secondLeaves.mono fun _ => And.right) <|
        .trans (firstLeaves.mono fun _ => And.left) <|
        .trans (secondLeavesThen.symm.mono fun _ => And.right)
          (firstLeavesThen.symm.mono fun _ => And.left)
    exact unchanged.mono fun _ neither => ⟨neither.1.2, neither.2⟩
  obtain ⟨later, nextThen, agreeLater⟩ := (nextWithin x y).follows nextRan agree
  exact ⟨later, returns_bind.2 ⟨y, between, secondThen,
    returns_bind.2 ⟨x, lastThen, firstThen, nextThen⟩⟩, agreeLater.tables_eq⟩

/-! The parts that drafts with identifiers of their own are made from. -/

theorem within_addThing (uses : regions (.rows .thing)) (id : EntityId)
    (name description : Option String) (properties : Option Json) :
    (addThing (some id) name description properties).Within regions := by
  unfold addThing
  refine (within_require _ _ _).bind fun name => (within_require _ _ _).bind fun description => ?_
  exact (within_claim uses id).bind fun id => (within_save uses _).bind fun _ => within_pure id

theorem within_addLocation (uses : regions (.rows .location)) (id : EntityId)
    (name description encodingType : Option String) (location : Option SentGeometry)
    (properties : Option Json) :
    (addLocation (some id) name description encodingType location properties).Within
      regions := by
  unfold addLocation
  refine (within_require _ _ _).bind fun name => (within_pure none).bind fun found => ?_
  cases found with
  | some found => exact within_pure found
  | none =>
    refine (within_require _ _ _).bind fun description => ?_
    refine (within_require _ _ _).bind fun encodingType => ?_
    refine (within_require _ _ _).bind fun sent => ?_
    exact (within_claim uses id).bind fun id => (within_save uses _).bind fun _ => within_pure id

theorem within_addSensor (uses : regions (.rows .sensor)) (id : EntityId)
    (name description encodingType metadata : Option String) (properties : Option Json) :
    (addSensor (some id) name description encodingType metadata properties).Within regions := by
  unfold addSensor
  refine (within_claim uses id).bind fun id => (within_require _ _ _).bind fun name => ?_
  refine (within_require _ _ _).bind fun description => ?_
  refine (within_require _ _ _).bind fun encodingType => (within_require _ _ _).bind fun data => ?_
  exact (within_save uses _).bind fun _ => within_pure id

theorem within_addObservedProperty (uses : regions (.rows .observedProperty)) (id : EntityId)
    (name definition description : Option String) (properties : Option Json) :
    (addObservedProperty (some id) name definition description properties).Within regions := by
  unfold addObservedProperty
  refine (within_require _ _ _).bind fun name => (within_require _ _ _).bind fun definition => ?_
  refine (within_require _ _ _).bind fun description => (within_pure none).bind fun found => ?_
  cases found with
  | some found => exact within_pure found
  | none =>
    exact (within_claim uses id).bind fun id => (within_save uses _).bind fun _ => within_pure id

end Change

end SensorThings
