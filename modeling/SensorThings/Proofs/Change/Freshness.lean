import SensorThings.Proofs.Change.Making

/-!
Where new identifiers come from. Whatever a creation adds was sent under its identifier or has drawn
one; only a feature made from a location may have the identifier of the location. So identifiers
that are new at the start of a creation are new at every draw.
-/
namespace SensorThings

/-- The identifiers still to be drawn are all different, and neither in the tables nor among the
keys that a client sends. -/
structure Environment.Fresh (environment : Environment) (keys : List Key) (progress : Progress) :
    Prop where
  distinct : ∀ {number other}, environment.fresh number = environment.fresh other → number = other
  unused : ∀ number, progress.drawn < number → ∀ kind,
    progress.tables.contains kind (environment.fresh number) = false
  unsent : ∀ key ∈ keys, ∀ number, environment.fresh number ≠ key.id

theorem Change.Returns.claim_drawn {environment : Environment} {before after : Progress}
    {kind : EntityKind} {given : Option EntityId} {id : EntityId}
    (ran : (claim kind given).Returns environment before id after) :
    before.drawn ≤ after.drawn := by
  obtain ⟨-, -, rfl⟩ | ⟨-, -, rfl⟩ := returns_claim.1 ran
  · exact Nat.le_succ _
  · exact Nat.le_refl _

theorem Change.Returns.featureId_drawn {environment : Environment} {before after : Progress}
    {location id : EntityId} (ran : (featureId location).Returns environment before id after) :
    before.drawn ≤ after.drawn := by
  obtain ⟨-, -, rfl⟩ | ⟨-, -, rfl⟩ := returns_featureId.1 ran
  · exact Nat.le_succ _
  · exact Nat.le_refl _

/-- Why a key is there after a creation. -/
inductive Born (environment : Environment) (keys : List Key) (before after : Progress) (key : Key) :
    Prop where
  | old (there : before.tables.contains key.kind key.id = true)
  | sent (member : key ∈ keys)
  | drawn (number : Nat) (later : before.drawn < number) (within : number ≤ after.drawn)
      (same : environment.fresh number = key.id)
  | derived (feature : key.kind = .featureOfInterest)
      (located : after.tables.contains .location key.id = true)

namespace Born

variable {environment : Environment} {keys more : List Key} {before middle last after : Progress}
  {key : Key}

theorem widen (born : Born environment keys middle last key)
    (same : middle.tables = before.tables) (earlier : before.drawn ≤ middle.drawn)
    (subset : ∀ other ∈ keys, other ∈ more) (later : last.drawn ≤ after.drawn)
    (keeps : ∀ id, last.tables.contains .location id = true →
      after.tables.contains .location id = true) : Born environment more before after key := by
  cases born with
  | old there => exact .old (same ▸ there)
  | sent member => exact .sent (subset key member)
  | drawn number above within same =>
    exact .drawn number (Nat.lt_of_le_of_lt earlier above) (Nat.le_trans within later) same
  | derived feature located => exact .derived feature (keeps key.id located)

theorem of_save {kind : EntityKind} {entity : kind.Entity}
    (there : (middle.save kind entity).tables.contains key.kind key.id = true)
    (self : Born environment keys before after ⟨kind, kind.idOf entity⟩)
    (others : middle.tables.contains key.kind key.id = true →
      Born environment keys before after key) : Born environment keys before after key := by
  rcases Progress.contains_save_iff.1 there with rfl | old
  · exact self
  · exact others old

theorem claimed {kind : EntityKind} {given : Option EntityId} {inner : Outline} {id : EntityId}
    (ran : (Change.claim kind given).Returns environment before id middle)
    (later : middle.drawn ≤ after.drawn) :
    Born environment (Outline.named kind given inner .nil).keys before after ⟨kind, id⟩ := by
  obtain ⟨rfl, drawn, rfl⟩ | ⟨rfl, -, rfl⟩ := Change.returns_claim.1 ran
  · exact .drawn _ (Nat.lt_succ_self _) later drawn
  · exact .sent (by simp [Outline.named, Outline.keys])

end Born

namespace Outline

theorem mem_keys_named_of_inner {kind : EntityKind} {given : Option EntityId} {inner : Outline}
    (key : Key) (member : key ∈ inner.keys) : key ∈ (named kind given inner nil).keys := by
  cases given <;> simp [named, keys, member]

theorem nodup_inner {kind : EntityKind} {given : Option EntityId} {inner : Outline}
    (distinct : (named kind given inner nil).keys.Nodup) : inner.keys.Nodup := by
  cases given with
  | none => simpa [named] using distinct
  | some id =>
    simp only [named, keys, List.append_nil, List.nodup_cons] at distinct
    exact distinct.2

end Outline

namespace Creation

variable {environment : Environment} {outline first second : Outline}
  {before middle after : Progress}

theorem drawn_le (creation : Creation environment outline before after) :
    before.drawn ≤ after.drawn := by
  induction creation with
  | nil => exact Nat.le_refl _
  | append _ _ first second => exact Nat.le_trans first second
  | bare _ _ _ claimed => exact claimed.claim_drawn
  | feature _ _ claimed => exact claimed.claim_drawn
  | repeated => exact Nat.le_refl _
  | derived _ _ _ _ chosen => exact chosen.featureId_drawn
  | adopted => exact Nat.le_refl _
  | moved => exact Nat.le_refl _
  | recorded _ claimed _ _ _ ran ih =>
    rw [ran.record.updates.drawn]
    exact Nat.le_trans claimed.claim_drawn ih
  | extended _ _ ran =>
    obtain ⟨found, -, lists⟩ := ran.extendRecord
    rw [lists.updates.drawn]
    exact Nat.le_refl _
  | datastream _ claimed _ _ _ ih => exact Nat.le_trans claimed.claim_drawn ih
  | dataset _ _ _ _ _ _ _ _ _ ih => exact Nat.le_succ_of_le ih
  | observation _ _ _ _ _ claimed _ _ _ _ _ _ _ _ left right =>
    exact Nat.le_trans claimed.claim_drawn (Nat.le_trans left right)

private theorem born_append {key : Key} (left : Creation environment first before middle)
    (right : Creation environment second middle after)
    (ihLeft : middle.tables.contains key.kind key.id = true →
      Born environment first.keys before middle key)
    (ihRight : Born environment second.keys middle after key) :
    Born environment (first ++ second).keys before after key := by
  rw [Outline.keys_append]
  cases ihRight with
  | old there =>
    exact (ihLeft there).widen rfl (Nat.le_refl _) (fun _ => List.mem_append_left _) right.drawn_le
      fun _ => right.contains
  | sent member => exact .sent (List.mem_append_right _ member)
  | drawn number later within same =>
    exact .drawn number (Nat.lt_of_le_of_lt left.drawn_le later) within same
  | derived feature located => exact .derived feature located

theorem born (creation : Creation environment outline before after) {key : Key}
    (there : after.tables.contains key.kind key.id = true) :
    Born environment outline.keys before after key := by
  induction creation with
  | nil => exact .old there
  | append left right ihLeft ihRight => exact born_append left right ihLeft (ihRight there)
  | bare kind entity _ claimed =>
    refine .of_save there (.claimed claimed (Nat.le_refl _)) fun old => ?_
    exact .old (claimed.claim_tables ▸ old)
  | feature feature _ claimed =>
    refine .of_save there ?_ fun old => .old (claimed.claim_tables ▸ old)
    obtain ⟨rfl, drawn, rfl⟩ | ⟨rfl, -, rfl⟩ := Change.returns_claim.1 claimed
    · exact .drawn _ (Nat.lt_succ_self _) (Nat.le_refl _) drawn
    · exact .sent List.mem_cons_self
  | repeated => exact .old there
  | derived location feature located _ chosen =>
    refine .of_save there ?_ fun old => .old (chosen.featureId_tables ▸ old)
    obtain ⟨-, drawn, rfl⟩ | ⟨same, -, rfl⟩ := Change.returns_featureId.1 chosen
    · exact .drawn _ (Nat.lt_succ_self _) (Nat.le_refl _) drawn
    · rw [same] at located
      exact .derived rfl (Progress.contains_save located _ _)
  | adopted owner datastream found =>
    refine .of_save there ?_ .old
    cases owner <;> exact .old (Tables.contains_of_find? found)
  | moved thing locations found =>
    exact .of_save there (.old (Tables.contains_of_find? found)) .old
  | recorded historical claimed made _ _ ran ih =>
    rw [ran.record.updates.contains] at there
    have later := Nat.le_of_eq ran.record.updates.drawn.symm
    refine .of_save there (.claimed claimed (Nat.le_trans made.drawn_le later)) fun inside => ?_
    refine (ih inside).widen claimed.claim_tables claimed.claim_drawn
      Outline.mem_keys_named_of_inner later fun id located => ?_
    rw [ran.record.updates.contains]
    exact Progress.contains_save located _ _
  | extended historical location ran =>
    obtain ⟨found, here, lists⟩ := ran.extendRecord
    rw [lists.updates.contains] at there
    have recordThere := Tables.contains_of_find? (Tables.find?_idOf here)
    exact .of_save there (.old recordThere) .old
  | datastream datastream claimed made _ _ ih =>
    refine .of_save there (.claimed claimed made.drawn_le) fun inside => ?_
    exact (ih inside).widen claimed.claim_tables claimed.claim_drawn
      Outline.mem_keys_named_of_inner (Nat.le_refl _) fun id located =>
        Progress.contains_save located _ _
  | dataset stream dataset _ made _ drawn _ _ _ ih =>
    refine .of_save there ?_ fun old => ?_
    · exact .drawn _ (Nat.lt_succ_of_le made.drawn_le) (Nat.le_refl _) drawn.symm
    · exact (ih (Progress.draw_tables _ ▸ old)).widen rfl (Nat.le_refl _) (fun _ => id)
        (Nat.le_succ _) fun _ located => Progress.contains_save located _ _
  | observation observation stream datastream dataset raw claimed left _ _ right _ datastreamFound
      datasetFound _ ihLeft ihRight =>
    obtain rfl | inside := Progress.of_contains_addObservation there
      (Tables.contains_of_find? (Tables.find?_idOf datastreamFound))
      (Tables.contains_of_find? (Tables.find?_idOf datasetFound))
    · exact .claimed claimed (Nat.le_trans left.drawn_le right.drawn_le)
    · exact (born_append left right ihLeft (ihRight inside)).widen claimed.claim_tables
        claimed.claim_drawn Outline.mem_keys_named_of_inner (Nat.le_refl _) fun id located =>
          Progress.contains_addObservation located

theorem fresh (creation : Creation environment outline before after) {keys : List Key}
    (fresh : environment.Fresh (outline.keys ++ keys) before) : environment.Fresh keys after where
  distinct := fresh.distinct
  unsent := fun key member => fresh.unsent key (List.mem_append_right _ member)
  unused := by
    intro number later kind
    have located : ∀ other, after.tables.contains other (environment.fresh number) = true →
        other = .featureOfInterest ∧
          after.tables.contains .location (environment.fresh number) = true := by
      intro other there
      have born : Born environment outline.keys before after ⟨other, environment.fresh number⟩ :=
        creation.born there
      obtain old | member | ⟨_, -, within, same⟩ | ⟨feature, located⟩ := born
      · have earlier := Nat.lt_of_le_of_lt creation.drawn_le later
        rw [fresh.unused number earlier other] at old
        contradiction
      · exact absurd rfl (fresh.unsent _ (List.mem_append_left _ member) number)
      · rw [fresh.distinct same] at within
        exact absurd within (Nat.not_le_of_lt later)
      · exact ⟨feature, located⟩
    rw [← Bool.not_eq_true]
    intro there
    have location := (located kind there).2
    exact absurd (located .location location).1 (by decide)

end Creation

namespace Environment.Fresh

variable {environment : Environment} {keys more : List Key} {before middle : Progress}
  {kind : EntityKind} {given : Option EntityId} {inner : Outline} {id : EntityId}

theorem mono (fresh : environment.Fresh more before) (subset : ∀ key ∈ keys, key ∈ more) :
    environment.Fresh keys before :=
  ⟨fresh.distinct, fresh.unused, fun key member => fresh.unsent key (subset key member)⟩

theorem left {first second : Outline} (fresh : environment.Fresh (first ++ second).keys before) :
    environment.Fresh first.keys before :=
  fresh.mono fun _ member => by simp [member]

theorem right {first second : Outline} (fresh : environment.Fresh (first ++ second).keys before)
    (creation : Creation environment first before middle) :
    environment.Fresh second.keys middle :=
  creation.fresh (Outline.keys_append first second ▸ fresh)

theorem draw (fresh : environment.Fresh keys before) : environment.Fresh keys before.draw :=
  ⟨fresh.distinct, fun number later => fresh.unused number (Nat.lt_of_succ_lt later),
    fresh.unsent⟩

theorem of_claim (fresh : environment.Fresh keys before)
    (claimed : (Change.claim kind given).Returns environment before id middle) :
    environment.Fresh keys middle := by
  obtain ⟨-, -, rfl⟩ | ⟨-, -, rfl⟩ := Change.returns_claim.1 claimed
  · exact fresh.draw
  · exact fresh

theorem claim (fresh : environment.Fresh (Outline.named kind given inner .nil).keys before)
    (claimed : (Change.claim kind given).Returns environment before id middle) :
    environment.Fresh inner.keys middle :=
  (fresh.mono Outline.mem_keys_named_of_inner).of_claim claimed

theorem free (fresh : environment.Fresh keys before) (kind : EntityKind) :
    before.tables.find? kind (environment.fresh (before.drawn + 1)) = none := by
  have unused := fresh.unused _ (Nat.lt_succ_self _) kind
  rwa [Tables.contains, Option.isSome_eq_false_iff, Option.isNone_iff_eq_none] at unused

theorem free_of_claim (fresh : environment.Fresh keys before)
    (claimed : (Change.claim kind given).Returns environment before id middle) :
    before.tables.find? kind id = none := by
  obtain ⟨-, rfl, -⟩ | ⟨-, free, -⟩ := Change.returns_claim.1 claimed
  · exact fresh.free kind
  · rwa [Tables.contains, Option.isSome_eq_false_iff, Option.isNone_iff_eq_none] at free

theorem free_of_featureId {location : EntityId} (fresh : environment.Fresh keys before)
    (chosen : (Change.featureId location).Returns environment before id middle) :
    before.tables.find? .featureOfInterest id = none := by
  obtain ⟨-, rfl, -⟩ | ⟨-, free, -⟩ := Change.returns_featureId.1 chosen
  · exact fresh.free _
  · rwa [Tables.contains, Option.isSome_eq_false_iff, Option.isNone_iff_eq_none] at free

theorem free_after {outline : Outline} (fresh : environment.Fresh outline.keys before)
    (creation : Creation environment outline before middle) (kind : EntityKind) :
    middle.tables.find? kind (environment.fresh (middle.drawn + 1)) = none := by
  have later : environment.Fresh [] middle := creation.fresh (by simpa using fresh)
  exact later.free kind

end Environment.Fresh

namespace Creation

variable {environment : Environment} {kind : EntityKind} {given : Option EntityId}
  {inner : Outline} {id : EntityId} {before middle after : Progress}

theorem claimed_stays_free_of_not_mem (made : Creation environment inner middle after)
    (claimed : (Change.claim kind given).Returns environment before id middle)
    (fresh : environment.Fresh (Outline.named kind given inner .nil).keys before)
    (unsent : given = some id → ⟨kind, id⟩ ∉ inner.keys)
    (plain : kind ≠ .featureOfInterest) : after.tables.find? kind id = none := by
  rw [← Option.isNone_iff_eq_none, ← Option.isSome_eq_false_iff, ← Bool.not_eq_true]
  intro there
  have born : Born environment inner.keys middle after ⟨kind, id⟩ := made.born there
  obtain old | member | ⟨number, later, -, same⟩ | ⟨feature, -⟩ := born
  · rw [Tables.contains, claimed.claim_tables, fresh.free_of_claim claimed] at old
    contradiction
  · obtain ⟨rfl, drawn, -⟩ | ⟨rfl, -, -⟩ := Change.returns_claim.1 claimed
    · exact fresh.unsent _ (Outline.mem_keys_named_of_inner _ member) _ drawn
    · exact unsent rfl member
  · obtain ⟨-, drawn, rfl⟩ | ⟨rfl, -, -⟩ := Change.returns_claim.1 claimed
    · have first := fresh.distinct (same.trans drawn.symm)
      rw [first, Progress.draw_drawn] at later
      exact Nat.lt_irrefl _ later
    · exact fresh.unsent ⟨kind, id⟩ (by simp [Outline.named, Outline.keys]) number same
  · exact plain feature

theorem claimed_stays_free (made : Creation environment inner middle after)
    (claimed : (Change.claim kind given).Returns environment before id middle)
    (fresh : environment.Fresh (Outline.named kind given inner .nil).keys before)
    (distinct : (Outline.named kind given inner .nil).keys.Nodup)
    (plain : kind ≠ .featureOfInterest) : after.tables.find? kind id = none := by
  refine made.claimed_stays_free_of_not_mem claimed fresh (fun sent => ?_) plain
  rw [sent, Outline.named, Outline.keys, Outline.keys, List.append_nil] at distinct
  exact (List.nodup_cons.1 distinct).1

end Creation

end SensorThings
