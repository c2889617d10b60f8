import SensorThings.Proofs.Change.Hull
import SensorThings.Proofs.Change.Integrity

/-!
What bounds and pointers say about observations. Both are determined by what they say, so adding an
observation and finding them anew lead to the same.
-/
namespace SensorThings

namespace EntityId

theorem not_lt_trans {left middle right : EntityId} (first : ¬left < middle)
    (second : ¬middle < right) : ¬left < right := by
  intro less
  by_cases between : right < middle
  · exact first (lt_trans less between)
  · exact first (eq_of_not_lt between second ▸ less)

end EntityId

namespace ObservationPointer

theorem not_comesBefore_iff {left right : ObservationPointer} :
    left.comesBefore right = false ↔ Instant.isBefore left.time right.time = false ∧
      (left.time = right.time → ¬left.observation < right.observation) := by
  simp [comesBefore]

@[simp] theorem comesBefore_self (pointer : ObservationPointer) :
    pointer.comesBefore pointer = false :=
  not_comesBefore_iff.2 ⟨Instant.isBefore_self _, fun _ => EntityId.lt_irrefl _⟩

theorem not_comesBefore_of_comesBefore {left right : ObservationPointer}
    (before : left.comesBefore right = true) : right.comesBefore left = false := by
  rw [not_comesBefore_iff]
  simp only [comesBefore, Bool.or_eq_true, Bool.and_eq_true, beq_iff_eq, decide_eq_true_iff]
    at before
  rcases before with earlier | ⟨same, less⟩
  · refine ⟨Instant.not_isBefore_of_isBefore earlier, fun same => ?_⟩
    rw [same, Instant.isBefore_self] at earlier
    contradiction
  · refine ⟨same ▸ Instant.isBefore_self _, fun _ greater => ?_⟩
    exact EntityId.lt_irrefl _ (EntityId.lt_trans less greater)

theorem not_comesBefore_trans {left middle right : ObservationPointer}
    (first : left.comesBefore middle = false) (second : middle.comesBefore right = false) :
    left.comesBefore right = false := by
  rw [not_comesBefore_iff] at *
  refine ⟨Instant.not_isBefore_trans first.1 second.1, fun same => ?_⟩
  have middleLeft : middle.time = left.time :=
    Instant.eq_of_not_isBefore (same ▸ second.1) first.1
  exact EntityId.not_lt_trans (first.2 middleLeft.symm) (second.2 (middleLeft.trans same))

theorem observation_eq_of_not_comesBefore {left right : ObservationPointer}
    (notBefore : left.comesBefore right = false) (notAfter : right.comesBefore left = false) :
    left.observation = right.observation := by
  rw [not_comesBefore_iff] at *
  have same := Instant.eq_of_not_isBefore notBefore.1 notAfter.1
  exact EntityId.eq_of_not_lt (notBefore.2 same) (notAfter.2 same.symm)

/-- A strict order of pointers in which only pointers to one observation are equally good. -/
structure Ranks (beats : ObservationPointer → ObservationPointer → Bool) : Prop where
  self : ∀ pointer, beats pointer pointer = false
  asymm : ∀ {left right}, beats left right = true → beats right left = false
  trans : ∀ {left middle right}, beats left middle = false → beats middle right = false →
    beats left right = false
  same : ∀ {left right}, beats left right = false → beats right left = false →
    left.observation = right.observation

theorem ranks_comesBefore : Ranks comesBefore :=
  ⟨comesBefore_self, not_comesBefore_of_comesBefore, not_comesBefore_trans,
    observation_eq_of_not_comesBefore⟩

theorem ranks_comesAfter : Ranks fun left right => right.comesBefore left :=
  ⟨comesBefore_self, not_comesBefore_of_comesBefore,
    fun first second => not_comesBefore_trans second first,
    fun first second => observation_eq_of_not_comesBefore second first⟩

/-- A pointer is the unbeaten one of those to some observations; there is none without any. -/
inductive IsExtreme (point : Observation → ObservationPointer)
    (beats : ObservationPointer → ObservationPointer → Bool) (observations : Observation → Prop) :
    Option ObservationPointer → Prop where
  | none (empty : ∀ observation, ¬observations observation) :
      IsExtreme point beats observations none
  | some (observation : Observation) (member : observations observation)
      (unbeaten : ∀ other, observations other → beats (point other) (point observation) = false) :
      IsExtreme point beats observations (some (point observation))

/-- The pointer names the observation that starts first, and of those the first by identifier. -/
abbrev IsFirst (observations : Observation → Prop) (pointer : Option ObservationPointer) : Prop :=
  IsExtreme startOf comesBefore observations pointer

/-- The pointer names the observation that ends last, and of those the last by identifier. -/
abbrev IsLast (observations : Observation → Prop) (pointer : Option ObservationPointer) : Prop :=
  IsExtreme stopOf (fun left right => right.comesBefore left) observations pointer

/-- The pointer to a new observation takes the place of one that it beats. -/
def replaced (point : Observation → ObservationPointer)
    (beats : ObservationPointer → ObservationPointer → Bool) (pointer : Option ObservationPointer)
    (observation : Observation) : Option ObservationPointer :=
  match pointer with
  | none => some (point observation)
  | some current => if beats (point observation) current then some (point observation) else pointer

theorem orEarlier_eq : orEarlier = replaced startOf comesBefore := by
  funext pointer observation
  cases pointer <;> rfl

theorem orLater_eq : orLater = replaced stopOf fun left right => right.comesBefore left := by
  funext pointer observation
  cases pointer <;> rfl

namespace IsExtreme

variable {point : Observation → ObservationPointer}
  {beats : ObservationPointer → ObservationPointer → Bool}
  {observations others : Observation → Prop}
  {pointer : Option ObservationPointer}

theorem congr (isExtreme : IsExtreme point beats observations pointer)
    (same : ∀ observation, others observation ↔ observations observation) :
    IsExtreme point beats others pointer := by
  obtain rfl : others = observations := funext fun observation => propext (same observation)
  exact isExtreme

theorem replaced (ranks : Ranks beats) (isExtreme : IsExtreme point beats observations pointer)
    (new : Observation) :
    IsExtreme point beats (fun observation => observations observation ∨ observation = new)
      (ObservationPointer.replaced point beats pointer new) := by
  cases isExtreme with
  | none empty =>
    apply IsExtreme.some new (.inr rfl)
    rintro other (member | rfl)
    · exact absurd member (empty other)
    · exact ranks.self _
  | some current member unbeaten =>
    have choice : ObservationPointer.replaced point beats (Option.some (point current)) new =
        if beats (point new) (point current) then Option.some (point new)
        else Option.some (point current) := rfl
    rw [choice]
    split
    next better =>
      apply IsExtreme.some new (.inr rfl)
      rintro other (otherMember | rfl)
      · exact ranks.trans (unbeaten other otherMember) (ranks.asymm better)
      · exact ranks.self _
    next worse =>
      apply IsExtreme.some current (.inl member)
      rintro other (otherMember | rfl)
      · exact unbeaten other otherMember
      · simpa using worse

theorem foldl (ranks : Ranks beats) (isExtreme : IsExtreme point beats observations pointer)
    (list : List Observation) :
    IsExtreme point beats (fun observation => observations observation ∨ observation ∈ list)
      (list.foldl (ObservationPointer.replaced point beats) pointer) := by
  induction list generalizing observations pointer with
  | nil => exact isExtreme.congr (by simp)
  | cons new rest ih =>
    apply (ih (isExtreme.replaced ranks new)).congr
    intro observation
    rw [List.mem_cons, or_assoc]

theorem of_list (ranks : Ranks beats) (list : List Observation) :
    IsExtreme point beats (· ∈ list)
      (list.foldl (ObservationPointer.replaced point beats) Option.none) := by
  have nothing : IsExtreme point beats (fun _ => False) Option.none := .none fun _ => id
  exact (nothing.foldl ranks list).congr (by simp)

theorem unique {left right : Option ObservationPointer} (ranks : Ranks beats)
    (names : ∀ observation, (point observation).observation = observation.id)
    (distinct : ∀ first second, observations first → observations second →
      first.id = second.id → first = second)
    (first : IsExtreme point beats observations left)
    (second : IsExtreme point beats observations right) : left = right := by
  cases first with
  | none empty =>
    cases second with
    | none => rfl
    | some observation member => exact absurd member (empty observation)
  | some observation member unbeaten =>
    cases second with
    | none empty => exact absurd member (empty observation)
    | some other otherMember otherUnbeaten =>
      have same := ranks.same (unbeaten other otherMember) (otherUnbeaten observation member)
      rw [names, names] at same
      rw [distinct other observation otherMember member same]

end IsExtreme

end ObservationPointer

namespace Tables

variable {before after tables : Tables} {observation : Observation}

def InDatastream (tables : Tables) (datastream : EntityId) (observation : Observation) : Prop :=
  tables.find? .observation observation.id = some observation ∧ observation.datastream = datastream

def InDataset (tables : Tables) (dataset : EntityId) (observation : Observation) : Prop :=
  tables.find? .observation observation.id = some observation ∧ observation.dataset = dataset

/-- The bounds of a datastream are the hulls of the times of its observations. -/
structure BoundsHold (tables : Tables) (datastream : Datastream) : Prop where
  phenomenonTime : Interval.IsHull (tables.InDatastream datastream.id)
    (fun observation => observation.phenomenonTime.toInterval) datastream.phenomenonTime
  resultTime : Interval.IsHull (tables.InDatastream datastream.id)
    (fun observation => .point observation.resultTime) datastream.resultTime

/-- The pointers of a dataset name its first and its last observation. -/
structure PointersHold (tables : Tables) (dataset : Dataset) : Prop where
  first : ObservationPointer.IsFirst (tables.InDataset dataset.id) dataset.firstObservation
  last : ObservationPointer.IsLast (tables.InDataset dataset.id) dataset.lastObservation

@[simp] theorem mem_observationsOf_iff {dataset : EntityId} :
    observation ∈ tables.observationsOf dataset ↔ tables.InDataset dataset observation := by
  rw [observationsOf, List.mem_filter, mem_entities_iff, beq_iff_eq]
  rfl

theorem mem_observationsIn_iff (linked : tables.Linked) {datastream : EntityId} :
    observation ∈ tables.observationsIn datastream ↔
      tables.InDatastream datastream observation := by
  rw [observationsIn, List.mem_filter, mem_entities_iff, List.contains_iff_mem, mem_idsWhere_iff]
  refine and_congr_right fun found => ?_
  obtain ⟨group, groupFound, paired⟩ := (linked .observation _ observation found).dataset
  constructor
  · rintro ⟨dataset, datasetFound, same⟩
    rw [groupFound] at datasetFound
    obtain rfl := Option.some.inj datasetFound
    rw [← paired.1]
    exact beq_iff_eq.1 same
  · intro same
    exact ⟨group, groupFound, beq_iff_eq.2 (paired.1.trans same)⟩

namespace BoundsHold

variable {old new datastream : Datastream}

theorem congr (holds : before.BoundsHold old)
    (bounds : new.phenomenonTime = old.phenomenonTime ∧ new.resultTime = old.resultTime)
    (same : ∀ observation,
      after.InDatastream new.id observation ↔ before.InDatastream old.id observation) :
    after.BoundsHold new where
  phenomenonTime := bounds.1 ▸ holds.phenomenonTime.congr same
  resultTime := bounds.2 ▸ holds.resultTime.congr same

theorem cover (holds : before.BoundsHold datastream) (same : ∀ other,
      after.InDatastream datastream.id other ↔
        before.InDatastream datastream.id other ∨ other = observation) :
    after.BoundsHold (datastream.cover observation) where
  phenomenonTime := (holds.phenomenonTime.widened observation).congr same
  resultTime := (holds.resultTime.widened observation).congr same

theorem unbounded (none : datastream.phenomenonTime = none ∧ datastream.resultTime = none)
    (empty : ∀ observation, ¬tables.InDatastream datastream.id observation) :
    tables.BoundsHold datastream where
  phenomenonTime := none.1 ▸ .none empty
  resultTime := none.2 ▸ .none empty

theorem rebounded (linked : tables.Linked) (datastream : Datastream) :
    tables.BoundsHold (tables.rebounded datastream) := by
  rw [Tables.rebounded, Datastream.summarize_eq]
  constructor
  · exact (Interval.IsHull.of_list _).congr fun _ => (mem_observationsIn_iff linked).symm
  · exact (Interval.IsHull.of_list _).congr fun _ => (mem_observationsIn_iff linked).symm

theorem rebounded_eq (holds : tables.BoundsHold datastream) (linked : tables.Linked) :
    tables.rebounded datastream = datastream := by
  have anew := rebounded linked datastream
  rw [Tables.rebounded, Datastream.summarize_eq] at anew ⊢
  obtain ⟨phenomenonTime, resultTime⟩ := anew
  have times := phenomenonTime.unique holds.phenomenonTime
  have results := resultTime.unique holds.resultTime
  simp only at times results
  rw [times, results]

end BoundsHold

namespace PointersHold

variable {old new dataset : Dataset}

theorem congr (holds : before.PointersHold old)
    (pointers : new.firstObservation = old.firstObservation ∧
      new.lastObservation = old.lastObservation)
    (same : ∀ observation,
      after.InDataset new.id observation ↔ before.InDataset old.id observation) :
    after.PointersHold new where
  first := pointers.1 ▸ holds.first.congr same
  last := pointers.2 ▸ holds.last.congr same

theorem cover (holds : before.PointersHold dataset) (same : ∀ other,
      after.InDataset dataset.id other ↔
        before.InDataset dataset.id other ∨ other = observation) :
    after.PointersHold (dataset.cover observation) where
  first := by
    have extended := holds.first.replaced ObservationPointer.ranks_comesBefore observation
    rw [← ObservationPointer.orEarlier_eq] at extended
    exact extended.congr same
  last := by
    have extended := holds.last.replaced ObservationPointer.ranks_comesAfter observation
    rw [← ObservationPointer.orLater_eq] at extended
    exact extended.congr same

theorem withoutPointers (none : dataset.firstObservation = none ∧ dataset.lastObservation = none)
    (empty : ∀ observation, ¬tables.InDataset dataset.id observation) :
    tables.PointersHold dataset where
  first := none.1 ▸ .none empty
  last := none.2 ▸ .none empty

theorem repointed (tables : Tables) (dataset : Dataset) :
    tables.PointersHold (tables.repointed dataset) := by
  rw [Tables.repointed, Dataset.summarize_eq, ObservationPointer.orEarlier_eq,
    ObservationPointer.orLater_eq]
  constructor
  · exact (ObservationPointer.IsExtreme.of_list ObservationPointer.ranks_comesBefore _).congr
      fun _ => mem_observationsOf_iff.symm
  · exact (ObservationPointer.IsExtreme.of_list ObservationPointer.ranks_comesAfter _).congr
      fun _ => mem_observationsOf_iff.symm

theorem repointed_eq (holds : tables.PointersHold dataset) :
    tables.repointed dataset = dataset := by
  have distinct : ∀ first second, tables.InDataset dataset.id first →
      tables.InDataset dataset.id second → first.id = second.id → first = second := by
    rintro first second ⟨firstFound, -⟩ ⟨secondFound, -⟩ same
    rw [same, secondFound] at firstFound
    exact (Option.some.inj firstFound).symm
  have anew := repointed tables dataset
  rw [Tables.repointed, Dataset.summarize_eq] at anew ⊢
  obtain ⟨first, last⟩ := anew
  have firsts :=
    first.unique ObservationPointer.ranks_comesBefore (fun _ => rfl) distinct holds.first
  have lasts := last.unique ObservationPointer.ranks_comesAfter (fun _ => rfl) distinct holds.last
  simp only at firsts lasts
  rw [firsts, lasts]

end PointersHold

end Tables

end SensorThings
