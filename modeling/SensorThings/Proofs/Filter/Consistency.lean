import SensorThings.Proofs.Filter.Meaning

/-!
The six comparisons of two expressions agree with each other, although each is compiled by itself:
read from the other side a comparison becomes its flipped one, and what one of them says of a row
the others do not contradict.
-/
namespace SensorThings

/-- What an end of a time holds: an instant, or nothing. -/
def Scalar.IsTime (value : Scalar) : Prop :=
  value = .null ∨ ∃ time, value = .instant time

namespace Reading

/-- One value, or a time that does not end before it starts. -/
inductive IsTimed : Reading → Prop where
  | single (value : Scalar) : IsTimed (.single value)
  | span {start stop : Scalar} (startIsTime : start.IsTime) (stopIsTime : stop.IsTime)
      (ordered : ∀ first last, start = .instant first → stop = .instant last →
        last.isBefore first = false) : IsTimed (.span start stop)

/-- A time that ends after it starts; a single value never is one. -/
def Lasts (reading : Reading) : Prop :=
  ∃ first last, reading.first = .instant first ∧ reading.last = .instant last ∧
    first.isBefore last = true

def IsSpan : Reading → Prop
  | single _ => False
  | span _ _ => True

/-- Both ends are instants, the start not after the stop. -/
structure Covers (reading : Reading) (start stop : Instant) : Prop where
  first_eq : reading.first = .instant start
  last_eq : reading.last = .instant stop
  ordered : stop.isBefore start = false

namespace IsTimed

theorem covers {reading : Reading} (timed : reading.IsTimed) {start stop : Instant}
    (isFirst : reading.first = .instant start) (isLast : reading.last = .instant stop) :
    reading.Covers start stop := by
  refine ⟨isFirst, isLast, ?_⟩
  cases timed with
  | single value =>
    cases isFirst.symm.trans isLast
    exact Instant.isBefore_self start
  | span _ _ ordered => exact ordered start stop isFirst isLast

theorem ends {reading : Reading} (timed : reading.IsTimed) (isSpan : reading.IsSpan) :
    reading.first.IsTime ∧ reading.last.IsTime := by
  cases timed with
  | single => contradiction
  | span startIsTime stopIsTime => exact ⟨startIsTime, stopIsTime⟩

end IsTimed

theorem Covers.lasts_iff {reading : Reading} {start stop : Instant}
    (covers : reading.Covers start stop) : reading.Lasts ↔ start.isBefore stop = true := by
  simp [Lasts, covers.first_eq, covers.last_eq]

@[simp] theorem not_lasts_single (value : Scalar) : ¬ (single value).Lasts := by
  rintro ⟨first, last, isFirst, isLast, before⟩
  cases isFirst.symm.trans isLast
  rw [Instant.isBefore_self] at before
  contradiction

end Reading

namespace Comparison

theorem truthOfReadings_flip (comparison : Comparison) (left right : Reading) :
    comparison.flip.truthOfReadings left right = comparison.truthOfReadings right left := by
  cases left <;> cases right
  case single.single left right => exact truth_flip comparison left right
  all_goals exact truthOfEnds_flip ..

theorem truth_instants (comparison : Comparison) (time other : Instant) :
    comparison.truth (.instant time) (.instant other) = some (match comparison with
      | equal => !time.isBefore other && !other.isBefore time
      | notEqual => time.isBefore other || other.isBefore time
      | less => time.isBefore other
      | atMost => !other.isBefore time
      | greater => other.isBefore time
      | atLeast => !time.isBefore other) := by
  change some (comparison.allows (compare time other)) = _
  rw [Instant.isBefore, Instant.isBefore, Std.OrientedOrd.eq_swap (a := other)]
  cases comparison <;> cases compare time other <;> rfl

theorem instants_of_truth {comparison : Comparison} {left right : Scalar}
    (isTime : left.IsTime ∨ right.IsTime) (holds : comparison.truth left right = some true) :
    ∃ time other, left = .instant time ∧ right = .instant other := by
  obtain ⟨order, compared, -⟩ := truth_eq_some_iff.1 holds
  rcases isTime with (rfl | ⟨time, rfl⟩) | (rfl | ⟨other, rfl⟩)
  · cases compared
  · cases right <;> cases compared
    exact ⟨_, _, rfl, rfl⟩
  · cases left <;> cases compared
  · cases left <;> cases compared
    exact ⟨_, _, rfl, rfl⟩

/-- How the truths of the comparisons of two sides fit together. Sides that both last and are equal
are neither at most nor at least each other, since the ends that lie nearer are compared. -/
structure Consistent (holds : Comparison → Prop) (bothLast : Prop) : Prop where
  atMost_of_equal : holds equal → (holds atMost ↔ ¬ bothLast)
  atLeast_of_equal : holds equal → (holds atLeast ↔ ¬ bothLast)
  atMost_of_less : holds less → holds atMost
  not_equal_of_less : holds less → ¬ holds equal
  not_greater_of_less : holds less → ¬ holds greater
  equal_of_atMost_of_atLeast : holds atMost → holds atLeast → holds equal

theorem consistent_truth (left right : Scalar) :
    Consistent (fun comparison => comparison.truth left right = some true) False := by
  simp only [truth]
  cases left.compare? right with
  | none => constructor <;> simp
  | some order => cases order <;> constructor <;> decide

theorem truthOfEnds_instants (comparison : Comparison) {left right : Reading}
    {start stop otherStart otherStop : Instant} (covers : left.Covers start stop)
    (otherCovers : right.Covers otherStart otherStop) :
    let equality := (!start.isBefore otherStart && !otherStart.isBefore start) &&
      (!stop.isBefore otherStop && !otherStop.isBefore stop)
    comparison.truthOfEnds left right = some (match comparison with
      | equal => equality
      | notEqual => !equality
      | less => stop.isBefore otherStart
      | atMost => !otherStart.isBefore stop
      | greater => otherStop.isBefore start
      | atLeast => !start.isBefore otherStop) := by
  cases comparison <;>
    simp only [truthOfEnds, covers.first_eq, covers.last_eq, otherCovers.first_eq,
      otherCovers.last_eq, truth_instants, Truth.and_some, Truth.not, Option.map_some]

section

variable {left right : Reading} (leftTimed : left.IsTimed) (rightTimed : right.IsTimed)
  (isSpan : left.IsSpan ∨ right.IsSpan)

include leftTimed rightTimed isSpan

theorem covers_of_equal (equality : equal.truthOfEnds left right = some true) :
    ∃ start stop otherStart otherStop,
      left.Covers start stop ∧ right.Covers otherStart otherStop := by
  obtain ⟨firstsEqual, lastsEqual⟩ := Truth.and_eq_true_iff.1 equality
  obtain ⟨start, otherStart, isStart, isOtherStart⟩ := instants_of_truth
    (isSpan.imp (leftTimed.ends · |>.1) (rightTimed.ends · |>.1)) firstsEqual
  obtain ⟨stop, otherStop, isStop, isOtherStop⟩ := instants_of_truth
    (isSpan.imp (leftTimed.ends · |>.2) (rightTimed.ends · |>.2)) lastsEqual
  exact ⟨start, stop, otherStart, otherStop, leftTimed.covers isStart isStop,
    rightTimed.covers isOtherStart isOtherStop⟩

theorem covers_of_nearer {comparison other : Comparison}
    (lastToFirst : comparison.truth left.last right.first = some true)
    (firstToLast : other.truth left.first right.last = some true) :
    ∃ start stop otherStart otherStop,
      left.Covers start stop ∧ right.Covers otherStart otherStop := by
  obtain ⟨stop, otherStart, isStop, isOtherStart⟩ := instants_of_truth
    (isSpan.imp (leftTimed.ends · |>.2) (rightTimed.ends · |>.1)) lastToFirst
  obtain ⟨start, otherStop, isStart, isOtherStop⟩ := instants_of_truth
    (isSpan.imp (leftTimed.ends · |>.1) (rightTimed.ends · |>.2)) firstToLast
  exact ⟨start, stop, otherStart, otherStop, leftTimed.covers isStart isStop,
    rightTimed.covers isOtherStart isOtherStop⟩

theorem atMost_iff_of_equal (equality : equal.truthOfEnds left right = some true) :
    atMost.truthOfEnds left right = some true ↔ ¬ (left.Lasts ∧ right.Lasts) := by
  obtain ⟨start, stop, otherStart, otherStop, covers, otherCovers⟩ :=
    covers_of_equal leftTimed rightTimed isSpan equality
  rw [truthOfEnds_instants equal covers otherCovers] at equality
  rw [truthOfEnds_instants atMost covers otherCovers, covers.lasts_iff, otherCovers.lasts_iff]
  grind [covers.ordered, otherCovers.ordered, Instant.not_isBefore_trans]

theorem consistent_truthOfEnds :
    Consistent (fun comparison => comparison.truthOfEnds left right = some true)
      (left.Lasts ∧ right.Lasts) where
  atMost_of_equal := atMost_iff_of_equal leftTimed rightTimed isSpan
  atLeast_of_equal equality := by
    rw [← truthOfEnds_flip] at equality
    rw [← truthOfEnds_flip, and_comm]
    exact atMost_iff_of_equal rightTimed leftTimed isSpan.symm equality
  atMost_of_less := (consistent_truth left.last right.first).atMost_of_less
  not_equal_of_less less equality := by
    obtain ⟨start, stop, otherStart, otherStop, covers, otherCovers⟩ :=
      covers_of_equal leftTimed rightTimed isSpan equality
    rw [truthOfEnds_instants _ covers otherCovers] at less equality
    -- start ≤ stop < otherStart = start
    grind [covers.ordered, Instant.not_isBefore_trans]
  not_greater_of_less less greater := by
    obtain ⟨start, stop, otherStart, otherStop, covers, otherCovers⟩ :=
      covers_of_nearer leftTimed rightTimed isSpan less greater
    rw [truthOfEnds_instants _ covers otherCovers] at less greater
    -- start ≤ stop < otherStart ≤ otherStop < start
    grind [covers.ordered, otherCovers.ordered, Instant.not_isBefore_trans,
      Instant.not_isBefore_of_isBefore]
  equal_of_atMost_of_atLeast atMost atLeast := by
    obtain ⟨start, stop, otherStart, otherStop, covers, otherCovers⟩ :=
      covers_of_nearer leftTimed rightTimed isSpan atMost atLeast
    rw [truthOfEnds_instants _ covers otherCovers] at atMost atLeast ⊢
    -- start ≤ stop ≤ otherStart ≤ otherStop ≤ start
    grind [covers.ordered, otherCovers.ordered, Instant.not_isBefore_trans]

end

theorem consistent_truthOfReadings {left right : Reading} (leftTimed : left.IsTimed)
    (rightTimed : right.IsTimed) :
    Consistent (fun comparison => comparison.truthOfReadings left right = some true)
      (left.Lasts ∧ right.Lasts) := by
  cases left with
  | single value =>
    cases right with
    | single other =>
      rw [iff_false_intro fun both : Reading.Lasts _ ∧ _ => Reading.not_lasts_single value both.1]
      exact consistent_truth value other
    | span start stop => exact consistent_truthOfEnds leftTimed rightTimed (.inr trivial)
  | span start stop => exact consistent_truthOfEnds leftTimed rightTimed (.inl trivial)

end Comparison

namespace Expression

variable {context : QueryContext}

theorem comparison_accepted_flip {comparison : Comparison} {left right : Expression}
    {predicate : Predicate}
    (compiled : Expression.comparison context comparison left right = .ok predicate) :
    ∃ flipped, Expression.comparison context comparison.flip right left = .ok flipped := by
  obtain ⟨leftOperand, rightOperand, leftCompiled, rightCompiled, comparable, -⟩ :=
    comparison_eq_ok_iff.1 compiled
  rw [ValueType.comparable_comm] at comparable
  exact ⟨_, comparison_eq_ok_iff.2
    ⟨rightOperand, leftOperand, rightCompiled, leftCompiled, comparable, rfl⟩⟩

/-- A comparison and its flipped one with the sides exchanged are accepted together, and then they
have the same truth on every row. -/
theorem predicate_flip [PlaneGeometry] (context : QueryContext) (comparison : Comparison)
    (left right : Expression) :
    ((∃ predicate, (compare comparison left right).predicate context = .ok predicate) ↔
      ∃ flipped, (compare comparison.flip right left).predicate context = .ok flipped) ∧
    ∀ predicate flipped, (compare comparison left right).predicate context = .ok predicate →
      (compare comparison.flip right left).predicate context = .ok flipped →
        ∀ source, flipped.truth source = predicate.truth source := by
  simp only [predicate]
  refine ⟨⟨fun ⟨_, compiled⟩ => comparison_accepted_flip compiled, fun ⟨_, compiled⟩ => ?_⟩, ?_⟩
  · have back := comparison_accepted_flip compiled
    rwa [Comparison.flip_flip] at back
  · intro predicate flipped compiled flippedCompiled source
    rw [truth_comparison compiled, truth_comparison flippedCompiled, truth, truth,
      Comparison.truthOfReadings_flip]

def streamContext : QueryContext :=
  ⟨EntityKind.schema, EntityKind.datastream.propertyMap?.get rfl, dayAfter⟩

/-- Streams that ended before now, with now on the right and on the left. -/
theorem predicate_flip_ended :
    ∃ predicate flipped,
      (compare .less (member ["phenomenonTime"]) (call "now" [])).predicate streamContext =
        .ok predicate ∧
      (compare .greater (call "now" []) (member ["phenomenonTime"])).predicate streamContext =
        .ok flipped ∧
      flipped.truth newYearInGarden = predicate.truth newYearInGarden ∧
      predicate.truth newYearInGarden = some true :=
  ⟨_, _, rfl, rfl, (predicate_flip streamContext .less (member ["phenomenonTime"])
    (call "now" [])).2 _ _ rfl rfl newYearInGarden, by decide +kernel⟩

/-- If two expressions may be compared, all six comparisons are accepted, and on every row whose
times do not end before they start the six are consistent. -/
theorem comparisons_consistent [PlaneGeometry] {comparison : Comparison}
    {left right : Expression} {predicate : Predicate}
    (accepted : (compare comparison left right).predicate context = .ok predicate) :
    ∃ compiled : Comparison → Predicate,
      (∀ other, (compare other left right).predicate context = .ok (compiled other)) ∧
      ∀ source, (left.reading context source).IsTimed → (right.reading context source).IsTimed →
        Comparison.Consistent (fun other => (compiled other).truth source = some true)
          ((left.reading context source).Lasts ∧ (right.reading context source).Lasts) := by
  obtain ⟨leftOperand, rightOperand, leftCompiled, rightCompiled, comparable, -⟩ :=
    comparison_eq_ok_iff.1 accepted
  refine ⟨fun other => other.ofOperands leftOperand rightOperand, fun other =>
    comparison_eq_ok_iff.2 ⟨_, _, leftCompiled, rightCompiled, comparable, rfl⟩,
    fun source leftTimed rightTimed => ?_⟩
  simp only [Comparison.truth_ofOperands, reading_of_operand source leftCompiled,
    reading_of_operand source rightCompiled]
  exact Comparison.consistent_truthOfReadings leftTimed rightTimed

/-- A stream that has ended before now is known to have ended by now. -/
theorem comparisons_consistent_ended :
    ∃ atMost, (compare .atMost (member ["phenomenonTime"]) (call "now" [])).predicate
      streamContext = .ok atMost ∧ atMost.truth newYearInGarden = some true := by
  have compared : (compare .less (member ["phenomenonTime"]) (call "now" [])).predicate
      streamContext = .ok _ := rfl
  obtain ⟨compiled, accepted, consistent⟩ := comparisons_consistent compared
  have ended : (compiled .less).truth newYearInGarden = some true := by
    rw [← Except.ok.inj (accepted .less)]
    decide +kernel
  have ordered (first last : Instant) (isFirst : Scalar.instant default = .instant first)
      (isLast : Scalar.instant default = .instant last) : last.isBefore first = false := by
    cases isFirst
    cases isLast
    rfl
  exact ⟨compiled .atMost, accepted .atMost, (consistent newYearInGarden
    (.span (.inr ⟨_, rfl⟩) (.inr ⟨_, rfl⟩) ordered) (.single _)).atMost_of_less ended⟩

def firstDay : RowSource :=
  .standalone fun name => .instant (if name = "phenomenonTimeEnd" then dayAfter else default)

/-- A time that lasts is equal to itself, but it does not end by its own start. -/
theorem firstDay_equal_not_atMost :
    ∃ equality atMost,
      (compare .equal (member ["phenomenonTime"]) (member ["phenomenonTime"])).predicate
        streamContext = .ok equality ∧
      (compare .atMost (member ["phenomenonTime"]) (member ["phenomenonTime"])).predicate
        streamContext = .ok atMost ∧
      (member ["phenomenonTime"]).reading streamContext firstDay =
        .span (.instant default) (.instant dayAfter) ∧
      dayAfter.isBefore default = false ∧
      equality.truth firstDay = some true ∧ atMost.truth firstDay = some false :=
  ⟨_, _, rfl, rfl, rfl, by decide +kernel, by decide +kernel, by decide +kernel⟩

end Expression

end SensorThings
