import Mathlib.Data.List.Induction
import SensorThings.Proofs.Spatial.Spots
import SensorThings.Spatial.Relate

/-!
Cuts and pieces. Which spots cut the segments does not depend on the order of the segments, and the
pieces of a segment run between neighbours among its cuts: so they are the same pieces, in whatever
spelling the cuts are kept.
-/
namespace SensorThings.Spatial

namespace Spot

variable {left right : Spot} {dx dy : Int}

/-- How far a spot lies in a direction, from the origin of the plane. -/
def reach (spot : Spot) (dx dy : Int) : Rat :=
  (spot.x * dx + spot.y * dy : Int) / spot.weight

theorem along_nonpos_iff (leftProper : left.IsProper) (rightProper : right.IsProper) :
    left.along right dx dy ≤ 0 ↔ left.reach dx dy ≤ right.reach dx dy := by
  have leftPositive : (0 : Rat) < left.weight := Int.cast_pos.2 leftProper
  have rightPositive : (0 : Rat) < right.weight := Int.cast_pos.2 rightProper
  rw [reach, reach, div_le_div_iff₀ leftPositive rightPositive, along]
  norm_cast
  constructor <;> intro <;> linarith

theorem reach_of_same (leftProper : left.IsProper) (rightProper : right.IsProper)
    (same : left.same right = true) : left.reach dx dy = right.reach dx dy := by
  have leftNonzero : (left.weight : Rat) ≠ 0 := Int.cast_ne_zero.2 (ne_of_gt leftProper)
  have rightNonzero : (right.weight : Rat) ≠ 0 := Int.cast_ne_zero.2 (ne_of_gt rightProper)
  rw [same_iff] at same
  rw [reach, reach, div_eq_div_iff leftNonzero rightNonzero]
  norm_cast
  linear_combination dx * same.1 + dy * same.2

end Spot

theorem Segment.same_of_reach {segment : Segment} (proper : segment.IsProper) {left right : Spot}
    (leftProper : left.IsProper) (rightProper : right.IsProper)
    (leftCovered : segment.covers left = true) (rightCovered : segment.covers right = true)
    (equal : left.reach segment.dx segment.dy = right.reach segment.dx segment.dy) :
    left.same right = true := by
  -- The way from one to the other has the direction of the segment, and no length in it.
  have aligned : segment.dx * (left.y * right.weight - right.y * left.weight) -
      segment.dy * (left.x * right.weight - right.x * left.weight) = 0 := by
    have leftTurn := (covers_iff.1 leftCovered).1
    have rightTurn := (covers_iff.1 rightCovered).1
    rw [Spot.turn] at leftTurn rightTurn
    rw [dx, dy]
    linear_combination right.weight * leftTurn - left.weight * rightTurn
  have level : left.along right segment.dx segment.dy = 0 := by
    have back := (Spot.along_nonpos_iff rightProper leftProper).2 equal.ge
    refine le_antisymm ((Spot.along_nonpos_iff leftProper rightProper).2 equal.le) ?_
    rw [Spot.along] at back ⊢
    linarith
  rw [Spot.along] at level
  have nonzero : segment.dx * segment.dx + segment.dy * segment.dy ≠ 0 := by
    intro zero
    obtain ⟨horizontal, vertical⟩ := mul_self_add_mul_self_eq_zero.1 zero
    rw [dx] at horizontal
    rw [dy] at vertical
    exact proper.apart (Spot.same_iff.2 ⟨by linarith, by linarith⟩)
  refine Spot.same_iff.2 ⟨mul_left_cancel₀ nonzero ?_, mul_left_cancel₀ nonzero ?_⟩
  · linear_combination segment.dx * level - segment.dy * aligned
  · linear_combination segment.dy * level + segment.dx * aligned

theorem mem_pathSegments {path : List Spot} {segment : Segment}
    (member : segment ∈ pathSegments path) :
    segment.start ∈ path ∧ segment.stop ∈ path ∧ ¬segment.start.same segment.stop = true := by
  fun_induction pathSegments path
  case case1 start stop rest others same ih =>
    obtain ⟨starts, stops, apart⟩ := ih member
    exact ⟨List.mem_cons_of_mem _ starts, List.mem_cons_of_mem _ stops, apart⟩
  case case2 start stop rest others apart ih =>
    rcases List.mem_cons.1 member with rfl | member
    · exact ⟨List.mem_cons_self, List.mem_cons_of_mem _ List.mem_cons_self, apart⟩
    · obtain ⟨starts, stops, apart⟩ := ih member
      exact ⟨List.mem_cons_of_mem _ starts, List.mem_cons_of_mem _ stops, apart⟩
  case case3 => contradiction

theorem mem_pathSegments_iff {path : List Spot} {key : Spot → Rat}
    (ascending : path.Pairwise fun left right => key left < key right)
    (apart : path.Pairwise fun left right => ¬left.same right = true) {first second : Spot} :
    ⟨first, second⟩ ∈ pathSegments path ↔ first ∈ path ∧ second ∈ path ∧ key first < key second ∧
      ∀ spot ∈ path, ¬(key first < key spot ∧ key spot < key second) := by
  fun_induction pathSegments path
  case case1 start stop rest others same ih =>
    exact absurd same (List.rel_of_pairwise_cons apart List.mem_cons_self)
  case case2 start stop rest others _ ih =>
    have least : ∀ spot ∈ stop :: rest, key start < key spot := fun spot =>
      List.rel_of_pairwise_cons ascending
    have next : ∀ spot ∈ rest, key stop < key spot := fun spot =>
      List.rel_of_pairwise_cons ascending.of_cons
    rw [List.mem_cons, ih ascending.of_cons apart.of_cons, Segment.mk.injEq]
    constructor
    · rintro (⟨rfl, rfl⟩ | ⟨starts, stops, before, none⟩)
      · refine ⟨List.mem_cons_self, List.mem_cons_of_mem _ List.mem_cons_self,
          least _ List.mem_cons_self, fun spot member between => ?_⟩
        rcases List.mem_cons.1 member with rfl | member
        · exact lt_irrefl _ between.1
        rcases List.mem_cons.1 member with rfl | member
        · exact lt_irrefl _ between.2
        · exact lt_asymm (next spot member) between.2
      · refine ⟨List.mem_cons_of_mem _ starts, List.mem_cons_of_mem _ stops, before,
          fun spot member between => ?_⟩
        rcases List.mem_cons.1 member with rfl | member
        · exact lt_asymm (least first starts) between.1
        · exact none spot member between
    · rintro ⟨starts, stops, before, none⟩
      have later : second ∈ stop :: rest := by
        rcases List.mem_cons.1 stops with rfl | later
        · rcases List.mem_cons.1 starts with rfl | starts
          · exact absurd before (lt_irrefl _)
          · exact absurd before (lt_asymm (least first starts))
        · exact later
      rcases List.mem_cons.1 starts with rfl | starts
      · rcases List.mem_cons.1 later with rfl | later
        · exact .inl ⟨rfl, rfl⟩
        · have between := And.intro (least stop List.mem_cons_self) (next second later)
          exact absurd between (none stop (List.mem_cons_of_mem _ List.mem_cons_self))
      · exact .inr ⟨starts, later, before,
          fun spot member => none spot (List.mem_cons_of_mem _ member)⟩
  case case3 path short =>
    refine ⟨nofun, fun ⟨starts, stops, before, _⟩ => ?_⟩
    match path with
    | [spot] =>
      rw [List.mem_singleton.1 starts, List.mem_singleton.1 stops] at before
      exact absurd before (lt_irrefl _)
    | start :: stop :: rest => exact absurd rfl (short start stop rest)

/-- Each spot of a list is one of another list, perhaps in another spelling. -/
def Among (spots others : List Spot) : Prop :=
  ∀ spot ∈ spots, ∃ other ∈ others, other.same spot = true

/-- Proper spots, none of them twice. -/
structure Separate (spots : List Spot) : Prop where
  proper : ∀ spot ∈ spots, spot.IsProper
  apart : spots.Pairwise fun left right => ¬left.same right = true

section

variable {spots others : List Spot} {spot : Spot}

/-- What `distinct` does with the next spot. -/
def keep (found : List Spot) (spot : Spot) : List Spot :=
  if found.any (·.same spot) then found else found ++ [spot]

theorem distinct_concat (spots : List Spot) (spot : Spot) :
    distinct (spots ++ [spot]) = keep (distinct spots) spot :=
  List.foldl_append

theorem mem_of_mem_distinct (member : spot ∈ distinct spots) : spot ∈ spots := by
  induction spots using List.reverseRecOn with
  | nil => exact member
  | append_singleton spots last ih =>
    rw [distinct_concat, keep] at member
    rw [List.mem_append]
    split at member
    · exact .inl (ih member)
    · exact (List.mem_append.1 member).imp ih id

theorem among_distinct (spots : List Spot) : Among spots (distinct spots) := by
  induction spots using List.reverseRecOn with
  | nil => exact nofun
  | append_singleton spots last ih =>
    rw [distinct_concat, keep]
    intro spot member
    split
    next again =>
      rcases List.mem_append.1 member with member | member
      · exact ih spot member
      · rw [List.mem_singleton.1 member]
        exact List.any_eq_true.1 again
    next =>
      rcases List.mem_append.1 member with member | member
      · obtain ⟨other, found, same⟩ := ih spot member
        exact ⟨other, List.mem_append_left _ found, same⟩
      · exact ⟨spot, List.mem_append_right _ member, spot.same_self⟩

theorem distinct_apart (spots : List Spot) :
    (distinct spots).Pairwise fun left right => ¬left.same right = true := by
  induction spots using List.reverseRecOn with
  | nil => exact .nil
  | append_singleton spots last ih =>
    rw [distinct_concat, keep]
    split
    next => exact ih
    next new =>
      refine List.pairwise_append.2 ⟨ih, List.pairwise_singleton .., ?_⟩
      rintro found member spot isLast same
      rw [List.mem_singleton.1 isLast] at same
      exact new (List.any_eq_true.2 ⟨found, member, same⟩)

theorem separate_distinct (proper : ∀ spot ∈ spots, spot.IsProper) : Separate (distinct spots) where
  proper spot member := proper spot (mem_of_mem_distinct member)
  apart := distinct_apart spots

theorem Among.distinct (proper : ∀ spot ∈ others, spot.IsProper) (among : Among spots others) :
    Among (distinct spots) (distinct others) := by
  intro spot member
  obtain ⟨other, found, same⟩ := among spot (mem_of_mem_distinct member)
  obtain ⟨kept, keptMember, keptSame⟩ := among_distinct others other found
  exact ⟨kept, keptMember, Spot.same_trans (proper other found) keptSame same⟩

theorem Among.of_subset (subset : spots ⊆ others) : Among spots others :=
  fun spot member => ⟨spot, subset member, spot.same_self⟩

end

section

variable {segments others : List Segment} {spot : Spot}

theorem signed_pos {weight : Int} (nonzero : weight ≠ 0) :
    0 < (if weight < 0 then -1 else 1) * weight := by
  split <;> omega

theorem Segment.crossing?_isProper {left right : Segment}
    (crossing : left.crossing? right = some spot) : spot.IsProper := by
  rw [crossing?] at crossing
  obtain ⟨nonzero, crossing⟩ := Option.ite_none_left_eq_some.1 crossing
  obtain ⟨-, crossing⟩ := Option.ite_none_right_eq_some.1 crossing
  obtain rfl := Option.some.inj crossing
  exact signed_pos nonzero

def cutCandidates (segments : List Segment) : List Spot :=
  (segments.flatMap fun segment => [segment.start, segment.stop]) ++
    segments.flatMap fun left => segments.filterMap fun right => left.crossing? right

theorem cuts_eq (segments : List Segment) : cuts segments = distinct (cutCandidates segments) := rfl

theorem mem_cutCandidates_iff : spot ∈ cutCandidates segments ↔
    (∃ segment ∈ segments, spot = segment.start ∨ spot = segment.stop) ∨
      ∃ left ∈ segments, ∃ right ∈ segments, left.crossing? right = some spot := by
  simp [cutCandidates]

theorem cutCandidates_subset (subset : segments ⊆ others) :
    cutCandidates segments ⊆ cutCandidates others := by
  intro spot member
  rw [mem_cutCandidates_iff] at member ⊢
  refine member.imp ?_ ?_
  · rintro ⟨segment, member, ends⟩
    exact ⟨segment, subset member, ends⟩
  · rintro ⟨left, leftIn, right, rightIn, crossing⟩
    exact ⟨left, subset leftIn, right, subset rightIn, crossing⟩

theorem cutCandidates_isProper (proper : ∀ segment ∈ segments, segment.IsProper) :
    ∀ spot ∈ cutCandidates segments, spot.IsProper := by
  intro spot member
  rcases mem_cutCandidates_iff.1 member with ⟨segment, inside, rfl | rfl⟩ | ⟨_, _, _, _, crossing⟩
  · exact (proper segment inside).start
  · exact (proper segment inside).stop
  · exact Segment.crossing?_isProper crossing

theorem among_cuts (proper : ∀ segment ∈ others, segment.IsProper) (subset : segments ⊆ others) :
    Among (cuts segments) (cuts others) := by
  rw [cuts_eq, cuts_eq]
  exact (Among.of_subset (cutCandidates_subset subset)).distinct (cutCandidates_isProper proper)

theorem separate_cuts (proper : ∀ segment ∈ segments, segment.IsProper) :
    Separate (cuts segments) := by
  rw [cuts_eq]
  exact separate_distinct (cutCandidates_isProper proper)

end

section

variable {cuts others : List Spot} {segment : Segment}

def cutsAlong (cuts : List Spot) (segment : Segment) : List Spot :=
  (cuts.filter segment.covers).mergeSort fun left right =>
    left.along right segment.dx segment.dy ≤ 0

theorem pieces_eq (cuts : List Spot) (segment : Segment) :
    pieces cuts segment = pathSegments (cutsAlong cuts segment) := rfl

@[simp] theorem mem_cutsAlong {spot : Spot} :
    spot ∈ cutsAlong cuts segment ↔ spot ∈ cuts ∧ segment.covers spot = true := by
  rw [cutsAlong, List.mem_mergeSort, List.mem_filter]

theorem cutsAlong_apart (separate : Separate cuts) :
    (cutsAlong cuts segment).Pairwise fun left right => ¬left.same right = true := by
  have perm : (cutsAlong cuts segment).Perm (cuts.filter segment.covers) := List.mergeSort_perm ..
  refine (perm.pairwise_iff fun {left right} other => ?_).2
    (separate.apart.sublist List.filter_sublist)
  rwa [Spot.same_comm]

theorem cutsAlong_ascending (separate : Separate cuts) (proper : segment.IsProper) :
    (cutsAlong cuts segment).Pairwise fun left right =>
      left.reach segment.dx segment.dy < right.reach segment.dx segment.dy := by
  let reach (spot : Spot) : Rat := spot.reach segment.dx segment.dy
  -- The order of the spots is transitive for proper ones alone, that of their reaches for all.
  have reaches : (cutsAlong cuts segment).map reach =
      ((cuts.filter segment.covers).map reach).mergeSort
        fun left right => decide (left ≤ right) := by
    refine List.map_mergeSort fun left leftIn right rightIn => ?_
    have leftProper := separate.proper left (List.mem_filter.1 leftIn).1
    have rightProper := separate.proper right (List.mem_filter.1 rightIn).1
    exact decide_eq_decide.2 (Spot.along_nonpos_iff leftProper rightProper)
  have sorted : ((cutsAlong cuts segment).map reach).Pairwise (· ≤ ·) := by
    rw [reaches]
    refine (List.pairwise_mergeSort ?_ ?_ _).imp of_decide_eq_true
    · simpa only [decide_eq_true_iff] using fun _ _ _ => le_trans
    · simp [le_total]
  refine ((List.pairwise_map.1 sorted).and (cutsAlong_apart separate)).imp_of_mem ?_
  intro left right leftIn rightIn ⟨ordered, apart⟩
  rw [mem_cutsAlong] at leftIn rightIn
  refine lt_of_le_of_ne ordered fun equal => apart ?_
  exact Segment.same_of_reach proper (separate.proper left leftIn.1)
    (separate.proper right rightIn.1) leftIn.2 rightIn.2 equal

theorem mem_pieces_iff (separate : Separate cuts) (proper : segment.IsProper)
    {first second : Spot} : ⟨first, second⟩ ∈ pieces cuts segment ↔
      first ∈ cutsAlong cuts segment ∧ second ∈ cutsAlong cuts segment ∧
      first.reach segment.dx segment.dy < second.reach segment.dx segment.dy ∧
      ∀ spot ∈ cutsAlong cuts segment,
        ¬(first.reach segment.dx segment.dy < spot.reach segment.dx segment.dy ∧
          spot.reach segment.dx segment.dy < second.reach segment.dx segment.dy) := by
  rw [pieces_eq]
  exact mem_pathSegments_iff (cutsAlong_ascending separate proper) (cutsAlong_apart separate)

theorem pieces_isProper (separate : Separate cuts) {piece : Segment}
    (member : piece ∈ pieces cuts segment) : piece.IsProper := by
  obtain ⟨starts, stops, apart⟩ := mem_pathSegments member
  exact ⟨separate.proper _ (mem_cutsAlong.1 starts).1, separate.proper _ (mem_cutsAlong.1 stops).1,
    apart⟩

theorem Among.cutsAlong (separate : Separate cuts) (othersSeparate : Separate others)
    (among : Among cuts others) : Among (cutsAlong cuts segment) (cutsAlong others segment) := by
  intro spot member
  obtain ⟨inCuts, covered⟩ := mem_cutsAlong.1 member
  obtain ⟨other, found, same⟩ := among spot inCuts
  have covers := Segment.covers_of_same (othersSeparate.proper other found)
    (separate.proper spot inCuts) same segment
  exact ⟨other, mem_cutsAlong.2 ⟨found, covers.trans covered⟩, same⟩

theorem exists_piece (separate : Separate cuts) (othersSeparate : Separate others)
    (among : Among cuts others) (back : Among others cuts) (proper : segment.IsProper)
    {piece : Segment} (member : piece ∈ pieces cuts segment) :
    ∃ other ∈ pieces others segment, other.Same piece := by
  obtain ⟨starts, stops, before, none⟩ := (mem_pieces_iff separate proper).1 member
  have reaches {spot other : Spot} (spotIn : spot ∈ cutsAlong cuts segment)
      (otherIn : other ∈ cutsAlong others segment) (same : other.same spot = true) :
      other.reach segment.dx segment.dy = spot.reach segment.dx segment.dy :=
    Spot.reach_of_same (othersSeparate.proper other (mem_cutsAlong.1 otherIn).1)
      (separate.proper spot (mem_cutsAlong.1 spotIn).1) same
  obtain ⟨start, startIn, startSame⟩ := among.cutsAlong separate othersSeparate _ starts
  obtain ⟨stop, stopIn, stopSame⟩ := among.cutsAlong separate othersSeparate _ stops
  refine ⟨⟨start, stop⟩, (mem_pieces_iff othersSeparate proper).2
    ⟨startIn, stopIn, ?_, fun spot spotIn between => ?_⟩, ⟨startSame, stopSame⟩⟩
  · rwa [reaches starts startIn startSame, reaches stops stopIn stopSame]
  · obtain ⟨old, oldIn, oldSame⟩ := back.cutsAlong othersSeparate separate spot spotIn
    rw [reaches starts startIn startSame, reaches stops stopIn stopSame,
      reaches oldIn spotIn (Spot.same_comm old spot ▸ oldSame)] at between
    exact none old oldIn between

end

end SensorThings.Spatial
