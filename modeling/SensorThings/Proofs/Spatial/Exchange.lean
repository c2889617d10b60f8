import SensorThings.Spatial.Measure
import SensorThings.Proofs.Sequencing
import SensorThings.Proofs.Spatial.Transposition

/-!
Named relations with their arguments exchanged. The matrix is then transposed, so a pattern has to
be read by columns: each relation asks of the exchanged geometries what its converse asks.
-/
namespace SensorThings

namespace Spatial

theorem mem_locations (location : Location) : location ∈ Pattern.locations := by
  cases location <;> decide

namespace Pattern

variable {matrix : Matrix} {pattern strict loose : Pattern} {text : String}

theorem accepts_iff :
    pattern.accepts matrix = true ↔
      ∀ row column, (pattern.demand row column).holds (matrix row column) = true := by
  simp only [accepts, List.all_eq_true, mem_locations, forall_const]

def cells (pattern : Pattern) : List Demand :=
  locations.flatMap fun row => locations.map (pattern.demand row)

theorem ofText?_eq_some_iff :
    ofText? text = some pattern ↔ text.toList.map Demand.ofChar? = pattern.cells.map some := by
  rw [← mapM_eq_some_iff_map, ofText?, Option.bind_eq_bind, Option.bind_eq_some_iff]
  constructor
  · rintro ⟨demands, read, nine⟩
    split at nine
    case h_1 =>
      obtain rfl := Option.some.inj nine
      exact read
    case h_2 => contradiction
  · intro read
    refine ⟨pattern.cells, read, ?_⟩
    obtain ⟨demand⟩ := pattern
    refine congrArg (fun demand => some (Pattern.mk demand)) ?_
    funext row column
    cases row <;> cases column <;> rfl

theorem fits_iff :
    matrix.fits text = true ↔
      ∃ pattern, ofText? text = some pattern ∧ pattern.accepts matrix = true := by
  rw [Matrix.fits]
  cases ofText? text with
  | none => simp
  | some pattern => simp

def transpose (pattern : Pattern) : Pattern :=
  ⟨fun row column => pattern.demand column row⟩

@[simp] theorem accepts_transpose (pattern : Pattern) (matrix : Matrix) :
    pattern.transpose.accepts matrix.transpose = pattern.accepts matrix := by
  rw [Bool.eq_iff_iff, accepts_iff, accepts_iff]
  exact forall_comm

def byColumns {α : Type} : List α → List α
  | [ii, ib, ie, bi, bb, be, ei, eb, ee] => [ii, bi, ei, ib, bb, eb, ie, be, ee]
  | items => items

section

variable {α β : Type}

@[simp] theorem byColumns_byColumns (items : List α) : byColumns (byColumns items) = items := by
  fun_cases byColumns items
  case case1 => rfl
  case case2 other => exact byColumns.eq_2 items other

@[simp] theorem byColumns_of_length_ne {items : List α} (other : items.length ≠ 9) :
    byColumns items = items := by
  fun_cases byColumns items
  case case1 => contradiction
  case case2 => rfl

theorem map_byColumns (convert : α → β) (items : List α) :
    (byColumns items).map convert = byColumns (items.map convert) := by
  fun_cases byColumns items
  case case1 => rfl
  case case2 other =>
    refine (byColumns_of_length_ne fun nine => ?_).symm
    rw [List.length_map] at nine
    match items, nine with
    | [_, _, _, _, _, _, _, _, _], _ => exact other _ _ _ _ _ _ _ _ _ rfl

end

@[simp] theorem cells_transpose (pattern : Pattern) :
    pattern.transpose.cells = byColumns pattern.cells := rfl

def transposed (text : String) : String :=
  String.ofList (byColumns text.toList)

theorem ofText?_transposed :
    ofText? (transposed text) = some pattern.transpose ↔ ofText? text = some pattern := by
  have injective : (byColumns (α := Option Demand)).Injective :=
    Function.LeftInverse.injective byColumns_byColumns
  rw [ofText?_eq_some_iff, ofText?_eq_some_iff, transposed, String.toList_ofList, map_byColumns,
    cells_transpose, map_byColumns, injective.eq_iff]

def Weakens (loose strict : Pattern) : Prop :=
  ∀ row column, loose.demand row column = .any ∨ loose.demand row column = strict.demand row column

theorem accepts_of_weakens (weakens : loose.Weakens strict)
    (accepted : strict.accepts matrix = true) : loose.accepts matrix = true := by
  rw [accepts_iff] at accepted ⊢
  intro row column
  rcases weakens row column with none | same
  · rw [none]
    rfl
  · rw [same]
    exact accepted row column

end Pattern

theorem Matrix.fits_of_weakens {matrix : Matrix} {loose strict : Pattern}
    {looseText strictText : String} (looseRead : Pattern.ofText? looseText = some loose)
    (strictRead : Pattern.ofText? strictText = some strict) (weakens : loose.Weakens strict)
    (fits : matrix.fits strictText = true) : matrix.fits looseText = true := by
  obtain ⟨pattern, read, accepted⟩ := Pattern.fits_iff.1 fits
  obtain rfl := Option.some.inj (strictRead.symm.trans read)
  exact Pattern.fits_iff.2 ⟨loose, looseRead, Pattern.accepts_of_weakens weakens accepted⟩

@[simp] theorem Matrix.fits_transposed (matrix : Matrix) (text : String) :
    matrix.transpose.fits (Pattern.transposed text) = matrix.fits text := by
  rw [Bool.eq_iff_iff, Pattern.fits_iff, Pattern.fits_iff]
  constructor
  · rintro ⟨pattern, read, accepted⟩
    have accepted := (Pattern.accepts_transpose pattern matrix.transpose).trans accepted
    exact ⟨pattern.transpose, Pattern.ofText?_transposed.1 read, accepted⟩
  · rintro ⟨pattern, read, accepted⟩
    have accepted := (Pattern.accepts_transpose pattern matrix).trans accepted
    exact ⟨pattern.transpose, Pattern.ofText?_transposed.2 read, accepted⟩

end Spatial

namespace SpatialRelation

variable {relate : Geometry → Geometry → Spatial.Matrix} {left right : Geometry}

def converse : SpatialRelation → SpatialRelation
  | within => contains
  | contains => within
  | other => other

theorem converse_of_ne {relation : SpatialRelation} (notWithin : relation ≠ within)
    (notContains : relation ≠ contains) : relation.converse = relation := by
  cases relation
  case within => contradiction
  case contains => contradiction
  all_goals rfl

theorem patterns_crosses (first second : Nat) : crosses.patterns second first =
    (crosses.patterns first second).map Spatial.Pattern.transposed := by
  rw [patterns, patterns]
  rcases Nat.lt_trichotomy first second with lower | rfl | higher
  · rw [if_neg (Nat.lt_asymm lower), if_pos lower, if_pos lower]
    rfl
  · rw [if_neg (Nat.lt_irrefl first), if_neg (Nat.lt_irrefl first)]
    split <;> rfl
  · rw [if_pos higher, if_neg (Nat.lt_asymm higher), if_pos higher]
    rfl

theorem patterns_overlaps (first second : Nat) : overlaps.patterns second first =
    (overlaps.patterns first second).map Spatial.Pattern.transposed := by
  rw [patterns, patterns]
  by_cases same : first = second
  · subst same
    rw [if_neg (fun other => other rfl)]
    split <;> rfl
  · rw [if_pos (Ne.symm same), if_pos same]
    rfl

theorem patterns_converse (relation : SpatialRelation) (first second : Nat) :
    (relation.converse.patterns second first).Perm
      ((relation.patterns first second).map Spatial.Pattern.transposed) := by
  cases relation
  case touches => exact .swap _ _ _
  case crosses => exact .of_eq (patterns_crosses first second)
  case overlaps => exact .of_eq (patterns_overlaps first second)
  all_goals exact .refl _

theorem ofMatrix_converse (relation : SpatialRelation) (first second : Nat)
    (matrix : Spatial.Matrix) :
    relation.converse.ofMatrix second first matrix.transpose =
      relation.ofMatrix first second matrix := by
  have fits : (relation.converse.patterns second first).any matrix.transpose.fits =
      (relation.patterns first second).any matrix.fits := by
    rw [(patterns_converse relation first second).any_eq, List.any_map]
    exact congrArg _ (funext matrix.fits_transposed)
  have negated : relation.converse = intersects ↔ relation = intersects := by
    cases relation <;> decide
  rw [ofMatrix, ofMatrix, fits]
  simp only [negated]

theorem holdsBy_converse (transposes : relate right left = (relate left right).transpose)
    (relation : SpatialRelation) :
    relation.converse.holdsBy relate right left = relation.holdsBy relate left right := by
  rw [holdsBy, holdsBy, transposes, ofMatrix_converse]

theorem holdsBy_disjoint (relate : Geometry → Geometry → Spatial.Matrix) (left right : Geometry) :
    disjoint.holdsBy relate left right = !intersects.holdsBy relate left right :=
  (Bool.not_not _).symm

theorem holdsBy_eq_fits {relation : SpatialRelation} {pattern : String}
    (only : relation.patterns left.dimension right.dimension = [pattern])
    (plain : relation ≠ intersects) :
    relation.holdsBy relate left right = (relate left right).fits pattern := by
  rw [holdsBy, ofMatrix, only, List.any_cons, List.any_nil, Bool.or_false, if_neg plain]

theorem within_of_equals (equal : equals.holdsBy relate left right = true) :
    within.holdsBy relate left right = true := by
  rw [holdsBy_eq_fits rfl (by decide)] at equal ⊢
  refine Spatial.Matrix.fits_of_weakens rfl rfl (fun row column => ?_) equal
  cases row <;> cases column <;> decide

/-- What the relations promise of each other on two geometries. -/
structure Agree (relate : Geometry → Geometry → Spatial.Matrix) (left right : Geometry) : Prop where
  converses : within.holdsBy relate left right = contains.holdsBy relate right left
  opposites : disjoint.holdsBy relate left right = !intersects.holdsBy relate left right
  strongest : equals.holdsBy relate left right = true →
    within.holdsBy relate left right = true ∧ contains.holdsBy relate left right = true
  symmetric : ∀ relation, relation ≠ within → relation ≠ contains →
    relation.holdsBy relate left right = relation.holdsBy relate right left

theorem agree_of_transposed (transposes : relate right left = (relate left right).transpose) :
    Agree relate left right where
  converses := (holdsBy_converse transposes within).symm
  opposites := holdsBy_disjoint relate left right
  strongest equal := by
    have swapped : equals.holdsBy relate right left = true :=
      (holdsBy_converse transposes equals).trans equal
    have contained : contains.holdsBy relate left right = within.holdsBy relate right left :=
      (holdsBy_converse transposes contains).symm
    exact ⟨within_of_equals equal, contained.trans (within_of_equals swapped)⟩
  symmetric relation notWithin notContains := by
    have exchanged := holdsBy_converse transposes relation
    rw [converse_of_ne notWithin notContains] at exchanged
    exact exchanged.symm

/-- One place, and two of which it is one. -/
def place : Geometry := .point ⟨Binary64.ofInt 3, Binary64.ofInt 4⟩

def places : Geometry :=
  .multiPoint [⟨Binary64.ofInt 3, Binary64.ofInt 4⟩, ⟨Binary64.ofInt 0, Binary64.ofInt 0⟩]

theorem agree_of_transposed_places :
    Spatial.relate places place = (Spatial.relate place places).transpose ∧
      contains.holds places place = true := by
  have transposes := Spatial.relate_transpose place places
  have covered : within.holdsBy Spatial.relate place places = true := by decide +kernel
  exact ⟨transposes, (agree_of_transposed transposes).converses.symm.trans covered⟩

end SpatialRelation

end SensorThings
