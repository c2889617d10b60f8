import SensorThings.Text.Case

/-!
Intersection matrices of the nine-intersection model. A cell tells the dimension in which a part of
one geometry meets a part of the other; patterns constrain cells one by one.
-/
namespace SensorThings.Spatial

/-- The part of a geometry that a point of the plane belongs to. -/
inductive Location where
  | inside
  | boundary
  | outside
deriving DecidableEq, Repr

/-- The dimension of an intersection, empty ones included. -/
inductive Extent where
  | empty
  | points
  | lines
  | areas
deriving DecidableEq, Repr

namespace Extent

def rank : Extent → Nat
  | empty => 0
  | points => 1
  | lines => 2
  | areas => 3

def larger (left right : Extent) : Extent :=
  if left.rank < right.rank then right else left

end Extent

/-- Rows are parts of the first geometry, columns parts of the second. -/
def Matrix : Type := Location → Location → Extent

namespace Matrix

def transpose (matrix : Matrix) : Matrix :=
  fun row column => matrix column row

@[simp] theorem transpose_transpose (matrix : Matrix) : matrix.transpose.transpose = matrix := rfl

/-- Only the outsides meet, in an area. -/
def disjoint : Matrix
  | .outside, .outside => .areas
  | _, _ => .empty

/-- Record that two parts meet in at least this dimension. -/
def raise (matrix : Matrix) (row column : Location) (extent : Extent) : Matrix :=
  fun otherRow otherColumn =>
    if otherRow = row ∧ otherColumn = column then (matrix row column).larger extent
    else matrix otherRow otherColumn

end Matrix

/-- What a pattern asks of one cell. -/
inductive Demand where
  | any
  | nonempty
  | exactly (extent : Extent)
deriving DecidableEq, Repr

namespace Demand

def holds : Demand → Extent → Bool
  | any, _ => true
  | nonempty, extent => extent != .empty
  | exactly expected, extent => extent == expected

def ofChar? (character : Char) : Option Demand :=
  match character.toUpper with
  | '*' => some any
  | 'T' => some nonempty
  | 'F' => some (exactly .empty)
  | '0' => some (exactly .points)
  | '1' => some (exactly .lines)
  | '2' => some (exactly .areas)
  | _ => none

end Demand

/-- A demand for each of the nine cells. -/
structure Pattern where
  demand : Location → Location → Demand

namespace Pattern

/-- Nine letters, row by row, in either case. -/
def ofText? (text : String) : Option Pattern := do
  match ← text.toList.mapM Demand.ofChar? with
  | [ii, ib, ie, bi, bb, be, ei, eb, ee] =>
    some ⟨fun
      | .inside, .inside => ii
      | .inside, .boundary => ib
      | .inside, .outside => ie
      | .boundary, .inside => bi
      | .boundary, .boundary => bb
      | .boundary, .outside => be
      | .outside, .inside => ei
      | .outside, .boundary => eb
      | .outside, .outside => ee⟩
  | _ => none

def isValid (text : String) : Bool :=
  (ofText? text).isSome

def locations : List Location := [.inside, .boundary, .outside]

def accepts (pattern : Pattern) (matrix : Matrix) : Bool :=
  locations.all fun row => locations.all fun column =>
    (pattern.demand row column).holds (matrix row column)

end Pattern

/-- A text that is no pattern matches nothing. -/
def Matrix.fits (matrix : Matrix) (text : String) : Bool :=
  match Pattern.ofText? text with
  | some pattern => pattern.accepts matrix
  | none => false

end SensorThings.Spatial
