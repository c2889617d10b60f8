import SensorThings.Geometry.Basic
import SensorThings.Spatial.Matrix

/-!
Named topological relations, each a choice of matrix patterns. Crossing and overlapping choose by
the dimensions of the geometries.
-/
namespace SensorThings

/-- What evaluation asks of plane geometry, whichever library answers: the intersection matrix of
two geometries, their distance and the length of one. -/
class PlaneGeometry where
  relate : Geometry → Geometry → Spatial.Matrix
  distance : Geometry → Geometry → Float
  length : Geometry → Float

inductive SpatialRelation where
  | equals
  | disjoint
  | touches
  | within
  | overlaps
  | crosses
  | intersects
  | contains
deriving DecidableEq, Repr

/-- 0 for points, 1 for lines, 2 for areas. -/
def Geometry.dimension : Geometry → Nat
  | .point _ => 0
  | .multiPoint _ => 0
  | .lineString _ => 1
  | .multiLineString _ => 1
  | .polygon _ => 2
  | .multiPolygon _ => 2

namespace SpatialRelation

/-- The patterns of which the matrix must fit one, for dimensions of the first and the second
geometry. Intersecting is stated as not being disjoint. -/
def patterns (relation : SpatialRelation) (first second : Nat) : List String :=
  match relation with
  | equals => ["T*F**FFF*"]
  | disjoint => ["FF*FF****"]
  | intersects => ["FF*FF****"]
  | touches => ["FT*******", "F**T*****", "F***T****"]
  | within => ["T*F**F***"]
  | contains => ["T*****FF*"]
  | crosses =>
    if first < second then ["T*T******"]
    else if second < first then ["T*****T**"]
    else if first = 1 then ["0********"]
    else []
  | overlaps =>
    if first ≠ second then []
    else if first = 1 then ["1*T***T**"]
    else ["T*T***T**"]

/-- Whether geometries of the given dimensions with this matrix stand in the relation. -/
def ofMatrix (relation : SpatialRelation) (first second : Nat) (matrix : Spatial.Matrix) : Bool :=
  let fits := (relation.patterns first second).any matrix.fits
  if relation = intersects then !fits else fits

/-- Whether two geometries stand in the relation, by the matrix that `relate` gives them. -/
def holdsBy (relate : Geometry → Geometry → Spatial.Matrix) (relation : SpatialRelation)
    (left right : Geometry) : Bool :=
  relation.ofMatrix left.dimension right.dimension (relate left right)

def holds [PlaneGeometry] (relation : SpatialRelation) (left right : Geometry) : Bool :=
  relation.holdsBy PlaneGeometry.relate left right

end SpatialRelation

def Geometry.relates [PlaneGeometry] (left right : Geometry) (pattern : String) : Bool :=
  (PlaneGeometry.relate left right).fits pattern

end SensorThings
