import SensorThings.Spatial.Shape

/-!
The intersection matrix of two geometries. All segments of both are cut where they meet; each cut
spot, each open piece between cuts and each side of a piece then lies in one part of either geometry
and raises that cell to dimension 0, 1 or 2.
-/
namespace SensorThings.Spatial

/-- Spots without repetition. -/
def distinct (spots : List Spot) : List Spot :=
  spots.foldl (fun found spot => if found.any (·.same spot) then found else found ++ [spot]) []

def cuts (segments : List Segment) : List Spot :=
  let ends := segments.flatMap fun segment => [segment.start, segment.stop]
  let crossings := segments.flatMap fun left => segments.filterMap fun right => left.crossing? right
  distinct (ends ++ crossings)

def pieces (cuts : List Spot) (segment : Segment) : List Segment :=
  let onSegment := cuts.filter segment.covers
  let sorted := onSegment.mergeSort fun left right =>
    left.along right segment.dx segment.dy ≤ 0
  pathSegments sorted

private def coordinates : Geometry → List Position
  | .point position => [position]
  | .multiPoint positions => positions
  | .lineString positions => positions
  | .multiLineString lines => lines.flatten
  | .polygon rings => rings.flatten
  | .multiPolygon polygons => polygons.flatten.flatten

private def isFinite (geometry : Geometry) : Bool :=
  (coordinates geometry).all fun position =>
    Binary64.isFinite position.x && Binary64.isFinite position.y

def relateShapes (left right : Shape) : Matrix :=
  let segments := left.segments ++ right.segments
  let cutSpots := cuts segments
  let spots := distinct (cutSpots ++ left.spots ++ right.spots)
  let allPieces := segments.flatMap (pieces cutSpots)
  let withSpots := spots.foldl (fun (matrix : Matrix) spot =>
    matrix.raise (left.locate spot) (right.locate spot) .points) Matrix.disjoint
  let withPieces := allPieces.foldl (fun (matrix : Matrix) piece =>
    let middle := Spot.middle piece.start piece.stop
    matrix.raise (left.locate middle) (right.locate middle) .lines) withSpots
  allPieces.foldl (fun (matrix : Matrix) piece =>
    let (leftHere, leftThere) := left.sideLocations piece
    let (rightHere, rightThere) := right.sideLocations piece
    (matrix.raise leftHere rightHere .areas).raise leftThere rightThere .areas) withPieces

/-- The intersection matrix. A geometry with an infinite or undefined coordinate meets nothing. -/
def relate (left right : Geometry) : Matrix :=
  if isFinite left && isFinite right then
    let unit := unitExponent ((coordinates left ++ coordinates right).flatMap fun position =>
      [position.x, position.y])
    relateShapes (.ofGeometry unit left) (.ofGeometry unit right)
  else Matrix.disjoint

end SensorThings.Spatial
