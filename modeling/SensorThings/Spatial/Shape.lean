import SensorThings.Spatial.Plane
import SensorThings.Spatial.Matrix

/-!
Geometries as point sets, and where a spot lies in them. Ends of lines follow the rule of two: a
spot is on the boundary when an odd number of line ends meet there. A spot is inside an area when a
ray from it crosses the rings an odd number of times.
-/
namespace SensorThings.Spatial

/-- Isolated spots, lines with their ends, and areas as the edges of their rings. -/
structure Shape where
  spots : List Spot
  lines : List Segment
  ends : List Spot
  areas : List (List Segment)

namespace Shape

def empty : Shape := ⟨[], [], [], []⟩

def append (left right : Shape) : Shape where
  spots := left.spots ++ right.spots
  lines := left.lines ++ right.lines
  ends := left.ends ++ right.ends
  areas := left.areas ++ right.areas

def ofLine (path : List Spot) : Shape :=
  match pathSegments path, path.head?, path.getLast? with
  | [], some spot, _ => { empty with spots := [spot] }
  | segments, some first, some last => { empty with lines := segments, ends := [first, last] }
  | _, _, _ => empty

/-- Rings are closed whether or not the last position repeats the first. -/
def ringSegments (ring : List Spot) : List Segment :=
  match ring with
  | [] => []
  | first :: _ => pathSegments (ring ++ [first])

def ofRings (rings : List (List Spot)) : Shape :=
  { empty with areas := [rings.flatMap ringSegments] }

def ofGeometry (unit : Int) : Geometry → Shape
  | .point position => { empty with spots := [Spot.ofPosition unit position] }
  | .multiPoint positions => { empty with spots := positions.map (Spot.ofPosition unit) }
  | .lineString positions => ofLine (positions.map (Spot.ofPosition unit))
  | .multiLineString lines =>
    (lines.map fun line => ofLine (line.map (Spot.ofPosition unit))).foldl append empty
  | .polygon rings => ofRings (rings.map (List.map (Spot.ofPosition unit)))
  | .multiPolygon polygons =>
    let shapes := polygons.map fun rings => ofRings (rings.map (List.map (Spot.ofPosition unit)))
    shapes.foldl append empty

def segments (shape : Shape) : List Segment :=
  shape.lines ++ shape.areas.flatten

/-- A ray from the spot along the positive x axis crosses an odd number of edges. An edge counts
from its lower end, included, to its upper end, excluded. -/
def surrounds (edges : List Segment) (spot : Spot) : Bool :=
  edges.foldl (fun odd edge =>
    let startAbove := 0 < edge.start.along spot 0 1
    let stopAbove := 0 < edge.stop.along spot 0 1
    let turn := Spot.turn edge.start edge.stop spot
    let crosses := (!startAbove && stopAbove && 0 < turn) || (startAbove && !stopAbove && turn < 0)
    odd != crosses) false

def locate (shape : Shape) (spot : Spot) : Location :=
  if shape.areas.any (·.any (·.covers spot)) then .boundary
  else if shape.areas.any (surrounds · spot) then .inside
  else if (shape.ends.countP (·.same spot)) % 2 = 1 then .boundary
  else if shape.lines.any (·.covers spot) || shape.spots.any (·.same spot) then .inside
  else .outside

/-- Which sides of a piece of segment belong to an area, left first. The piece meets other segments
at its ends only, so a ray from its middle to the left, moved by an immeasurable amount, decides the
left side; edges that cover the piece part the sides. -/
def sides (edges : List Segment) (piece : Segment) : Bool × Bool :=
  let origin := Spot.middle piece.start piece.stop
  let dx := piece.dx
  let dy := piece.dy
  edges.foldl (fun (left, right) edge =>
    let start := edge.start.along origin dx dy
    let stop := edge.stop.along origin dx dy
    if (0 < start) == (0 < stop) then (left, right)
    else
      let height :=
        edge.start.along origin (-dy) dx * stop - edge.stop.along origin (-dy) dx * start
      let above := if start < stop then height else -height
      if 0 < above then (!left, !right)
      else if above = 0 then (left, !right)
      else (left, right)) (false, false)

/-- Whether the left and the right side of a piece lie inside the areas. -/
def sideLocations (shape : Shape) (piece : Segment) : Location × Location :=
  let found := shape.areas.map (sides · piece)
  (if found.any Prod.fst then .inside else .outside,
    if found.any Prod.snd then .inside else .outside)

end Shape

end SensorThings.Spatial
