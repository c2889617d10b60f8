import SensorThings.Spatial.Relate
import SensorThings.Spatial.Relation
import SensorThings.Binary64.Arithmetic

/-!
Lengths and distances in the plane, in double arithmetic. A distance is 0 where the geometries meet,
which is decided exactly; elsewhere it is the least distance from a vertex of one to a segment of
the other.
-/
namespace SensorThings.Spatial

/-- The greatest finite double: the distance to nothing. -/
def farthest : Float := Float.ofBits 0x7FEFFFFFFFFFFFFF

/-- The lesser of two doubles; a NaN is passed over. -/
def lesser (left right : Float) : Float :=
  if Binary64.isNaN left then right
  else if Binary64.compare? right left == some .lt then right
  else left

def least (distances : List Float) : Float :=
  distances.foldl lesser farthest

def span (start stop : Position) : Float :=
  Binary64.hypotenuse (stop.x - start.x) (stop.y - start.y)

private def atMost (left right : Float) : Bool :=
  match Binary64.compare? left right with
  | some order => order != .gt
  | none => false

/-- Distance from a position to a segment: to an end, or to the foot of the perpendicular. -/
def spanToSegment (position start stop : Position) : Float :=
  if start.same stop then span start position
  else
    let dx := stop.x - start.x
    let dy := stop.y - start.y
    let square := dx * dx + dy * dy
    let foot := ((position.x - start.x) * dx + (position.y - start.y) * dy) / square
    if atMost foot 0 then span start position
    else if atMost 1 foot then span stop position
    else
      let offset := ((start.y - position.y) * dx - (start.x - position.x) * dy) / square
      offset.abs * Binary64.hypotenuse dx dy

def consecutive (positions : List Position) : List (Position × Position) :=
  positions.zip positions.tail

def spanToSegments (position : Position) (path : List Position) : Float :=
  least ((consecutive path).map fun (start, stop) => spanToSegment position start stop)

/-- The position divides the segment at one fraction between 0 and 1, in both coordinates up to the
last bit of a double. -/
private def segmentHolds (position : Position) : Position × Position → Bool
  | (start, stop) =>
    let dx := stop.x - start.x
    let dy := stop.y - start.y
    let within (fraction : Float) : Bool := atMost 0 fraction && atMost fraction 1
    let across := (position.x - start.x) / dx
    let along := (position.y - start.y) / dy
    if Binary64.same dx 0 && Binary64.same dy 0 then position.same start
    else if Binary64.same dy 0 then Binary64.same position.y start.y && within across
    else if Binary64.same dx 0 then Binary64.same position.x start.x && within along
    else atMost (across - along).abs (Float.ofBits 0x3CB0000000000000) && within across

def pathHolds (position : Position) (path : List Position) : Bool :=
  path.any (·.same position) || (consecutive path).any (segmentHolds position)

def spanToPath (position : Position) (path : List Position) : Float :=
  if path.isEmpty || pathHolds position path then 0 else spanToSegments position path

def spanOfPaths (left right : List Position) : Float :=
  lesser (least (left.map fun position => spanToSegments position right))
    (least (right.map fun position => spanToSegments position left))

def spanOfPathLists (lefts rights : List (List Position)) : Float :=
  least (lefts.flatMap fun left => rights.map fun right => spanOfPaths left right)

/-- A sum that starts from minus zero, so that the sum of nothing is minus zero. -/
def total (lengths : List Float) : Float :=
  lengths.foldl (· + ·) (-0.0)

def pathLength (path : List Position) : Float :=
  total ((consecutive path).map fun (start, stop) => span start stop)

end SensorThings.Spatial

namespace SensorThings.Geometry

open Spatial

def parts : Geometry → List Geometry
  | multiPoint positions => positions.map point
  | multiLineString lines => lines.map lineString
  | multiPolygon polygons => polygons.map polygon
  | geometry => [geometry]

private def partDistance (left right : Geometry) : Float :=
  let apart (distance : Float) : Float :=
    if SpatialRelation.intersects.holdsBy relate left right then 0 else distance
  let toArea (position : Position) (rings : List (List Position)) : Float :=
    match rings with
    | [] => 0
    | shell :: holes =>
      if shell.isEmpty then 0
      else apart (lesser (least (holes.map (spanToPath position))) (spanToSegments position shell))
  match left, right with
  | point start, point stop => span stop start
  | point position, lineString path => spanToPath position path
  | lineString path, point position => spanToPath position path
  | point position, polygon rings => toArea position rings
  | polygon rings, point position => toArea position rings
  | lineString path, lineString other => apart (spanOfPaths path other)
  | lineString path, polygon rings => apart (spanOfPathLists [path] rings)
  | polygon rings, lineString path => apart (spanOfPathLists [path] rings)
  | polygon rings, polygon others => apart (spanOfPathLists rings others)
  | _, _ => farthest

/-- The least distance between parts of two geometries. -/
def distance (left right : Geometry) : Float :=
  least (left.parts.flatMap fun part => right.parts.map fun other => partDistance part other)

def length : Geometry → Float
  | point _ => 0
  | multiPoint _ => 0
  | lineString path => pathLength path
  | multiLineString lines => total (lines.map pathLength)
  | polygon rings => total (rings.map pathLength)
  | multiPolygon polygons => total (polygons.flatten.map pathLength)

end SensorThings.Geometry

namespace SensorThings

/-- Matrices by exact arithmetic, measures in doubles. -/
instance PlaneGeometry.exact : PlaneGeometry where
  relate := Spatial.relate
  distance := Geometry.distance
  length := Geometry.length

end SensorThings
