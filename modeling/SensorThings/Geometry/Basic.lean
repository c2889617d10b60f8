import SensorThings.Binary64.Basic

/-!
Planar geometries of the six simple types. Rings and lines are lists of positions; the first ring of
a polygon is its shell and the others are holes.
-/
namespace SensorThings

structure Position where
  x : Float
  y : Float

def Position.same (left right : Position) : Bool :=
  Binary64.same left.x right.x && Binary64.same left.y right.y

inductive Geometry where
  | point (position : Position)
  | multiPoint (positions : List Position)
  | lineString (positions : List Position)
  | multiLineString (lines : List (List Position))
  | polygon (rings : List (List Position))
  | multiPolygon (polygons : List (List (List Position)))

namespace Geometry

def typeName : Geometry → String
  | point _ => "Point"
  | multiPoint _ => "MultiPoint"
  | lineString _ => "LineString"
  | multiLineString _ => "MultiLineString"
  | polygon _ => "Polygon"
  | multiPolygon _ => "MultiPolygon"

def positions : Geometry → List Position
  | point position => [position]
  | multiPoint positions | lineString positions => positions
  | multiLineString lines | polygon lines => lines.flatten
  | multiPolygon polygons => polygons.flatten.flatten

def sameLists {α : Type} (same : α → α → Bool) : List α → List α → Bool
  | [], [] => true
  | left :: lefts, right :: rights => same left right && sameLists same lefts rights
  | _, _ => false

/-- Equal types and equal coordinates in the same order. A geometry with a NaN is not even equal to
itself. -/
def same : Geometry → Geometry → Bool
  | point left, point right => left.same right
  | multiPoint left, multiPoint right => sameLists Position.same left right
  | lineString left, lineString right => sameLists Position.same left right
  | multiLineString left, multiLineString right => sameLists (sameLists Position.same) left right
  | polygon left, polygon right => sameLists (sameLists Position.same) left right
  | multiPolygon left, multiPolygon right =>
    sameLists (sameLists (sameLists Position.same)) left right
  | _, _ => false

end Geometry

end SensorThings
