import SensorThings.Geometry.Basic

/-!
Exact plane geometry. Coordinates are doubles and so dyadic numbers; scaled by one power of two they
are integers, and intersections of lines are rational points. Every test below is the sign of an
integer.
-/
namespace SensorThings.Spatial

/-- The point (`x` / `weight`, `y` / `weight`), with a positive weight. -/
structure Spot where
  x : Int
  y : Int
  weight : Int

namespace Spot

def same (left right : Spot) : Bool :=
  left.x * right.weight == right.x * left.weight && left.y * right.weight == right.y * left.weight

def middle (left right : Spot) : Spot where
  x := left.x * right.weight + right.x * left.weight
  y := left.y * right.weight + right.y * left.weight
  weight := 2 * left.weight * right.weight

/-- Positive where the path from the first over the second to the third spot turns left, and zero
where they lie on one line. -/
def turn (first second third : Spot) : Int :=
  first.x * (second.y * third.weight - third.y * second.weight) -
    first.y * (second.x * third.weight - third.x * second.weight) +
    first.weight * (second.x * third.y - third.x * second.y)

/-- Component along (`dx`, `dy`) of the way from `origin`, up to a positive factor. -/
def along (spot origin : Spot) (dx dy : Int) : Int :=
  (spot.x * origin.weight - origin.x * spot.weight) * dx +
    (spot.y * origin.weight - origin.y * spot.weight) * dy

end Spot

structure Segment where
  start : Spot
  stop : Spot

namespace Segment

def dx (segment : Segment) : Int :=
  segment.stop.x * segment.start.weight - segment.start.x * segment.stop.weight

def dy (segment : Segment) : Int :=
  segment.stop.y * segment.start.weight - segment.start.y * segment.stop.weight

def covers (segment : Segment) (spot : Spot) : Bool :=
  Spot.turn segment.start segment.stop spot == 0 &&
    0 ≤ spot.along segment.start segment.dx segment.dy &&
    spot.along segment.stop segment.dx segment.dy ≤ 0

def crossing? (left right : Segment) : Option Spot :=
  let a := left.start.y * left.stop.weight - left.stop.y * left.start.weight
  let b := left.stop.x * left.start.weight - left.start.x * left.stop.weight
  let c := left.start.x * left.stop.y - left.stop.x * left.start.y
  let d := right.start.y * right.stop.weight - right.stop.y * right.start.weight
  let e := right.stop.x * right.start.weight - right.start.x * right.stop.weight
  let f := right.start.x * right.stop.y - right.stop.x * right.start.y
  let weight := a * e - b * d
  if weight = 0 then none
  else
    let sign : Int := if weight < 0 then -1 else 1
    let spot : Spot := ⟨sign * (b * f - c * e), sign * (c * d - a * f), sign * weight⟩
    if left.covers spot && right.covers spot then some spot else none

end Segment

/-- The greatest power of two that divides every coordinate, as an exponent. -/
def unitExponent (coordinates : List Float) : Int :=
  coordinates.foldl (fun unit coordinate =>
    match Binary64.parts coordinate with
    | .finite _ mantissa exponent => if mantissa = 0 then unit else min unit exponent
    | _ => unit) 0

/-- A double in units of 2 ^ `unit`. -/
def inUnits (unit : Int) (coordinate : Float) : Int :=
  match Binary64.parts coordinate with
  | .finite negative mantissa exponent =>
    let scaled : Int := mantissa * Nat.pow 2 (exponent - unit).toNat
    if negative then -scaled else scaled
  | _ => 0

def Spot.ofPosition (unit : Int) (position : Position) : Spot :=
  ⟨inUnits unit position.x, inUnits unit position.y, 1⟩

/-- Segments between consecutive positions; repeated positions give none. -/
def pathSegments : List Spot → List Segment
  | start :: stop :: rest =>
    let others := pathSegments (stop :: rest)
    if start.same stop then others else ⟨start, stop⟩ :: others
  | _ => []

end SensorThings.Spatial
