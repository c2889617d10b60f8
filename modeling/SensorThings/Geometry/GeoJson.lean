import SensorThings.Geometry.Basic
import SensorThings.Json.Writer

/-!
GeoJSON: a geometry is an object with a type and its coordinates. Clients send a bare geometry or a
Feature that wraps one.
-/
namespace SensorThings

def Position.toJson (position : Position) : Json :=
  .array [.double position.x, .double position.y]

/-- A position is an array of exactly two numbers. -/
def Position.ofJson? : Json → Option Position
  | .array [x, y] => do return ⟨← number? x, ← number? y⟩
  | _ => none
where
  number? : Json → Option Float
    | .int value => some (Binary64.ofInt value)
    | .float value => some value
    | _ => none

namespace Geometry

def positionsJson (positions : List Position) : Json :=
  .array (positions.map Position.toJson)

def linesJson (lines : List (List Position)) : Json :=
  .array (lines.map positionsJson)

def coordinatesJson : Geometry → Json
  | point position => position.toJson
  | multiPoint positions => positionsJson positions
  | lineString positions => positionsJson positions
  | multiLineString lines => linesJson lines
  | polygon rings => linesJson rings
  | multiPolygon polygons => .array (polygons.map linesJson)

def toJson (geometry : Geometry) : Json :=
  .object [("coordinates", geometry.coordinatesJson), ("type", .string geometry.typeName)]

/-- The text geometries are ordered by, which names the type first. -/
def sortText (geometry : Geometry) : String :=
  "\x7b\"type\":" ++ Json.quoted geometry.typeName ++ ",\"coordinates\":" ++
    geometry.coordinatesJson.text ++ "\x7d"

def list? {α : Type} (item? : Json → Option α) : Json → Option (List α)
  | .array items => items.mapM item?
  | _ => none

def lines? : Json → Option (List (List Position)) :=
  list? (list? Position.ofJson?)

def ofTyped? (typeName : String) (coordinates : Json) : Option Geometry :=
  if typeName = "Point" then (Position.ofJson? coordinates).map point
  else if typeName = "MultiPoint" then (list? Position.ofJson? coordinates).map multiPoint
  else if typeName = "LineString" then (list? Position.ofJson? coordinates).map lineString
  else if typeName = "MultiLineString" then (lines? coordinates).map multiLineString
  else if typeName = "Polygon" then (lines? coordinates).map polygon
  else if typeName = "MultiPolygon" then (list? lines? coordinates).map multiPolygon
  else none

/-- The type names in the order in which a client may number them. -/
def typeNames : List String :=
  ["Point", "MultiPoint", "LineString", "MultiLineString", "Polygon", "MultiPolygon"]

/-- A geometry as it is stored: type and coordinates as members, or as the items of a pair. -/
def ofJson? : Json → Option Geometry
  | .object members =>
    match members.lookup "type", members.lookup "coordinates" with
    | some (.string typeName), some coordinates => ofTyped? typeName coordinates
    | _, _ => none
  | .array [.string typeName, coordinates] => ofTyped? typeName coordinates
  | _ => none

/-- A client may also give the type by its number. -/
def withNamedType : Json → Json
  | .object members =>
    .object (members.map fun (key, value) =>
      match key, value with
      | "type", .int index => (key, named index value)
      | _, _ => (key, value))
  | .array (.int index :: rest) => .array (named index (.int index) :: rest)
  | json => json
where
  named (index : Int) (other : Json) : Json :=
    match (if 0 ≤ index then typeNames[index.toNat]? else none) with
    | some name => .string name
    | none => other

end Geometry

/-- A geometry as a client sends it: bare, or as the member `geometry` of any object. -/
inductive SentGeometry where
  | bare (geometry : Geometry)
  | feature (geometry : Geometry)

namespace SentGeometry

def geometry : SentGeometry → Geometry
  | bare geometry => geometry
  | feature geometry => geometry

def ofJson? (json : Json) : Option SentGeometry :=
  match Geometry.ofJson? (Geometry.withNamedType json) with
  | some geometry => some (bare geometry)
  | none => do
    let inner ← json.member? "geometry"
    return feature (← Geometry.ofJson? (Geometry.withNamedType inner))

def toJson : SentGeometry → Json
  | bare geometry => geometry.toJson
  | feature geometry => .object [("geometry", geometry.toJson)]

end SentGeometry

end SensorThings
