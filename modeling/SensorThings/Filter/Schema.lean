import SensorThings.Filter.ValueType

/-!
Property maps: what clients may name in filters, sort keys and selections, and which stored columns
the names stand for.
-/
namespace SensorThings

inductive Property where
  | column (name : String) (type : ValueType)
  /-- A time kept as a start and an end column. -/
  | span (start stop : String)
  /-- A document that longer paths lead into. -/
  | json (name : String)
  /-- A to-one relation to another kind of entity. -/
  | relation (target : String)
deriving DecidableEq, Repr

/-- The properties of one kind of entity. The first entry of a name counts. -/
structure PropertyMap where
  entity : String
  properties : List (String × Property)

namespace PropertyMap

def property? (map : PropertyMap) (name : String) : Option Property :=
  map.properties.lookup name

def names (map : PropertyMap) : List String :=
  map.properties.map Prod.fst

end PropertyMap

/-- The property maps by name of entity. -/
abbrev Schema := String → Option PropertyMap

end SensorThings
