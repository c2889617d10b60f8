import SensorThings.Filter.ValueType
import SensorThings.Text.Case

/-!
The functions of filter expressions: their names, how many arguments they take, the types of the
arguments and of the result.
-/
namespace SensorThings

inductive Function where
  | length
  | toLower
  | toUpper
  | trim
  | year
  | month
  | day
  | hour
  | minute
  | second
  | fractionalSeconds
  | date
  | time
  | round
  | floor
  | ceiling
  | substringOf
  | indexOf
  | substring
  | concat
  | startsWith
  | endsWith
  | equals
  | disjoint
  | touches
  | within
  | overlaps
  | crosses
  | intersects
  | contains
  | distance
  | lineLength
  | areIntersecting
  | relate
deriving DecidableEq, Repr

namespace Function

def all : List Function :=
  [length, toLower, toUpper, trim, year, month, day, hour, minute, second, fractionalSeconds, date,
    time, round, floor, ceiling, substringOf, indexOf, substring, concat, startsWith, endsWith,
    equals, disjoint, touches, within, overlaps, crosses, intersects, contains, distance,
    lineLength, areIntersecting, relate]

def name : Function → String
  | length => "length"
  | toLower => "tolower"
  | toUpper => "toupper"
  | trim => "trim"
  | year => "year"
  | month => "month"
  | day => "day"
  | hour => "hour"
  | minute => "minute"
  | second => "second"
  | fractionalSeconds => "fractionalseconds"
  | date => "date"
  | time => "time"
  | round => "round"
  | floor => "floor"
  | ceiling => "ceiling"
  | substringOf => "substringof"
  | indexOf => "indexof"
  | substring => "substring"
  | concat => "concat"
  | startsWith => "startswith"
  | endsWith => "endswith"
  | equals => "st_equals"
  | disjoint => "st_disjoint"
  | touches => "st_touches"
  | within => "st_within"
  | overlaps => "st_overlaps"
  | crosses => "st_crosses"
  | intersects => "st_intersects"
  | contains => "st_contains"
  | distance => "geo.distance"
  | lineLength => "geo.length"
  | areIntersecting => "geo.intersects"
  | relate => "st_relate"

/-- The accepted argument types by position. A trailing argument that may be left out is listed as
well; `requiredArguments` counts those that may not. -/
def parameters : Function → List (List ValueType)
  | length => [[.string]]
  | toLower => [[.string]]
  | toUpper => [[.string]]
  | trim => [[.string]]
  | year => [[.instant, .date]]
  | month => [[.instant, .date]]
  | day => [[.instant, .date]]
  | hour => [[.instant, .timeOfDay]]
  | minute => [[.instant, .timeOfDay]]
  | second => [[.instant, .timeOfDay]]
  | fractionalSeconds => [[.instant, .timeOfDay]]
  | date => [[.instant]]
  | time => [[.instant]]
  | round => [[.number]]
  | floor => [[.number]]
  | ceiling => [[.number]]
  | substring => [[.string], [.number], [.number]]
  | substringOf => [[.string], [.string]]
  | indexOf => [[.string], [.string]]
  | concat => [[.string], [.string]]
  | startsWith => [[.string], [.string]]
  | endsWith => [[.string], [.string]]
  | lineLength => [[.geometry]]
  | relate => [[.geometry], [.geometry], [.string]]
  | _ => [[.geometry], [.geometry]]

def requiredArguments : Function → Nat
  | substring => 2
  | function => function.parameters.length

def accepts (function : Function) (index : Nat) (type : ValueType) : Bool :=
  type == .any || (function.parameters.getD index []).contains type

def resultType : Function → ValueType
  | toLower => .string
  | toUpper => .string
  | trim => .string
  | substring => .string
  | concat => .string
  | date => .date
  | time => .timeOfDay
  | length => .number
  | year => .number
  | month => .number
  | day => .number
  | hour => .number
  | minute => .number
  | second => .number
  | fractionalSeconds => .number
  | round => .number
  | floor => .number
  | ceiling => .number
  | indexOf => .number
  | distance => .number
  | lineLength => .number
  | _ => .boolean

/-- The function that a call means. Letters A to Z may be capital. -/
def ofCall? (name : String) (arity : Nat) : Option Function :=
  let name := Text.lowerAscii name
  all.find? fun function =>
    function.name == name && function.requiredArguments ≤ arity &&
      arity ≤ function.parameters.length

end Function

end SensorThings
