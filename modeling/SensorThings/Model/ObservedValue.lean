import SensorThings.Binary64.Text
import SensorThings.Filter.Scalar
import SensorThings.Model.Failure
import SensorThings.Model.Member
import SensorThings.Model.ObservationType
import SensorThings.Text.Case

/-!
Results of observations. The type of an observation decides which results it takes and how they are
kept; a quantity that is no number is kept as a gap.
-/
namespace SensorThings

inductive ObservedValue where
  | quantity (value : Option Float)
  | category (text : String)
  | count (value : Int)
  | text (text : String)
  | boolean (value : Bool)

namespace ObservedValue

def toScalar : ObservedValue → Scalar
  | quantity value => Scalar.ofOption .float value
  | category label => .string label
  | count value => .int value
  | text content => .string content
  | boolean value => .bool value

/-- The result as clients see it. -/
def toJson : ObservedValue → Json
  | quantity (some value) => .double value
  | quantity none => .string "NaN"
  | category label => .string label
  | count value => .int value
  | text content => .string content
  | boolean value => .bool value

def toText : ObservedValue → String
  | quantity (some value) => Binary64.plainText value
  | quantity none => "NaN"
  | category label => label
  | count value => toString value
  | text content => content
  | boolean value => if value then "true" else "false"

def typeName : ObservedValue → String
  | quantity _ => "Quantity"
  | category _ => "Category"
  | count _ => "Count"
  | text _ => "Text"
  | boolean _ => "Boolean"

def content : ObservedValue → Json
  | quantity none => .null
  | value => value.toJson

/-- The result as it is stored: its type beside its value. -/
def toDocument (value : ObservedValue) : Json :=
  .object [("type", .string value.typeName), ("value", value.content)]

def integer? : Json → Option Int
  | .int value => if Text.fitsSigned value then some value else none
  | _ => none

def double? : Json → Option Float
  | .int value => some (Binary64.ofInt value)
  | .float value => some value
  | _ => none

def ofDocument? (json : Json) : Option ObservedValue := do
  match ← json.required? "type" Json.string? with
  | "Quantity" => return quantity (← json.optional? "value" double?)
  | "Category" => return category (← json.required? "value" Json.string?)
  | "Count" => return count (← json.required? "value" integer?)
  | "Text" => return text (← json.required? "value" Json.string?)
  | "Boolean" => return boolean (← json.required? "value" Json.bool?)
  | _ => none

/-- A number, or a text that holds a finite one or marks a gap. -/
def quantity? : Json → Option ObservedValue
  | .int value => some (quantity (some (Binary64.ofInt value)))
  | .float value => some (quantity (some value))
  | .string content =>
    let word := Text.trimmed content
    if word = "NaN" || word = "Inf" || word = "-Inf" then some (quantity none)
    else match Binary64.ofText? word.toList with
      | some value => if Binary64.isFinite value then some (quantity (some value)) else none
      | none => none
  | _ => none

/-- A text as it is, and any other value but null as JSON text. -/
def text? : Json → Option String
  | .string content => some content
  | .null => none
  | other => some other.text

/-- An integer, or a text that holds one. -/
def count? : Json → Option ObservedValue
  | .string content => (Text.signed? (Text.trim content.toList)).map count
  | other => (integer? other).map count

/-- A truth value, or its name in letters of either case. -/
def boolean? : Json → Option ObservedValue
  | .bool value => some (boolean value)
  | .string content =>
    let word := Text.lowerAscii (Text.trimmed content)
    if word = "true" then some (boolean true)
    else if word = "false" then some (boolean false)
    else none
  | _ => none

end ObservedValue

namespace ObservationType

/-- The result that a value from a client stands for in observations of this type. -/
def result? (type : ObservationType) (raw : Json) : Option ObservedValue :=
  match type with
  | measurement => ObservedValue.quantity? raw
  | category => (ObservedValue.text? raw).map .category
  | count => ObservedValue.count? raw
  | truth => ObservedValue.boolean? raw
  | text => (ObservedValue.text? raw).map .text
  | general => (ObservedValue.text? raw).map .text

def resultName : ObservationType → String
  | category => "text"
  | text => "text"
  | general => "text"
  | type => type.name

def result (type : ObservationType) (raw : Json) : Except Failure ObservedValue :=
  match type.result? raw with
  | some value => .ok value
  | none => .error (.unfitResult raw type.resultName)

def ofUri (uri : String) : Except Failure ObservationType :=
  match ofUri? uri with
  | some type => .ok type
  | none => .error (.unknownObservationType uri)

end ObservationType

end SensorThings
