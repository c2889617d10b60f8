import SensorThings.Binary64.Text
import SensorThings.Filter.Fault
import SensorThings.Filter.Predicate
import SensorThings.Text.Search
import SensorThings.Text.Split

/-!
Filter expressions as a client writes them, and their text, which error messages quote.
-/
namespace SensorThings

inductive Quantifier where
  | any
  | all
deriving DecidableEq, Repr

def Quantifier.name : Quantifier → String
  | any => "any"
  | all => "all"

/-- A path has a segment for each part between slashes. -/
inductive Expression where
  | literal (value : Scalar)
  | member (path : List String)
  | compare (comparison : Comparison) (left right : Expression)
  | both (left right : Expression)
  | either (left right : Expression)
  | arithmetic (operator : Arithmetic) (left right : Expression)
  | not (operand : Expression)
  | negate (operand : Expression)
  | call (name : String) (arguments : List Expression)
  | lambda (quantifier : Quantifier) (path : List String) (binder : String) (body : Expression)

/-- Texts are quoted, and a quote inside one is doubled; a geometry shows its type only. -/
def Scalar.literalText : Scalar → String
  | null => "null"
  | bool value => if value then "true" else "false"
  | int value => toString value
  | float value => Binary64.plainText value
  | string text => "'" ++ String.ofList (Text.replaceChar '\'' ['\'', '\''] text.toList) ++ "'"
  | instant time => time.queryText
  | date value => value.text
  | timeOfDay time => time.text
  | geometry shape => "geography'" ++ shape.typeName ++ "'"
  | json document => document.text

def pathText (path : List String) : String :=
  "/".intercalate path

namespace Expression

instance : Inhabited Expression := ⟨.literal .null⟩

def ofPath (path : String) : Expression :=
  .member ((Text.splitAt '/' path.toList).map String.ofList)

def ofGeography (wellKnownText : String) : Except QueryFault Expression :=
  match Geometry.ofWellKnownText wellKnownText with
  | .ok geometry => .ok (.literal (.geometry geometry))
  | .error fault =>
    .error (.invalid ("geography'" ++ wellKnownText ++ "'") (.geometryText fault))

private def operationText (left operator right : String) : String :=
  "(" ++ left ++ " " ++ operator ++ " " ++ right ++ ")"

mutual

def text : Expression → String
  | literal value => value.literalText
  | member path => pathText path
  | compare comparison left right => operationText (text left) comparison.name (text right)
  | both left right => operationText (text left) "and" (text right)
  | either left right => operationText (text left) "or" (text right)
  | arithmetic operator left right => operationText (text left) operator.name (text right)
  | not operand => "not " ++ text operand
  | negate operand => "-" ++ text operand
  | call name arguments => name ++ "(" ++ argumentsText arguments ++ ")"
  | lambda quantifier path binder body =>
    pathText path ++ "/" ++ quantifier.name ++ "(" ++ binder ++ ": " ++ text body ++ ")"

def argumentsText : List Expression → String
  | [] => ""
  | [argument] => text argument
  | argument :: next :: rest => text argument ++ "," ++ argumentsText (next :: rest)

end

end Expression

end SensorThings
