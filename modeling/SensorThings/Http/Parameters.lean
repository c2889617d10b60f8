import SensorThings.Filter.Query
import SensorThings.Model.Failure
import SensorThings.Text.Blank
import SensorThings.Text.Case
import SensorThings.Text.Integer
import SensorThings.Text.Split

/-!
Query options in the parameters of a request. Parameters whose name starts with a dollar sign are
options, all others are left alone.
-/
namespace SensorThings

/-- The items of a list in a text: between commas, trimmed, without empty ones. -/
def Text.commaItems (text : String) : List String :=
  let items := (splitAt ',' text.toList).map fun item => String.ofList (trim item)
  items.filter (· != "")

/-- A sort key: a path and perhaps a direction. -/
def QueryOptions.sortTerm (term : String) : Except QueryFault (Expression × Bool) :=
  match (Text.words term.toList).map String.ofList with
  | [] => .ok (.ofPath "", false)
  | [path] => .ok (.ofPath path, false)
  | path :: direction :: rest =>
    let direction := Text.lowerAscii direction
    if direction ≠ "asc" ∧ direction ≠ "desc" then
      .error (.invalid term (.sortDirection direction))
    else if rest ≠ [] then .error (.invalid term .sortToken)
    else .ok (.ofPath path, direction == "desc")

namespace QueryOptions

def size (option value : String) : Except QueryFault Nat :=
  match Text.unsigned? (Text.trim value.toList) with
  | some size => .ok size
  | none => .error (.invalid value (.notCount option))

def truthValue (value : String) : Except QueryFault Bool :=
  match Text.trimmed value with
  | "true" => .ok true
  | "false" => .ok false
  | other => .error (.invalid other .notTruthValue)

def withParameter (options : QueryOptions) (name value : String) :
    Except Failure QueryOptions :=
  match name with
  | "$top" => do
    let top ← (size name value).mapError .query
    return { options with top := some top }
  | "$skip" => do
    let skip ← (size name value).mapError .query
    return { options with skip := some skip }
  | "$orderby" => do
    let order ← ((Text.commaItems value).mapM sortTerm).mapError .query
    return { options with order }
  | "$count" => do
    let count ← (truthValue value).mapError .query
    return { options with count }
  | "$select" => .ok { options with select := some (Text.commaItems value) }
  | "$filter" => .error .filterText
  | "$expand" => .error .expansion
  | _ =>
    if name.toList.head? = some '$' then .error (.query (.invalid name .unknownOption))
    else .ok options

/-- The options of a request, read from its parameters in order. -/
def ofParameters (parameters : List (String × String)) : Except Failure QueryOptions :=
  parameters.foldlM (fun options (name, value) => options.withParameter name value) {}

end QueryOptions

end SensorThings
