import SensorThings.Filter.Condition

/-!
Query options and the plans they become: which rows, in which order, from which on and how many.
Sorting always ends at the identifier, so the order never depends on the page.
-/
namespace SensorThings

/-- A key that rows are sorted by. -/
structure SortKey where
  column : Column
  descending : Bool
deriving DecidableEq, Repr

structure QueryOptions where
  filter : Option Expression := none
  order : List (Expression × Bool) := []
  skip : Option Nat := none
  top : Option Nat := none
  select : Option (List String) := none
  expand : List String := []
  count : Bool := false

/-- How many rows a page has by default and at most. -/
structure Paging where
  defaultTop : Nat := 100
  maxTop : Nat := 10000

structure QueryPlan where
  predicate : Option Predicate
  sort : List SortKey
  offset : Nat
  limit : Nat
  select : Option (List String)
  expand : List String
  count : Bool

namespace QueryPlan

def byIdentifier : SortKey :=
  ⟨.here "id", false⟩

def ofPredicate (predicate : Predicate) : QueryPlan where
  predicate := some predicate
  sort := [byIdentifier]
  offset := 0
  limit := Text.maxUnsigned
  select := none
  expand := []
  count := false

end QueryPlan

namespace QueryOptions

/-- The keys of all sort expressions, and the identifier unless it comes last already. -/
def sortKeys (context : QueryContext) (order : List (Expression × Bool)) :
    Except QueryFault (List SortKey) := do
  let keys ← order.mapM fun (expression, descending) => do
    let columns ← expression.sortColumns context
    return columns.map fun column => SortKey.mk column descending
  let keys := keys.flatten
  match keys.getLast? with
  | some key =>
    if key.column = .here "id" then return keys else return keys ++ [QueryPlan.byIdentifier]
  | none => return [QueryPlan.byIdentifier]

/-- The identifier may be selected by its name in documents. -/
def selection (map : PropertyMap) (names : List String) : Except QueryFault (List String) :=
  names.mapM fun name =>
    let key := if name = "@iot.id" then "id" else name
    match map.property? key with
    | some _ => .ok key
    | none => .error (.invalid name (.unknownSelection map.entity))

def combined : Option Predicate → Option Predicate → Option Predicate
  | some scope, some filter => some (.both scope filter)
  | some scope, none => some scope
  | none, filter => filter

/-- The plan for a collection, restricted to a scope such as the members of a relation. -/
def plan (options : QueryOptions) (context : QueryContext) (paging : Paging)
    (scope : Option Predicate) : Except QueryFault QueryPlan := do
  let filter ← options.filter.mapM fun filter => filter.predicate context
  let sort ← sortKeys context options.order
  let select ← options.select.mapM (selection context.root)
  return {
    predicate := combined scope filter
    sort := sort
    offset := options.skip.getD 0
    limit := min (options.top.getD paging.defaultTop) paging.maxTop
    select := select
    expand := options.expand
    count := options.count }

end QueryOptions

end SensorThings
