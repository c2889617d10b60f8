import SensorThings.Filter.Query
import SensorThings.Store.Tables

/-!
Running query plans: select, sort, and cut out one page.
-/
namespace SensorThings

/-- One page of a collection. -/
structure Page (kind : EntityKind) where
  items : List kind.Entity
  /-- How many entities match in all, if the plan asks for it. -/
  total : Option Nat
  /-- More matches come after the page. -/
  hasMore : Bool

/-- Order of two rows by their key values, the first difference deciding. -/
def SortKey.compareValues : List SortKey → List Scalar → List Scalar → Ordering
  | key :: keys, left :: lefts, right :: rights =>
    let order := if key.descending then right.sortCompare left else left.sortCompare right
    order.then (compareValues keys lefts rights)
  | _, _, _ => .eq

namespace QueryPlan

def selects (plan : QueryPlan) (tables : Tables) (kind : EntityKind) (entity : kind.Entity) :
    Bool :=
  match plan.predicate with
  | some predicate => tables.selects kind predicate entity
  | none => true

def keyValues (plan : QueryPlan) (source : RowSource) : List Scalar :=
  plan.sort.map fun key => key.column.value source

/-- All matches in order. Sorting is stable, so ties stay in order of identifier. -/
def matched (plan : QueryPlan) (tables : Tables) (kind : EntityKind) : List kind.Entity :=
  let rows := ((tables.entities kind).filter (plan.selects tables kind)).map fun entity =>
    (plan.keyValues (tables.source kind entity), entity)
  let sorted := rows.mergeSort fun left right =>
    SortKey.compareValues plan.sort left.1 right.1 != .gt
  sorted.map Prod.snd

def run (plan : QueryPlan) (tables : Tables) (kind : EntityKind) : Page kind :=
  let found := plan.matched tables kind
  let items := (found.drop plan.offset).take plan.limit
  { items
    total := if plan.count then some found.length else none
    hasMore := plan.offset + items.length < found.length }

end QueryPlan

end SensorThings
