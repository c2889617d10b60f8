import SensorThings.Proofs.Filter.Meaning
import SensorThings.Proofs.Filter.Order
import SensorThings.Store.Query

/-!
The order that sort expressions ask for, and the keys they are compiled to. Expressions order rows
by what they read from them, the first that tells two rows apart deciding. The keys order rows just
so, and by the identifier where all expressions tie.
-/
namespace SensorThings

/-- Order of two readings; a time goes by its start, and by its end where the starts tie. -/
def Reading.sortCompare (left right : Reading) : Ordering :=
  (left.first.sortCompare right.first).then (left.last.sortCompare right.last)

namespace Reading

@[simp] theorem sortCompare_single (left right : Scalar) :
    (single left).sortCompare (single right) = left.sortCompare right := by
  rw [sortCompare]
  exact Ordering.then_self

theorem sortCompare_swap (left right : Reading) :
    (left.sortCompare right).swap = right.sortCompare left := by
  rw [sortCompare, Ordering.swap_then, ← Std.OrientedCmp.eq_swap, ← Std.OrientedCmp.eq_swap]
  rfl

end Reading

namespace QueryContext

variable (context : QueryContext)

def compareRows : List (Expression × Bool) → RowSource → RowSource → Ordering
  | [], _, _ => .eq
  | (expression, descending) :: rest, left, right =>
    let order := (expression.reading context left).sortCompare (expression.reading context right)
    (if descending then order.swap else order).then (compareRows rest left right)

theorem compareRows_cons (key : Expression × Bool) (rest : List (Expression × Bool))
    (left right : RowSource) : context.compareRows (key :: rest) left right =
      (context.compareRows [key] left right).then (context.compareRows rest left right) := by
  rw [compareRows, compareRows, compareRows, Ordering.then_eq]

theorem compareRows_swap (order : List (Expression × Bool)) (left right : RowSource) :
    (context.compareRows order left right).swap = context.compareRows order right left := by
  induction order with
  | nil => rfl
  | cons key rest ih =>
    rw [compareRows, compareRows, Ordering.swap_then, ih]
    split <;> rw [Reading.sortCompare_swap]

end QueryContext

theorem Schema.Resolution.columns {schema : Schema} {map : PropertyMap} {hops : List Hop}
    {path : List String} {operand : Operand}
    (resolution : schema.Resolution map hops path operand) :
    (∃ column type, operand = .value (.column column) type) ∨
      ∃ start stop, operand = .span (.column start) (.column stop) := by
  induction resolution with
  | column | document => exact .inl ⟨_, _, rfl⟩
  | span => exact .inr ⟨_, _, rfl⟩
  | relation _ _ _ ih => exact ih

namespace SortKey

variable {left right : RowSource}

def compareRows (key : SortKey) (left right : RowSource) : Ordering :=
  if key.descending then (key.column.value right).sortCompare (key.column.value left)
  else (key.column.value left).sortCompare (key.column.value right)

/-- Order of two rows by several keys, the first that differs deciding. -/
def compareBy (keys : List SortKey) (left right : RowSource) : Ordering :=
  compareValues keys (keys.map fun key => key.column.value left)
    (keys.map fun key => key.column.value right)

@[simp] theorem compareBy_cons (key : SortKey) (keys : List SortKey) :
    compareBy (key :: keys) = compareLex key.compareRows (compareBy keys) := rfl

@[simp] theorem compareBy_append (keys more : List SortKey) (left right : RowSource) :
    compareBy (keys ++ more) left right =
      (compareBy keys left right).then (compareBy more left right) := by
  induction keys with
  | nil => rfl
  | cons key keys ih =>
    rw [List.cons_append, compareBy_cons, compareLex, ih, ← Ordering.then_assoc]
    rfl

instance (key : SortKey) : Std.TransCmp key.compareRows where
  eq_swap := by
    intro left right
    unfold compareRows
    split <;> exact Std.OrientedCmp.eq_swap
  isLE_trans := by
    intro first second third
    unfold compareRows
    split
    · exact fun left right => Std.TransCmp.isLE_trans right left
    · exact Std.TransCmp.isLE_trans

instance (keys : List SortKey) : Std.TransCmp (compareBy keys) := by
  induction keys with
  | nil => exact { eq_swap := rfl, isLE_trans := fun left _ => left }
  | cons key keys ih =>
    rw [compareBy_cons]
    infer_instance

theorem compareRows_of_compareBy {keys : List SortKey} {key : SortKey}
    (tied : compareBy keys left right = .eq) (member : key ∈ keys) :
    key.compareRows left right = .eq := by
  induction keys with
  | nil => cases member
  | cons first rest ih =>
    rw [compareBy_cons, compareLex_eq_eq] at tied
    rcases List.mem_cons.1 member with rfl | later
    · exact tied.1
    · exact ih tied.2 later

theorem compareBy_columns {context : QueryContext} {expression : Expression}
    {columns : List Column} (compiled : expression.sortColumns context = .ok columns)
    (descending : Bool) (left right : RowSource) :
    compareBy (columns.map fun column => ⟨column, descending⟩) left right =
      context.compareRows [(expression, descending)] left right := by
  unfold Expression.sortColumns at compiled
  split at compiled
  next path =>
    rw [bind_eq_ok_iff] at compiled
    obtain ⟨operand, resolved, compiled⟩ := compiled
    rw [QueryContext.compareRows, ← Expression.reading_of_operand left resolved,
      ← Expression.reading_of_operand right resolved]
    rcases (Schema.resolution_of_resolve (Expression.located_eq_ok_iff.1 resolved)).columns with
      ⟨column, type, rfl⟩ | ⟨start, stop, rfl⟩
    · cases compiled
      rw [Reading.sortCompare_swap, Operand.reading, Operand.reading, Reading.sortCompare_single,
        Reading.sortCompare_single]
      cases descending <;> rfl
    · cases compiled
      rw [Reading.sortCompare_swap]
      cases descending <;> exact (Ordering.then_assoc ..).symm
  next => cases Expression.located_eq_ok_iff.1 compiled

theorem compareBy_expressions {context : QueryContext} {order : List (Expression × Bool)}
    {groups : List (List SortKey)}
    (compiled : order.mapM (fun (expression, descending) => do
      let columns ← expression.sortColumns context
      return columns.map fun column => SortKey.mk column descending) = .ok groups)
    (left right : RowSource) :
    compareBy groups.flatten left right = context.compareRows order left right := by
  rw [mapM_eq_ok_iff] at compiled
  induction compiled with
  | nil => rfl
  | @cons key group _ _ groupCompiled _ ih =>
    obtain ⟨columns, columnsCompiled, done⟩ := bind_eq_ok_iff.1 groupCompiled
    cases done
    rw [List.flatten_cons, compareBy_append, ih, compareBy_columns columnsCompiled,
      ← QueryContext.compareRows_cons]

end SortKey

@[simp] theorem EntityKind.column_id (kind : EntityKind) (entity : kind.Entity) :
    kind.column entity "id" = .string (kind.idOf entity).text := by
  cases kind <;> rfl

@[simp] theorem Tables.value_id (tables : Tables) (kind : EntityKind) (entity : kind.Entity) :
    (Column.here "id").value (tables.source kind entity) = .string (kind.idOf entity).text :=
  kind.column_id entity

theorem SortKey.idOf_eq_of_compareRows {tables : Tables} {kind : EntityKind}
    {left right : kind.Entity} {key : SortKey} (byId : key.column = .here "id")
    (tied : key.compareRows (tables.source kind left) (tables.source kind right) = .eq) :
    kind.idOf left = kind.idOf right := by
  have texts (left right : kind.Entity)
      (tied : ((Column.here "id").value (tables.source kind left)).sortCompare
        ((Column.here "id").value (tables.source kind right)) = .eq) :
      (kind.idOf left).text = (kind.idOf right).text := by
    rw [Tables.value_id, Tables.value_id] at tied
    exact Std.LawfulEqOrd.eq_of_compare tied
  unfold compareRows at tied
  rw [byId] at tied
  split at tied
  · exact (congrArg EntityId.mk (texts _ _ tied)).symm
  · exact congrArg EntityId.mk (texts _ _ tied)

theorem QueryOptions.compareBy_sortKeys {context : QueryContext}
    {order : List (Expression × Bool)} {keys : List SortKey}
    (compiled : sortKeys context order = .ok keys) (tables : Tables) {kind : EntityKind}
    (left right : kind.Entity) :
    SortKey.compareBy keys (tables.source kind left) (tables.source kind right) =
      (context.compareRows order (tables.source kind left) (tables.source kind right)).then
        (compare (kind.idOf left).text (kind.idOf right).text) := by
  rw [sortKeys, bind_eq_ok_iff] at compiled
  obtain ⟨groups, groupsCompiled, compiled⟩ := compiled
  rw [← SortKey.compareBy_expressions groupsCompiled]
  have byIdentifier : SortKey.compareBy [QueryPlan.byIdentifier] (tables.source kind left)
      (tables.source kind right) = compare (kind.idOf left).text (kind.idOf right).text := by
    rw [SortKey.compareBy_cons, compareLex, SortKey.compareRows, if_neg (by decide)]
    rw [QueryPlan.byIdentifier, tables.value_id, tables.value_id]
    exact Ordering.then_eq
  dsimp only at compiled
  split at compiled
  next last ends =>
    split at compiled
    next byId =>
      cases compiled
      -- The identifier is the last key already: where all keys tie, it ties.
      cases tied : SortKey.compareBy groups.flatten (tables.source kind left)
        (tables.source kind right)
      case eq =>
        rw [SortKey.idOf_eq_of_compareRows byId
          (SortKey.compareRows_of_compareBy tied (List.mem_of_getLast? ends))]
        exact Std.ReflOrd.compare_self.symm
      all_goals rfl
    next =>
      cases compiled
      rw [SortKey.compareBy_append, byIdentifier]
  next ends =>
    cases compiled
    rw [List.getLast?_eq_none_iff.1 ends, byIdentifier]
    rfl

end SensorThings
