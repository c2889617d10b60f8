import SensorThings.Filter.Function
import SensorThings.Filter.Scalar

/-!
Predicates over stored rows, and the builders that compose them. A column belongs to the row that a
path of to-one relations leads to from the row under test.
-/
namespace SensorThings

/-- One step along a relation to the kind of entity it points to. -/
structure Hop where
  relation : String
  target : String
deriving DecidableEq, Repr

/-- A column at the end of a path of relations, and a path into the document it holds. -/
structure Column where
  hops : List Hop
  name : String
  path : List String
deriving DecidableEq, Repr

namespace Column

/-- A column of the row under test. -/
def here (name : String) : Column :=
  ⟨[], name, []⟩

def isHere (column : Column) : Bool :=
  column.hops.isEmpty && column.path.isEmpty

end Column

inductive Comparison where
  | equal
  | notEqual
  | less
  | atMost
  | greater
  | atLeast
deriving DecidableEq, Repr

namespace Comparison

def flip : Comparison → Comparison
  | equal => equal
  | notEqual => notEqual
  | less => greater
  | atMost => atLeast
  | greater => less
  | atLeast => atMost

@[simp] theorem flip_flip (comparison : Comparison) : comparison.flip.flip = comparison := by
  cases comparison <;> rfl

def name : Comparison → String
  | equal => "eq"
  | notEqual => "ne"
  | less => "lt"
  | atMost => "le"
  | greater => "gt"
  | atLeast => "ge"

def all : List Comparison :=
  [equal, notEqual, less, atMost, greater, atLeast]

def allows : Comparison → Ordering → Bool
  | equal, order => order == .eq
  | notEqual, order => order != .eq
  | less, order => order == .lt
  | atMost, order => order != .gt
  | greater, order => order == .gt
  | atLeast, order => order != .lt

@[simp] theorem flip_allows (comparison : Comparison) (order : Ordering) :
    comparison.flip.allows order.swap = comparison.allows order := by
  cases comparison <;> cases order <;> rfl

end Comparison

inductive Arithmetic where
  | add
  | subtract
  | multiply
  | divide
  | remainder
deriving DecidableEq, Repr

namespace Arithmetic

def name : Arithmetic → String
  | add => "add"
  | subtract => "sub"
  | multiply => "mul"
  | divide => "div"
  | remainder => "mod"

def all : List Arithmetic :=
  [add, subtract, multiply, divide, remainder]

end Arithmetic

/-- An expression that reads columns and gives a value. -/
inductive Term where
  | literal (value : Scalar)
  | column (column : Column)
  | arithmetic (operator : Arithmetic) (left right : Term)
  | negate (operand : Term)
  | call (function : Function) (arguments : List Term)

namespace Term

instance : Inhabited Term := ⟨.literal .null⟩

def here (name : String) : Term :=
  .column (.here name)

def text (text : String) : Term :=
  .literal (.string text)

end Term

inductive Predicate where
  | constant (value : Bool)
  | compare (comparison : Comparison) (left right : Term)
  | all (parts : List Predicate)
  | any (parts : List Predicate)
  | not (part : Predicate)
  | holds (term : Term)

namespace Predicate

instance : Inhabited Predicate := ⟨.constant true⟩

def equal (left right : Term) : Predicate :=
  .compare .equal left right

def isConstant (value : Bool) : Predicate → Bool
  | constant other => value == other
  | _ => false

/-- The parts of a conjunction; the true predicate has none. -/
def conjuncts : Predicate → List Predicate
  | constant true => []
  | all parts => parts
  | part => [part]

/-- The parts of a disjunction; the false predicate has none. -/
def disjuncts : Predicate → List Predicate
  | constant false => []
  | any parts => parts
  | part => [part]

/-- Conjunction without nested conjunctions and constants. -/
def allOf (parts : List Predicate) : Predicate :=
  if parts.any (isConstant false) then constant false
  else match parts.flatMap conjuncts with
    | [] => constant true
    | [part] => part
    | several => all several

/-- Disjunction without nested disjunctions and constants. -/
def anyOf (parts : List Predicate) : Predicate :=
  if parts.any (isConstant true) then constant true
  else match parts.flatMap disjuncts with
    | [] => constant false
    | [part] => part
    | several => any several

def both (left right : Predicate) : Predicate :=
  allOf [left, right]

def either (left right : Predicate) : Predicate :=
  anyOf [left, right]

/-- Negation; two in a row vanish. -/
def negation : Predicate → Predicate
  | constant value => constant !value
  | not part => part
  | part => not part

end Predicate

end SensorThings
