import SensorThings.Json.Basic

/-!
Identifiers of entities. A client may send one as a text or as an integer; the decimal text of the
integer is kept. Identifiers order as their texts do.
-/
namespace SensorThings

structure EntityId where
  text : String
deriving DecidableEq, Repr

namespace EntityId

instance : Inhabited EntityId := ⟨⟨""⟩⟩

instance : LT EntityId := ⟨fun left right => left.text < right.text⟩

instance (left right : EntityId) : Decidable (left < right) :=
  inferInstanceAs (Decidable (left.text < right.text))

theorem lt_irrefl (id : EntityId) : ¬ id < id :=
  String.lt_irrefl id.text

theorem lt_trans {first second third : EntityId} (left : first < second) (right : second < third) :
    first < third :=
  String.lt_trans left right

theorem eq_of_not_lt {left right : EntityId} (notLess : ¬ left < right)
    (notGreater : ¬ right < left) : left = right := by
  have texts : left.text = right.text :=
    String.le_antisymm (String.not_lt.1 notGreater) (String.not_lt.1 notLess)
  cases left
  cases right
  exact congrArg EntityId.mk texts

def ofJson? : Json → Option EntityId
  | .string text => some ⟨text⟩
  | .int value => some ⟨toString value⟩
  | _ => none

def toJson (id : EntityId) : Json :=
  .string id.text

end EntityId

end SensorThings
