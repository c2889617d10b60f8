import SensorThings.Model.Columns
import SensorThings.Model.Schema
import SensorThings.Proofs.Filter.Signature

/-!
What stands behind the properties that clients may name: every property of a kind is a column that
its entities have, with values of the declared type, or a relation that leads on from all of them.
-/
namespace SensorThings.EntityKind

/-- Some entity of the kind has a value in the column; a column that the kind does not have is null
in all of them. -/
def HasColumn (kind : EntityKind) (name : String) : Prop :=
  ∃ entity : kind.Entity, (kind.column entity name).isNull = false

def HasRelation (kind : EntityKind) (relation : String) : Prop :=
  ∀ entity : kind.Entity, (kind.related? entity relation).isSome = true

/-- The kind of the entity at the end of a path, over relations that every kind on the way has. -/
inductive Leads : EntityKind → List Hop → EntityKind → Prop where
  | here (kind : EntityKind) : Leads kind [] kind
  | along {kind next final : EntityKind} {relation target : String} {hops : List Hop}
      (has : kind.HasRelation relation) (named : ofName? target = some next)
      (leads : Leads next hops final) : Leads kind (⟨relation, target⟩ :: hops) final

theorem Leads.further {kind middle final : EntityKind} {hops : List Hop} {relation target : String}
    (leads : kind.Leads hops middle) (has : middle.HasRelation relation)
    (named : ofName? target = some final) : kind.Leads (hops ++ [⟨relation, target⟩]) final := by
  induction leads with
  | here => exact .along has named (.here final)
  | along first step _ ih => exact .along first step (ih has)

/-- A column that the kind has, with values of one type. -/
structure Holds (kind : EntityKind) (name : String) (type : ValueType) : Prop where
  has : kind.HasColumn name
  typed : ∀ entity : kind.Entity, (kind.column entity name).HasType type

def Backs (kind : EntityKind) (name : String) : Property → Prop
  | .column column type => kind.Holds column type
  | .span start stop => kind.Holds start .instant ∧ kind.Holds stop .instant
  | .json column => kind.Holds column .json
  | .relation _ => kind.HasRelation name

def complete : (kind : EntityKind) → kind.Entity
  | thing => Thing.mk default "" "" (some .null) []
  | location => Location.mk default "" "" "" (.multiPoint []) (some .null) .empty
  | historicalLocation => HistoricalLocation.mk default .first default .empty
  | sensor => Sensor.mk default "" "" "" "" (some .null)
  | observedProperty => ObservedProperty.mk default "" "" "" (some .null)
  | datastream => Datastream.mk default "" "" .general default default default default default
      (some (.point .first)) (some (.point .first)) (some .null)
  | featureOfInterest => FeatureOfInterest.mk default "" "" "" (.multiPoint []) (some .null) false
  | observation => Observation.mk default default default default (.instant .first) .first
      (some (.point .first)) (some .null) (.boolean true)
  | dataset => Dataset.mk default default default default default default none none
  | unitOfMeasurement => UnitOfMeasurement.mk default (some "") (some "") (some "")
  | format => Format.mk default ""

theorem holds_of_complete {kind : EntityKind} {name : String} {type : ValueType}
    (present : (kind.column kind.complete name).isNull = false)
    (typed : ∀ entity : kind.Entity, (kind.column entity name).HasType type) :
    kind.Holds name type :=
  ⟨⟨kind.complete, present⟩, typed⟩

theorem backs_of_mem {kind : EntityKind} {properties : List (String × Property)}
    (listed : kind.properties? = some properties) :
    ∀ entry ∈ properties, kind.Backs entry.1 entry.2 := by
  cases kind <;> cases listed
  all_goals repeat' refine List.forall_mem_cons.2 ⟨?_, ?_⟩
  -- One property at a time: a relation, a column that always has a value, one that may have none,
  -- and the same for the two columns of a time.
  all_goals first
    | exact List.forall_mem_nil _
    | exact fun _ => rfl
    | exact holds_of_complete rfl fun _ => .string _
    | exact holds_of_complete rfl fun _ => .instant _
    | exact holds_of_complete rfl fun _ => .geometry _
    | exact holds_of_complete rfl fun _ => .any _
    | exact holds_of_complete rfl fun _ => Scalar.hasType_ofOption .json _
    | exact ⟨holds_of_complete rfl fun _ => .instant _, holds_of_complete rfl fun _ => .instant _⟩
    | exact ⟨holds_of_complete rfl fun _ => Scalar.hasType_ofOption (fun _ => .instant _) _,
        holds_of_complete rfl fun _ => Scalar.hasType_ofOption (fun _ => .instant _) _⟩

theorem backs_of_property? {kind : EntityKind} {map : PropertyMap} {name : String}
    {property : Property} (known : kind.propertyMap? = some map)
    (found : map.property? name = some property) : kind.Backs name property := by
  obtain ⟨properties, listed, rfl⟩ := Option.map_eq_some_iff.1 known
  obtain ⟨before, after, rfl, -⟩ := List.lookup_eq_some_iff.1 found
  exact backs_of_mem listed (name, property) (by simp)

end SensorThings.EntityKind
