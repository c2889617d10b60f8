import Mathlib.Data.List.Basic
import SensorThings.Filter.Evaluation
import SensorThings.Filter.Operand

/-!
What the static types of functions promise. Whatever a function is applied to, its result is null or
of its result type; and for arguments in the right number, none of them null and each of an accepted
type, there is a result.
-/
namespace SensorThings

namespace Scalar

/-- A value of a static type. Null is a value of every type, and every value is one of type
`any`. -/
inductive HasType : Scalar → ValueType → Prop where
  | null (type : ValueType) : HasType .null type
  | any (value : Scalar) : HasType value .any
  | boolean (value : Bool) : HasType (.bool value) .boolean
  | integer (value : Int) : HasType (.int value) .number
  | double (value : Float) : HasType (.float value) .number
  | string (text : String) : HasType (.string text) .string
  | instant (time : Instant) : HasType (.instant time) .instant
  | date (date : Date) : HasType (.date date) .date
  | timeOfDay (time : TimeOfDay) : HasType (.timeOfDay time) .timeOfDay
  | geometry (geometry : Geometry) : HasType (.geometry geometry) .geometry
  | json (document : Json) : HasType (.json document) .json

variable {value : Scalar}

theorem hasType_type (value : Scalar) : value.HasType value.type := by
  cases value <;> constructor

theorem hasType_ofOption {α : Type} {make : α → Scalar} {type : ValueType}
    (made : ∀ part, (make part).HasType type) (part : Option α) :
    (ofOption make part).HasType type := by
  cases part with
  | none => exact .null type
  | some part => exact made part

theorem exists_string (typed : value.type ∈ [ValueType.string]) : ∃ text, value = string text := by
  cases value <;> simp [type] at typed ⊢

theorem exists_instant (typed : value.type ∈ [ValueType.instant]) :
    ∃ time, value = instant time := by
  cases value <;> simp [type] at typed ⊢

theorem exists_geometry (typed : value.type ∈ [ValueType.geometry]) :
    ∃ shape, value = geometry shape := by
  cases value <;> simp [type] at typed ⊢

end Scalar

namespace Arithmetic

theorem hasType_checked (value : Int) : (checked value).HasType .number := by
  unfold checked
  split <;> constructor

theorem hasType_onIntegers (operator : Arithmetic) (left right : Int) :
    (operator.onIntegers left right).HasType .number := by
  unfold onIntegers
  split
  case h_1 | h_2 | h_3 => exact hasType_checked _
  all_goals
    split
    · constructor
    · exact hasType_checked _

theorem hasType_onDoubles (operator : Arithmetic) (left right : Float) :
    (operator.onDoubles left right).HasType .number := by
  unfold onDoubles
  repeat' split
  all_goals constructor

theorem hasType_apply (operator : Arithmetic) (left right : Scalar) :
    (operator.apply left right).HasType .number := by
  unfold apply
  split
  next => exact hasType_onIntegers ..
  next =>
    split
    next => exact hasType_onDoubles ..
    next => constructor

theorem hasType_negate (value : Scalar) : (negate value).HasType .number := by
  unfold negate
  split
  next => exact hasType_checked _
  next => constructor
  next => constructor

end Arithmetic

namespace Function

variable {function : Function} {arguments : List Scalar} {value : Scalar}

/-- No required argument is missing, and there is none to which no parameter belongs. -/
def Takes (function : Function) (arity : Nat) : Prop :=
  function.requiredArguments ≤ arity ∧ arity ≤ function.parameters.length

/-- No argument is null, and each is of a type that its position accepts. -/
def Fits (function : Function) (arguments : List Scalar) : Prop :=
  ∀ index value, arguments[index]? = some value →
    value.isNull = false ∧ function.accepts index value.type = true

/-- Each argument is of a type that its position accepts, as far as types tell. -/
def Admits (function : Function) (arguments : List Scalar) : Prop :=
  ∀ index value, arguments[index]? = some value →
    ∃ type, function.accepts index type = true ∧ value.HasType type

theorem takes_of_ofCall? {name : String} {arity : Nat}
    (found : ofCall? name arity = some function) : function.Takes arity := by
  have fits := List.find?_some found
  simp only [Bool.and_eq_true, decide_eq_true_eq] at fits
  exact ⟨fits.1.2, fits.2⟩

-- The type of a result.

theorem hasType_of_related [PlaneGeometry] {relation : SpatialRelation}
    (computed : related relation arguments = some value) : value.HasType .boolean := by
  unfold related at computed
  split at computed
  next =>
    cases computed
    constructor
  next => contradiction

theorem hasType_of_rounded {round : Float → Float} {argument : Scalar}
    (computed : rounded round argument = some value) : value.HasType .number := by
  unfold rounded at computed
  split at computed <;> cases computed <;> constructor

theorem hasType_of_map {α : Type} {make : α → Scalar} {part : Option α} {type : ValueType}
    (computed : part.map make = some value) (made : ∀ part, (make part).HasType type) :
    value.HasType type := by
  obtain ⟨part, -, rfl⟩ := Option.map_eq_some_iff.1 computed
  exact made part

theorem hasType_of_bind {α : Type} {part : Option α} {next : α → Option Scalar} {type : ValueType}
    (computed : part >>= next = some value)
    (made : ∀ part, next part = some value → value.HasType type) : value.HasType type := by
  obtain ⟨part, -, computed⟩ := Option.bind_eq_some_iff.1 computed
  exact made part computed

theorem hasType_result? [PlaneGeometry]
    (computed : function.result? arguments = some value) :
    value.HasType function.resultType := by
  unfold result? at computed
  split at computed <;> simp only [resultType]
  -- A result is given outright, or it is computed in one of the ways above.
  all_goals first
    | exact hasType_of_related computed
    | exact hasType_of_rounded computed
    | exact hasType_of_map computed fun _ => by constructor
    | exact hasType_of_bind computed fun _ given => by cases given; constructor
    | exact hasType_of_bind computed fun _ computed =>
        hasType_of_bind computed fun _ given => by cases given; constructor
    | contradiction
    | cases computed; constructor

theorem hasType_apply [PlaneGeometry] (function : Function) (arguments : List Scalar) :
    (function.apply arguments).HasType function.resultType := by
  unfold apply
  split
  next => exact .null _
  next =>
    cases computed : function.result? arguments with
    | none => exact .null _
    | some value => exact hasType_result? computed

-- Arguments that fit.

theorem Fits.mem_parameters (fits : function.Fits arguments) (index : Nat)
    (stands : arguments[index]? = some value) :
    value.type ∈ function.parameters.getD index [] := by
  obtain ⟨present, accepted⟩ := fits index value stands
  have typed : (value.type == .any) = false := by
    cases value <;> first | rfl | contradiction
  rwa [accepts, typed, Bool.false_or, List.contains_iff_mem] at accepted

theorem Fits.single (fits : function.Fits arguments) (takes : function.Takes arguments.length)
    {types : List ValueType} (parameters : function.parameters = [types])
    (required : function.requiredArguments = 1) :
    ∃ value, arguments = [value] ∧ value.type ∈ types := by
  rw [Takes, required, parameters] at takes
  obtain ⟨value, rfl⟩ := List.length_eq_one_iff.1 (Nat.le_antisymm takes.2 takes.1)
  have typed := fits.mem_parameters 0 rfl
  rw [parameters] at typed
  exact ⟨value, rfl, typed⟩

theorem Fits.pair (fits : function.Fits arguments) (takes : function.Takes arguments.length)
    {types others : List ValueType} (parameters : function.parameters = [types, others])
    (required : function.requiredArguments = 2) :
    ∃ first second, arguments = [first, second] ∧ first.type ∈ types ∧ second.type ∈ others := by
  rw [Takes, required, parameters] at takes
  obtain ⟨first, second, rfl⟩ := List.length_eq_two.1 (Nat.le_antisymm takes.2 takes.1)
  have typed := fits.mem_parameters 0 rfl
  have otherTyped := fits.mem_parameters 1 rfl
  rw [parameters] at typed otherTyped
  exact ⟨first, second, rfl, typed, otherTyped⟩

theorem exists_characterCount (typed : value.type ∈ [ValueType.number]) :
    ∃ count, characterCount? value = some count := by
  cases value <;> simp [Scalar.type] at typed <;> exact ⟨_, rfl⟩

theorem exists_rounded (round : Float → Float) (typed : value.type ∈ [ValueType.number]) :
    ∃ result, rounded round value = some result := by
  cases value <;> simp [Scalar.type] at typed <;> exact ⟨_, rfl⟩

theorem exists_date (typed : value.type ∈ [ValueType.instant, ValueType.date]) :
    ∃ date, date? value = some date := by
  cases value <;> simp [Scalar.type] at typed <;> exact ⟨_, rfl⟩

theorem exists_timeOfDay (typed : value.type ∈ [ValueType.instant, ValueType.timeOfDay]) :
    ∃ time, timeOfDay? value = some time := by
  cases value <;> simp [Scalar.type] at typed <;> exact ⟨_, rfl⟩

theorem exists_substring [PlaneGeometry] (takes : substring.Takes arguments.length)
    (fits : substring.Fits arguments) : ∃ value, substring.result? arguments = some value := by
  match arguments, takes with
  | [], takes => simp [Takes, requiredArguments] at takes
  | [_], takes => simp [Takes, requiredArguments] at takes
  | [_, _], _ =>
    obtain ⟨text, rfl⟩ := Scalar.exists_string (fits.mem_parameters 0 rfl)
    obtain ⟨start, counted⟩ := exists_characterCount (fits.mem_parameters 1 rfl)
    exact ⟨_, by rw [result?, counted]; rfl⟩
  | _ :: _ :: _ :: _, _ =>
    obtain ⟨text, rfl⟩ := Scalar.exists_string (fits.mem_parameters 0 rfl)
    obtain ⟨start, startCounted⟩ := exists_characterCount (fits.mem_parameters 1 rfl)
    obtain ⟨count, counted⟩ := exists_characterCount (fits.mem_parameters 2 rfl)
    exact ⟨_, by rw [result?, startCounted, counted]; rfl⟩

theorem exists_result? [PlaneGeometry] (takes : function.Takes arguments.length)
    (fits : function.Fits arguments) :
    ∃ value, function.result? arguments = some value := by
  cases function
  case length | toLower | toUpper | trim =>
    obtain ⟨value, rfl, typed⟩ := fits.single takes rfl rfl
    obtain ⟨text, rfl⟩ := Scalar.exists_string typed
    exact ⟨_, rfl⟩
  case year | month | day =>
    obtain ⟨value, rfl, typed⟩ := fits.single takes rfl rfl
    obtain ⟨date, found⟩ := exists_date typed
    exact ⟨_, congrArg (Option.map _) found⟩
  case hour | minute | second | fractionalSeconds =>
    obtain ⟨value, rfl, typed⟩ := fits.single takes rfl rfl
    obtain ⟨time, found⟩ := exists_timeOfDay typed
    exact ⟨_, congrArg (Option.map _) found⟩
  case date | time =>
    obtain ⟨value, rfl, typed⟩ := fits.single takes rfl rfl
    obtain ⟨moment, rfl⟩ := Scalar.exists_instant typed
    exact ⟨_, rfl⟩
  case round | floor | ceiling =>
    obtain ⟨value, rfl, typed⟩ := fits.single takes rfl rfl
    exact exists_rounded _ typed
  case lineLength =>
    obtain ⟨value, rfl, typed⟩ := fits.single takes rfl rfl
    obtain ⟨shape, rfl⟩ := Scalar.exists_geometry typed
    exact ⟨_, rfl⟩
  case substringOf | indexOf | concat | startsWith | endsWith =>
    obtain ⟨first, second, rfl, typed, otherTyped⟩ := fits.pair takes rfl rfl
    obtain ⟨left, rfl⟩ := Scalar.exists_string typed
    obtain ⟨right, rfl⟩ := Scalar.exists_string otherTyped
    exact ⟨_, rfl⟩
  case substring => exact exists_substring takes fits
  case relate =>
    obtain ⟨first, second, third, rfl⟩ := List.length_eq_three.1 (Nat.le_antisymm takes.2 takes.1)
    obtain ⟨left, rfl⟩ := Scalar.exists_geometry (fits.mem_parameters 0 rfl)
    obtain ⟨right, rfl⟩ := Scalar.exists_geometry (fits.mem_parameters 1 rfl)
    obtain ⟨pattern, rfl⟩ := Scalar.exists_string (fits.mem_parameters 2 rfl)
    exact ⟨_, rfl⟩
  -- The rest are about two geometries.
  all_goals
    obtain ⟨first, second, rfl, typed, otherTyped⟩ := fits.pair takes rfl rfl
    obtain ⟨left, rfl⟩ := Scalar.exists_geometry typed
    obtain ⟨right, rfl⟩ := Scalar.exists_geometry otherTyped
    exact ⟨_, rfl⟩

end Function

end SensorThings
