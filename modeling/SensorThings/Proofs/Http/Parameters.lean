import Mathlib.Data.List.Perm.Basic
import SensorThings.Http.Parameters
import SensorThings.Proofs.Store.Paging
import SensorThings.Proofs.Text.Digits

/-!
Parameters as settings. A parameter sets one option or none, so parameters of different names can be
read in any order, and those for the size and the start of a page can be exchanged for others.
-/
namespace SensorThings

@[simp]
theorem mapError_eq_ok_iff {ε ε' α : Type} {wrap : ε → ε'} {result : Except ε α} {value : α} :
    result.mapError wrap = .ok value ↔ result = .ok value := by
  cases result <;> simp [Except.mapError]

@[simp]
theorem mapError_eq_error_iff {ε ε' α : Type} {wrap : ε → ε'} {result : Except ε α} {fault : ε'} :
    result.mapError wrap = .error fault ↔ ∃ inner, result = .error inner ∧ wrap inner = fault := by
  cases result <;> simp [Except.mapError]

namespace QueryOptions

variable {options next : QueryOptions} {name value : String}

theorem size_toString (option : String) {number : Nat} (fits : number ≤ Text.maxUnsigned) :
    size option (toString number) = .ok number := by
  rw [size, Text.unsigned?_toString fits]

/-- What a parameter does to options. -/
inductive Setting : String → String → (QueryOptions → QueryOptions) → Prop
  | top {value : String} {top : Nat} (read : size "$top" value = .ok top) :
      Setting "$top" value fun options => { options with top := some top }
  | skip {value : String} {skip : Nat} (read : size "$skip" value = .ok skip) :
      Setting "$skip" value fun options => { options with skip := some skip }
  | order {value : String} {order : List (Expression × Bool)}
      (read : (Text.commaItems value).mapM sortTerm = .ok order) :
      Setting "$orderby" value fun options => { options with order }
  | count {value : String} {count : Bool} (read : truthValue value = .ok count) :
      Setting "$count" value fun options => { options with count }
  | select {value : String} :
      Setting "$select" value fun options => { options with select := some (Text.commaItems value) }
  | other {name value : String} (plain : name.toList.head? ≠ some '$') : Setting name value id

theorem withParameter_eq_ok_iff : options.withParameter name value = .ok next ↔
    ∃ set, Setting name value set ∧ next = set options := by
  constructor
  · intro accepted
    unfold withParameter at accepted
    split at accepted
    case h_1 =>
      obtain ⟨top, read, done⟩ := bind_eq_ok_iff.1 accepted
      cases done
      exact ⟨_, .top (mapError_eq_ok_iff.1 read), rfl⟩
    case h_2 =>
      obtain ⟨skip, read, done⟩ := bind_eq_ok_iff.1 accepted
      cases done
      exact ⟨_, .skip (mapError_eq_ok_iff.1 read), rfl⟩
    case h_3 =>
      obtain ⟨order, read, done⟩ := bind_eq_ok_iff.1 accepted
      cases done
      exact ⟨_, .order (mapError_eq_ok_iff.1 read), rfl⟩
    case h_4 =>
      obtain ⟨count, read, done⟩ := bind_eq_ok_iff.1 accepted
      cases done
      exact ⟨_, .count (mapError_eq_ok_iff.1 read), rfl⟩
    case h_5 =>
      cases accepted
      exact ⟨_, .select, rfl⟩
    case h_6 => contradiction
    case h_7 => contradiction
    case h_8 =>
      split at accepted
      next => contradiction
      next plain =>
        cases accepted
        exact ⟨_, .other plain, rfl⟩
  · rintro ⟨set, setting, rfl⟩
    cases setting with
    | top read => exact bind_eq_ok_iff.2 ⟨_, mapError_eq_ok_iff.2 read, rfl⟩
    | skip read => exact bind_eq_ok_iff.2 ⟨_, mapError_eq_ok_iff.2 read, rfl⟩
    | order read => exact bind_eq_ok_iff.2 ⟨_, mapError_eq_ok_iff.2 read, rfl⟩
    | count read => exact bind_eq_ok_iff.2 ⟨_, mapError_eq_ok_iff.2 read, rfl⟩
    | select => rfl
    | other plain =>
      unfold withParameter
      split
      case h_8 => rw [if_neg plain, id]
      all_goals exact absurd rfl plain

theorem Setting.comm {other otherValue : String} {first second : QueryOptions → QueryOptions}
    (left : Setting name value first) (right : Setting other otherValue second)
    (different : name ≠ other) (options : QueryOptions) :
    second (first options) = first (second options) := by
  cases left <;> cases right <;> first | rfl | contradiction

theorem Setting.filter {set : QueryOptions → QueryOptions} (setting : Setting name value set) :
    (set options).filter = options.filter := by
  cases setting <;> rfl

def withParameters (options : QueryOptions) (parameters : List (String × String)) :
    Except Failure QueryOptions :=
  parameters.foldlM (fun options parameter => options.withParameter parameter.1 parameter.2) options

variable {parameters others : List (String × String)}

theorem withParameters_cons_eq_ok_iff {parameter : String × String} :
    options.withParameters (parameter :: parameters) = .ok next ↔
      ∃ set, Setting parameter.1 parameter.2 set ∧
        (set options).withParameters parameters = .ok next := by
  rw [withParameters, List.foldlM_cons, bind_eq_ok_iff]
  constructor
  · rintro ⟨_, accepted, rest⟩
    obtain ⟨set, setting, rfl⟩ := withParameter_eq_ok_iff.1 accepted
    exact ⟨set, setting, rest⟩
  · rintro ⟨set, setting, rest⟩
    exact ⟨_, withParameter_eq_ok_iff.2 ⟨set, setting, rfl⟩, rest⟩

theorem withParameters_append_eq_ok_iff :
    options.withParameters (parameters ++ others) = .ok next ↔
      ∃ between, options.withParameters parameters = .ok between ∧
        between.withParameters others = .ok next := by
  rw [withParameters, List.foldlM_append, bind_eq_ok_iff]
  rfl

theorem withParameters_perm (same : parameters.Perm others)
    (distinct : (parameters.map Prod.fst).Nodup)
    (accepted : options.withParameters parameters = .ok next) :
    options.withParameters others = .ok next := by
  induction same generalizing options with
  | nil => exact accepted
  | cons parameter _ ih =>
    obtain ⟨set, setting, rest⟩ := withParameters_cons_eq_ok_iff.1 accepted
    exact withParameters_cons_eq_ok_iff.2
      ⟨set, setting, ih (List.nodup_cons.1 distinct).2 rest⟩
  | swap left right _ =>
    obtain ⟨first, rightSetting, accepted⟩ := withParameters_cons_eq_ok_iff.1 accepted
    obtain ⟨second, leftSetting, rest⟩ := withParameters_cons_eq_ok_iff.1 accepted
    have different : right.1 ≠ left.1 := fun same =>
      (List.nodup_cons.1 distinct).1 (same ▸ List.mem_cons_self)
    rw [rightSetting.comm leftSetting different] at rest
    exact withParameters_cons_eq_ok_iff.2
      ⟨second, leftSetting, withParameters_cons_eq_ok_iff.2 ⟨first, rightSetting, rest⟩⟩
  | trans left _ first second =>
    exact second ((left.map Prod.fst).nodup_iff.1 distinct) (first distinct accepted)

def unpaged (parameters : List (String × String)) : List (String × String) :=
  parameters.filter fun (name, _) => name != "$top" && name != "$skip"

theorem unpaged_of_plain (plain : name.toList.head? ≠ some '$') :
    (name != "$top" && name != "$skip") = true := by
  rw [Bool.and_eq_true, bne_iff_ne, bne_iff_ne]
  constructor <;> rintro rfl <;> exact plain rfl

theorem withParameters_unpaged (accepted : options.withParameters parameters = .ok next)
    (top skip : Option Nat) :
    (options.onPage top skip).withParameters (unpaged parameters) = .ok (next.onPage top skip) := by
  induction parameters generalizing options with
  | nil =>
    cases accepted
    rfl
  | cons parameter rest ih =>
    obtain ⟨name, value⟩ := parameter
    obtain ⟨set, setting, accepted⟩ := withParameters_cons_eq_ok_iff.1 accepted
    have later := ih accepted
    rw [unpaged, List.filter_cons, ← unpaged]
    cases setting with
    | top => exact later
    | skip => exact later
    | order read => exact withParameters_cons_eq_ok_iff.2 ⟨_, .order read, later⟩
    | count read => exact withParameters_cons_eq_ok_iff.2 ⟨_, .count read, later⟩
    | select => exact withParameters_cons_eq_ok_iff.2 ⟨_, .select, later⟩
    | other plain =>
      rw [if_pos (unpaged_of_plain plain)]
      exact withParameters_cons_eq_ok_iff.2 ⟨_, .other plain, later⟩

theorem filter_of_withParameters (accepted : options.withParameters parameters = .ok next) :
    next.filter = options.filter := by
  induction parameters generalizing options with
  | nil =>
    cases accepted
    rfl
  | cons parameter rest ih =>
    obtain ⟨set, setting, accepted⟩ := withParameters_cons_eq_ok_iff.1 accepted
    exact (ih accepted).trans setting.filter

theorem ofParameters_onPage (accepted : ofParameters parameters = .ok options)
    (distinct : (parameters.map Prod.fst).Nodup) (same : (unpaged parameters).Perm others)
    {top skip : Nat} (topFits : top ≤ Text.maxUnsigned) (skipFits : skip ≤ Text.maxUnsigned) :
    ofParameters (others ++ [("$top", toString top), ("$skip", toString skip)]) =
      .ok (options.onPage (some top) (some skip)) := by
  have unpagedDistinct : ((unpaged parameters).map Prod.fst).Nodup :=
    distinct.sublist (List.filter_sublist.map Prod.fst)
  have rest := withParameters_perm same unpagedDistinct
    (withParameters_unpaged accepted none none)
  exact withParameters_append_eq_ok_iff.2 ⟨_, rest, withParameters_cons_eq_ok_iff.2
    ⟨_, .top (size_toString _ topFits), withParameters_cons_eq_ok_iff.2
      ⟨_, .skip (size_toString _ skipFits), rfl⟩⟩⟩

end QueryOptions

end SensorThings
