import SensorThings.Proofs.Http.Parameters

/-!
Parameters that are refused. Reading stops at the first of them, so an order of the parameters shows
in the answer just if two of them are refused.
-/
namespace SensorThings

theorem mapError_bind_eq_error_iff {ε ε' α β : Type} {wrap : ε → ε'} {read : Except ε α}
    {place : α → β} {fault : ε'} :
    (read.mapError wrap >>= fun value => pure (place value)) = .error fault ↔
      ∃ inner, read = .error inner ∧ wrap inner = fault := by
  rw [bind_eq_error_iff, mapError_eq_error_iff]
  exact or_iff_left nofun

namespace QueryOptions

variable {options next : QueryOptions} {name value : String} {failure : Failure}

def optionNames : List String :=
  ["$top", "$skip", "$orderby", "$count", "$select", "$filter", "$expand"]

/-- Why a parameter is refused. -/
inductive Refusal : String → String → Failure → Prop
  | top {value : String} {fault : QueryFault} (unread : size "$top" value = .error fault) :
      Refusal "$top" value (.query fault)
  | skip {value : String} {fault : QueryFault} (unread : size "$skip" value = .error fault) :
      Refusal "$skip" value (.query fault)
  | order {value : String} {fault : QueryFault}
      (unread : (Text.commaItems value).mapM sortTerm = .error fault) :
      Refusal "$orderby" value (.query fault)
  | count {value : String} {fault : QueryFault} (unread : truthValue value = .error fault) :
      Refusal "$count" value (.query fault)
  | filter {value : String} : Refusal "$filter" value .filterText
  | expand {value : String} : Refusal "$expand" value .expansion
  | unknown {name value : String} (option : name.toList.head? = some '$')
      (unknown : name ∉ optionNames) : Refusal name value (.query (.invalid name .unknownOption))

/-- A parameter is refused whatever the options are so far. -/
theorem withParameter_eq_error_iff :
    options.withParameter name value = .error failure ↔ Refusal name value failure := by
  constructor
  · intro refused
    unfold withParameter at refused
    split at refused
    case h_1 =>
      obtain ⟨fault, unread, rfl⟩ := mapError_bind_eq_error_iff.1 refused
      exact .top unread
    case h_2 =>
      obtain ⟨fault, unread, rfl⟩ := mapError_bind_eq_error_iff.1 refused
      exact .skip unread
    case h_3 =>
      obtain ⟨fault, unread, rfl⟩ := mapError_bind_eq_error_iff.1 refused
      exact .order unread
    case h_4 =>
      obtain ⟨fault, unread, rfl⟩ := mapError_bind_eq_error_iff.1 refused
      exact .count unread
    case h_5 => contradiction
    case h_6 =>
      cases refused
      exact .filter
    case h_7 =>
      cases refused
      exact .expand
    case h_8 =>
      split at refused
      next option =>
        cases refused
        exact .unknown option (by simp_all [optionNames])
      next => contradiction
  · intro refusal
    cases refusal with
    | top unread => exact mapError_bind_eq_error_iff.2 ⟨_, unread, rfl⟩
    | skip unread => exact mapError_bind_eq_error_iff.2 ⟨_, unread, rfl⟩
    | order unread => exact mapError_bind_eq_error_iff.2 ⟨_, unread, rfl⟩
    | count unread => exact mapError_bind_eq_error_iff.2 ⟨_, unread, rfl⟩
    | filter => rfl
    | expand => rfl
    | unknown option unknown =>
      unfold withParameter
      split
      case h_8 => rw [if_pos option]
      all_goals exact absurd (by decide) unknown

theorem Refusal.unique {other : Failure} (left : Refusal name value failure)
    (right : Refusal name value other) : failure = other := by
  have same : ({} : QueryOptions).withParameter name value = .error failure :=
    withParameter_eq_error_iff.2 left
  rw [withParameter_eq_error_iff.2 right] at same
  exact (Except.error.inj same).symm

theorem size_eq_error {option : String} {fault : QueryFault}
    (unread : size option value = .error fault) : fault = .invalid value (.notCount option) := by
  unfold size at unread
  split at unread
  next => contradiction
  next => exact (Except.error.inj unread).symm

theorem truthValue_eq_error {fault : QueryFault} (unread : truthValue value = .error fault) :
    ∃ word, fault = .invalid word .notTruthValue := by
  unfold truthValue at unread
  split at unread
  next => contradiction
  next => contradiction
  next => exact ⟨_, (Except.error.inj unread).symm⟩

theorem sortTerm_eq_error {term : String} {fault : QueryFault}
    (unread : sortTerm term = .error fault) :
    ∃ direction, fault = .invalid term (.sortDirection direction) ∨
      fault = .invalid term .sortToken := by
  unfold sortTerm at unread
  split at unread
  next => contradiction
  next => contradiction
  next direction rest _ =>
    refine ⟨Text.lowerAscii direction, ?_⟩
    dsimp only at unread
    split at unread
    next => exact .inl (Except.error.inj unread).symm
    next =>
      split at unread
      next => exact .inr (Except.error.inj unread).symm
      next => contradiction

end QueryOptions

def Failure.option? : Failure → Option String
  | .query (.invalid _ (.notCount option)) => some option
  | .query (.invalid _ (.sortDirection _)) => some "$orderby"
  | .query (.invalid _ .sortToken) => some "$orderby"
  | .query (.invalid _ .notTruthValue) => some "$count"
  | .query (.invalid name .unknownOption) => some name
  | .filterText => some "$filter"
  | .expansion => some "$expand"
  | _ => none

namespace QueryOptions

variable {options next : QueryOptions} {name value : String} {failure : Failure}

theorem Refusal.option (refusal : Refusal name value failure) : failure.option? = some name := by
  cases refusal with
  | top unread => rw [size_eq_error unread, Failure.option?]
  | skip unread => rw [size_eq_error unread, Failure.option?]
  | order unread =>
    obtain ⟨term, -, unread⟩ := mapM_eq_error unread
    obtain ⟨direction, rfl | rfl⟩ := sortTerm_eq_error unread
    · rfl
    · rfl
  | count unread =>
    obtain ⟨word, rfl⟩ := truthValue_eq_error unread
    rfl
  | filter => rfl
  | expand => rfl
  | unknown => rfl

variable {parameters others : List (String × String)}

@[simp] theorem withParameters_cons {parameter : String × String} :
    options.withParameters (parameter :: parameters) =
      options.withParameter parameter.1 parameter.2 >>= (withParameters · parameters) :=
  List.foldlM_cons

theorem withParameters_eq_error_iff : options.withParameters parameters = .error failure ↔
    ∃ earlier parameter later, parameters = earlier ++ parameter :: later ∧
      (∀ other ∈ earlier, ∀ failure, ¬Refusal other.1 other.2 failure) ∧
      Refusal parameter.1 parameter.2 failure := by
  induction parameters generalizing options with
  | nil =>
    refine ⟨nofun, ?_⟩
    rintro ⟨earlier, parameter, later, same, -, -⟩
    simp at same
  | cons first rest ih =>
    rw [withParameters_cons, bind_eq_error_iff, withParameter_eq_error_iff]
    constructor
    · rintro (refusal | ⟨between, accepted, refused⟩)
      · exact ⟨[], first, rest, rfl, nofun, refusal⟩
      · obtain ⟨earlier, parameter, later, rfl, unrefused, refusal⟩ := ih.1 refused
        refine ⟨first :: earlier, parameter, later, rfl, ?_, refusal⟩
        rintro other (_ | member) failure
        · intro firstRefusal
          rw [withParameter_eq_error_iff.2 firstRefusal] at accepted
          contradiction
        · exact unrefused other ‹_› failure
    · rintro ⟨earlier, parameter, later, same, unrefused, refusal⟩
      cases earlier with
      | nil =>
        obtain ⟨rfl, rfl⟩ := List.cons.inj same
        exact .inl refusal
      | cons other earlier =>
        obtain ⟨rfl, rfl⟩ := List.cons.inj same
        rcases accepted : options.withParameter first.1 first.2 with failure | between
        · exact (unrefused first List.mem_cons_self failure
            (withParameter_eq_error_iff.1 accepted)).elim
        · exact .inr ⟨between, rfl, ih.2 ⟨earlier, parameter, later, rfl,
            fun other member => unrefused other (List.mem_cons_of_mem _ member), refusal⟩⟩

theorem exists_refused (refused : options.withParameters parameters = .error failure) :
    ∃ parameter ∈ parameters, Refusal parameter.1 parameter.2 failure := by
  obtain ⟨earlier, parameter, later, rfl, -, refusal⟩ := withParameters_eq_error_iff.1 refused
  exact ⟨parameter, List.mem_append_right _ List.mem_cons_self, refusal⟩

theorem exists_perm_of_refusal {parameter : String × String} (member : parameter ∈ parameters)
    (refusal : Refusal parameter.1 parameter.2 failure) :
    ∃ others, others.Perm parameters ∧ options.withParameters others = .error failure :=
  ⟨parameter :: parameters.erase parameter, (List.perm_cons_erase member).symm,
    withParameters_eq_error_iff.2 ⟨[], parameter, _, rfl, nofun, refusal⟩⟩

/-- Options that are accepted in one order are accepted in each, and are the same. Each refused
parameter is the one reported in some order, so all orders agree just if no two are refused. -/
theorem ofParameters_orders (distinct : (parameters.map Prod.fst).Nodup) :
    (∀ options others, others.Perm parameters → ofParameters parameters = .ok options →
      ofParameters others = .ok options) ∧
    (∀ failure, (∃ others, others.Perm parameters ∧ ofParameters others = .error failure) ↔
      ∃ parameter ∈ parameters, Refusal parameter.1 parameter.2 failure) ∧
    ((∀ others, others.Perm parameters → ofParameters others = ofParameters parameters) ↔
      ∀ left ∈ parameters, ∀ right ∈ parameters, ∀ leftFailure rightFailure,
        Refusal left.1 left.2 leftFailure → Refusal right.1 right.2 rightFailure →
        left = right) := by
  have accepted : ∀ options others, others.Perm parameters →
      ofParameters parameters = .ok options → ofParameters others = .ok options :=
    fun options others same done => withParameters_perm same.symm distinct done
  have arises : ∀ failure,
      (∃ others, others.Perm parameters ∧ ofParameters others = .error failure) ↔
        ∃ parameter ∈ parameters, Refusal parameter.1 parameter.2 failure := by
    intro failure
    constructor
    · rintro ⟨others, same, refused⟩
      obtain ⟨parameter, member, refusal⟩ := exists_refused refused
      exact ⟨parameter, same.mem_iff.1 member, refusal⟩
    · rintro ⟨parameter, member, refusal⟩
      exact exists_perm_of_refusal member refusal
  refine ⟨accepted, arises, fun agree => ?_, fun single others same => ?_⟩
  · intro left leftMember right rightMember leftFailure rightFailure leftRefusal rightRefusal
    obtain ⟨leftFirst, leftSame, leftRefused⟩ :=
      (arises leftFailure).2 ⟨left, leftMember, leftRefusal⟩
    obtain ⟨rightFirst, rightSame, rightRefused⟩ :=
      (arises rightFailure).2 ⟨right, rightMember, rightRefusal⟩
    rw [agree leftFirst leftSame] at leftRefused
    rw [agree rightFirst rightSame, leftRefused] at rightRefused
    obtain rfl := Except.error.inj rightRefused
    have sameName : left.1 = right.1 :=
      Option.some.inj (leftRefusal.option.symm.trans rightRefusal.option)
    exact List.inj_on_of_nodup_map distinct leftMember rightMember sameName
  · rcases outcome : ofParameters parameters with failure | options
    · obtain ⟨parameter, member, refusal⟩ := exists_refused outcome
      rcases otherOutcome : ofParameters others with other | options
      · obtain ⟨right, rightMember, rightRefusal⟩ := exists_refused otherOutcome
        obtain rfl := single parameter member right (same.mem_iff.1 rightMember) _ _ refusal
          rightRefusal
        rw [refusal.unique rightRefusal]
      · have othersDistinct := (same.map Prod.fst).nodup_iff.2 distinct
        have done := withParameters_perm same othersDistinct otherOutcome
        exact absurd (outcome.symm.trans done) nofun
    · exact accepted options others same outcome

/-- Whether a request with the text of a filter and with a size that is no number is unsupported or
invalid depends on which of the two comes first. -/
theorem ofParameters_orders_filter_and_size :
    (∃ parameters, parameters.Perm [("$filter", "result gt 5"), ("$top", "-1")] ∧
      ofParameters parameters = .error .filterText) ∧
    (∃ parameters, parameters.Perm [("$filter", "result gt 5"), ("$top", "-1")] ∧
      ofParameters parameters = .error (.query (.invalid "-1" (.notCount "$top")))) ∧
    Failure.filterText.classOf ≠ (Failure.query (.invalid "-1" (.notCount "$top"))).classOf := by
  have unread : size "$top" "-1" = .error (.invalid "-1" (.notCount "$top")) := by decide +kernel
  have distinct : ([("$filter", "result gt 5"), ("$top", "-1")].map Prod.fst).Nodup := by decide
  obtain ⟨-, arises, -⟩ := ofParameters_orders distinct
  exact ⟨(arises _).2 ⟨_, List.mem_cons_self, .filter⟩,
    (arises _).2 ⟨_, List.mem_cons_of_mem _ List.mem_cons_self, .top unread⟩, nofun⟩

end QueryOptions

end SensorThings
