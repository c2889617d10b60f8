import SensorThings.Proofs.Http.Listing

/-!
Walks from page to page along the links. A walk comes to an end unless its pages have no size, and
then it has shown every match from its start on, in order.
-/
namespace SensorThings

namespace Server

def asOf (server : Server) (now : Instant) : Server :=
  { server with environment := { server.environment with now } }

/-- What a client gets who follows the links from a first page to the last one. Time passes from
page to page. -/
inductive Walk (server : Server) (tables : Tables) :
    String → List (String × String) → List Json → Prop
  | last {path : String} {parameters : List (String × String)} {document : Json}
      {value : List Json} (now : Instant)
      (answered : (server.asOf now).read tables path parameters = .ok document)
      (shown : document.member? "value" = some (.array value))
      (ends : document.member? "@iot.nextLink" = none) : Walk server tables path parameters value
  | next {path other : String} {parameters others : List (String × String)} {document : Json}
      {value later : List Json} {link : String} (now : Instant)
      (answered : (server.asOf now).read tables path parameters = .ok document)
      (shown : document.member? "value" = some (.array value))
      (more : document.member? "@iot.nextLink" = some (.string link))
      (asks : Address.request? server.base link = some (other, others))
      (rest : Walk server tables other others later) :
      Walk server tables path parameters (value ++ later)

variable {server : Server} {tables : Tables} {path : String} {kind : EntityKind}
  {scope : Option Predicate} {parameters : List (String × String)} {options : QueryOptions}
  {plan : QueryPlan} {top skip : Option Nat}

theorem read_asOf_eq_ok_iff (lists : tables.Lists path kind scope) (now : Instant)
    {document : Json} : (server.asOf now).read tables path parameters = .ok document ↔
      server.read tables path parameters = .ok document := by
  rw [read_eq_ok_iff lists, read_eq_ok_iff lists]
  refine exists_congr fun options => exists_congr fun plan => exists_congr fun value =>
    and_congr_right fun accepted => ?_
  rw [QueryOptions.planFor_of_unfiltered (QueryOptions.filter_of_withParameters accepted) kind _
    (server.asOf now).now server.now]
  rfl

/-- Parameters ask for a page of a query, and can be written in a link. -/
structure AsksFor (options : QueryOptions) (top skip : Option Nat)
    (parameters : List (String × String)) : Prop where
  plain : ∀ parameter ∈ parameters, Address.IsPlainParameter parameter
  distinct : (parameters.map Prod.fst).Nodup
  read : QueryOptions.ofParameters parameters = .ok (options.onPage top skip)

def pageSize (server : Server) (top : Option Nat) : Nat :=
  min (top.getD server.config.paging.defaultTop) server.config.paging.maxTop

@[simp] theorem pageSize_pageSize (server : Server) (top : Option Nat) :
    server.pageSize (some (server.pageSize top)) = server.pageSize top :=
  Nat.min_eq_left (Nat.min_le_right ..)

/-- What a walk over a collection rests on. -/
structure Walkable (server : Server) (tables : Tables) (path : String) (kind : EntityKind)
    (scope : Option Predicate) (options : QueryOptions) (plan : QueryPlan) : Prop where
  lists : tables.Lists path kind scope
  plainPath : Address.IsPlainPath path
  planned : options.planFor kind server.config.paging server.now scope = .ok plan
  bounded : server.config.maxTop ≤ Text.maxUnsigned
  stored : (tables.entities kind).length ≤ Text.maxUnsigned

namespace Walkable

variable (walkable : server.Walkable tables path kind scope options plan)
include walkable

theorem exists_page (asks : AsksFor options top skip parameters) :
    ∃ document value, server.read tables path parameters = .ok document ∧
      document.member? "value" = some (.array value) ∧
      ((((plan.matched tables kind).drop (skip.getD 0)).take (server.pageSize top)).map
        kind.idOf).mapM (server.entity tables options kind) = .ok value ∧
      if skip.getD 0 + server.pageSize top < (plan.matched tables kind).length then
        ∃ link others, document.member? "@iot.nextLink" = some (.string link) ∧
          Address.request? server.base link = some (path, others) ∧
          AsksFor options (some (server.pageSize top)) (some (skip.getD 0 + server.pageSize top))
            others
      else document.member? "@iot.nextLink" = none := by
  obtain ⟨root, queryable, compiled⟩ := QueryOptions.planFor_eq_ok_iff.1 walkable.planned
  obtain ⟨turned, planned, items, more⟩ : ∃ turned,
      (options.onPage top skip).planFor kind server.config.paging server.now scope = .ok turned ∧
      (turned.run tables kind).items =
        ((plan.matched tables kind).drop (skip.getD 0)).take (server.pageSize top) ∧
      (turned.run tables kind).hasMore =
        decide (skip.getD 0 + (turned.run tables kind).items.length <
          (plan.matched tables kind).length) :=
    ⟨_, QueryOptions.planFor_eq_ok_iff.2
      ⟨root, queryable, QueryOptions.plan_onPage compiled top skip⟩, rfl, rfl⟩
  obtain ⟨limit, offset⟩ := plan_eq planned
  obtain ⟨value, shown⟩ : ∃ value, ((turned.run tables kind).items.map kind.idOf).mapM
      (server.entity tables options kind) = .ok value :=
    exists_shown walkable.lists.isPublic
      (fun _ member => List.mem_of_mem_drop (List.mem_of_mem_take (items ▸ member))) options
  refine ⟨_, value, (read_eq_ok_iff walkable.lists).2
    ⟨_, turned, value, asks.read, planned, shown, rfl⟩, member?_value .., items ▸ shown, ?_⟩
  rw [member?_nextLink]
  have length : (turned.run tables kind).items.length =
      min (server.pageSize top) ((plan.matched tables kind).length - skip.getD 0) := by
    rw [items, List.length_take, List.length_drop]
  have size : turned.limit = server.pageSize top := limit
  split
  next follows =>
    have whole : (turned.run tables kind).items.length = server.pageSize top := by omega
    have goesOn : (turned.run tables kind).hasMore = true := by
      rw [more, decide_eq_true_eq, whole]
      exact follows
    obtain ⟨limitFits, endFits⟩ := page_fits planned goesOn walkable.bounded walkable.stored
    have next : turned.offset + (turned.run tables kind).items.length =
        skip.getD 0 + server.pageSize top := by
      rw [whole, offset]
      rfl
    refine ⟨_, Address.turned parameters turned.limit _, if_pos goesOn,
      Address.request?_pageLink walkable.plainPath asks.plain asks.distinct,
      Address.plain_turned asks.plain, Address.nodup_turned asks.distinct, ?_⟩
    rw [Address.ofParameters_turned asks.read asks.distinct limitFits endFits, next, size]
    rfl
  next ends =>
    rw [if_neg]
    rw [more, decide_eq_true_eq]
    omega

/-- Whoever follows the links to the end has got every match from the start on, and got there
because pages have a size or because there is nothing to get. -/
theorem value_of_walk {values : List Json} (walk : Walk server tables path parameters values)
    (asks : AsksFor options top skip parameters) :
    (((plan.matched tables kind).drop (skip.getD 0)).map kind.idOf).mapM
        (server.entity tables options kind) = .ok values ∧
      (0 < server.pageSize top ∨ (plan.matched tables kind).length ≤ skip.getD 0) := by
  induction walk generalizing top skip with
  | last now answered shown ends =>
    obtain ⟨document, value, read, member, stretch, follows⟩ := walkable.exists_page asks
    cases read.symm.trans ((read_asOf_eq_ok_iff walkable.lists now).1 answered)
    cases member.symm.trans shown
    split at follows
    next =>
      obtain ⟨link, _, more, -⟩ := follows
      cases ends.symm.trans more
    next small =>
      rw [List.take_of_length_le (by rw [List.length_drop]; omega)] at stretch
      exact ⟨stretch, by omega⟩
  | next now answered shown more asked rest ih =>
    obtain ⟨document, value, read, member, stretch, follows⟩ := walkable.exists_page asks
    cases read.symm.trans ((read_asOf_eq_ok_iff walkable.lists now).1 answered)
    cases member.symm.trans shown
    split at follows
    next before =>
      obtain ⟨link, others, linked, request, later⟩ := follows
      cases more.symm.trans linked
      cases asked.symm.trans request
      obtain ⟨remaining, sized⟩ := ih walkable later
      rw [pageSize_pageSize, Option.getD_some] at sized
      refine ⟨?_, by omega⟩
      rw [Option.getD_some, ← List.drop_drop] at remaining
      rw [← List.take_append_drop (server.pageSize top)
        ((plan.matched tables kind).drop (skip.getD 0)), List.map_append, List.mapM_append, stretch,
        remaining]
      rfl
    next => cases more.symm.trans follows

theorem exists_walk (asks : AsksFor options top skip parameters)
    (ends : 0 < server.pageSize top ∨ (plan.matched tables kind).length ≤ skip.getD 0) :
    ∃ values, Walk server tables path parameters values := by
  induction distance : (plan.matched tables kind).length - skip.getD 0 using Nat.strong_induction_on
    generalizing top skip parameters with
  | h distance ih =>
    obtain ⟨document, value, read, member, -, follows⟩ := walkable.exists_page asks
    have answered := (read_asOf_eq_ok_iff walkable.lists server.now).2 read
    split at follows
    next before =>
      obtain ⟨link, others, linked, request, later⟩ := follows
      obtain ⟨values, rest⟩ := ih _ (by rw [Option.getD_some]; omega) later
        (.inl (by rw [pageSize_pageSize]; omega)) rfl
      exact ⟨_, .next server.now answered member linked request rest⟩
    next => exact ⟨_, .last server.now answered member follows⟩

end Walkable

@[simp]
theorem pageSize_pos_iff : 0 < server.pageSize top ↔ 0 < top.getD server.config.defaultTop := by
  have positive : 0 < max server.config.maxTop 1 := lt_max_of_lt_right Nat.one_pos
  exact Nat.lt_min.trans (and_iff_left positive)

/-- Following the links of an accepted collection comes to an end just if its pages have a size or
nothing matches from the start on; and then it lists every match from the start on once, in the
order of the request. -/
theorem walks_list_matches (lists : tables.Lists path kind scope) {document : Json}
    (answered : server.read tables path parameters = .ok document)
    (plainPath : scope ≠ none → Address.IsPlainPath path)
    (plain : ∀ parameter ∈ parameters, Address.IsPlainParameter parameter)
    (distinct : (parameters.map Prod.fst).Nodup)
    (bounded : server.config.maxTop ≤ Text.maxUnsigned)
    (stored : (tables.entities kind).length ≤ Text.maxUnsigned) :
    ∃ options root answer, QueryOptions.ofParameters parameters = .ok options ∧
      kind.propertyMap? = some root ∧
      options.Answers ⟨EntityKind.schema, root, server.now⟩ scope tables kind answer ∧
      ((∃ values, Walk server tables path parameters values) ↔
        0 < options.top.getD server.config.defaultTop ∨ answer.length ≤ options.skip.getD 0) ∧
      ∀ values, Walk server tables path parameters values →
        ((answer.drop (options.skip.getD 0)).map kind.idOf).mapM
          (server.entity tables options kind) = .ok values := by
  obtain ⟨options, plan, _, accepted, planned, -⟩ := (read_eq_ok_iff lists).1 answered
  obtain ⟨root, queryable, compiled⟩ := QueryOptions.planFor_eq_ok_iff.1 planned
  have walkable : server.Walkable tables path kind scope options plan :=
    ⟨lists, lists.isPlainPath plainPath, planned, bounded, stored⟩
  have asks : AsksFor options options.top options.skip parameters := ⟨plain, distinct, accepted⟩
  refine ⟨options, root, plan.matched tables kind, accepted, queryable,
    QueryOptions.answers_matched compiled tables kind, ?_,
    fun values walk => (walkable.value_of_walk walk asks).1⟩
  rw [← pageSize_pos_iff]
  exact ⟨fun ⟨_, walk⟩ => (walkable.value_of_walk walk asks).2, walkable.exists_walk asks⟩

end Server

namespace Server

open TwoThings in
/-- Pages of one thing lead to both, and pages of none lead nowhere. -/
theorem walks_list_matches_two_things :
    (∃ values, Walk server tables "Things" parameters values) ∧
      ¬∃ values, Walk server tables "Things" [("$top", "0")] values := by
  constructor
  · obtain ⟨_, _, read, -⟩ := answered
    obtain ⟨_, _, _, same, -, -, ends, -⟩ := walks_list_matches lists read nofun plain
      (by decide) (by decide) (by decide)
    cases accepted.symm.trans same
    exact ends.2 (.inl (by decide))
  · have unsized : QueryOptions.ofParameters [("$top", "0")] = .ok { top := some 0 } := rfl
    have read := (read_eq_ok_iff lists).2
      ⟨_, _, _, unsized, (rfl : QueryOptions.planFor _ _ server.config.paging server.now _ = _),
        rfl, rfl⟩
    obtain ⟨_, _, answer, same, -, answers, ends, -⟩ := walks_list_matches lists read nofun
      (List.forall_mem_singleton.2 ⟨Address.isPlain_of_not_mem (by decide), by decide,
        Address.isPlain_of_not_mem (by decide)⟩) (by decide) (by decide) (by decide)
    cases unsized.symm.trans same
    have listed : first ∈ answer := (answers.matching first).2 ⟨rfl, nofun, nofun⟩
    rw [ends]
    rintro (size | nothing)
    · contradiction
    · exact absurd (List.length_pos_of_mem listed) (Nat.not_lt.2 nothing)

end Server

end SensorThings
