import SensorThings.Proofs.Store.Sorting
import SensorThings.Proofs.Store.View
import SensorThings.Store.Navigation

/-!
Pages of a collection. The keys of a plan end at the identifier, so they tell any two rows apart and
the matches have one order; a page is a stretch of it, whatever its size and start.
-/
namespace SensorThings

namespace QueryPlan

variable {plan : QueryPlan} {tables : Tables} {kind : EntityKind}

theorem matched_eq (plan : QueryPlan) (tables : Tables) (kind : EntityKind) :
    plan.matched tables kind =
      ((tables.entities kind).filter (plan.selects tables kind)).mergeSort fun earlier later =>
        SortKey.compareBy plan.sort (tables.source kind earlier) (tables.source kind later) !=
          .gt := by
  have paired := List.map_mergeSort
    (f := fun entity => (plan.keyValues (tables.source kind entity), entity))
    (l := (tables.entities kind).filter (plan.selects tables kind))
    (s := fun left right => SortKey.compareValues plan.sort left.1 right.1 != .gt)
    fun _ _ _ _ => rfl
  rw [matched, ← paired, List.map_map]
  exact List.map_id _

theorem matched_perm (plan : QueryPlan) (tables : Tables) (kind : EntityKind) :
    (plan.matched tables kind).Perm
      ((tables.entities kind).filter (plan.selects tables kind)) := by
  rw [matched_eq]
  exact List.mergeSort_perm ..

theorem selects_iff {entity : kind.Entity} :
    plan.selects tables kind entity = true ↔
      ∀ predicate, plan.predicate = some predicate →
        predicate.truth (tables.source kind entity) = some true := by
  rw [selects]
  cases plan.predicate <;> simp [Tables.selects, Predicate.selects]

@[simp] theorem mem_matched_iff {entity : kind.Entity} :
    entity ∈ plan.matched tables kind ↔
      tables.find? kind (kind.idOf entity) = some entity ∧
        plan.selects tables kind entity = true := by
  rw [(matched_perm plan tables kind).mem_iff, List.mem_filter, Tables.mem_entities_iff]

theorem nodup_matched (plan : QueryPlan) (tables : Tables) (kind : EntityKind) :
    ((plan.matched tables kind).map kind.idOf).Nodup := by
  rw [((matched_perm plan tables kind).map kind.idOf).nodup_iff]
  exact (tables.nodup_ids kind).sublist (List.filter_sublist.map kind.idOf)

theorem matched_ordered (plan : QueryPlan) (tables : Tables) (kind : EntityKind) :
    (plan.matched tables kind).Pairwise fun earlier later =>
      SortKey.compareBy plan.sort (tables.source kind earlier) (tables.source kind later) ≠
        .gt := by
  rw [matched_eq]
  refine (List.pairwise_mergeSort ?_ ?_ _).imp bne_iff_ne.1
  · intro first second third ahead behind
    simp only [bne_iff_ne, ne_eq, Ordering.ne_gt_iff_isLE] at *
    exact Std.TransCmp.isLE_trans ahead behind
  · intro left right
    have swapped :
        SortKey.compareBy plan.sort (tables.source kind left) (tables.source kind right) =
        (SortKey.compareBy plan.sort (tables.source kind right) (tables.source kind left)).swap :=
      Std.OrientedCmp.eq_swap
    rw [swapped]
    cases SortKey.compareBy plan.sort (tables.source kind right) (tables.source kind left) <;> rfl

end QueryPlan

namespace QueryOptions

variable {options : QueryOptions} {context : QueryContext} {paging : Paging}
  {scope : Option Predicate} {plan : QueryPlan}

/-- What a query is about: the rows of which its scope and its filter are known to be true. -/
def Matches (options : QueryOptions) (context : QueryContext) (scope : Option Predicate)
    (source : RowSource) : Prop :=
  (∀ restriction, scope = some restriction → restriction.truth source = some true) ∧
    ∀ filter, options.filter = some filter →
      filter.truth context source = some true

def onPage (options : QueryOptions) (top skip : Option Nat) : QueryOptions :=
  { options with top, skip }

theorem truth_combined (scope filter : Option Predicate) (source : RowSource) :
    (∀ predicate, combined scope filter = some predicate → predicate.truth source = some true) ↔
      (∀ predicate, scope = some predicate → predicate.truth source = some true) ∧
        ∀ predicate, filter = some predicate → predicate.truth source = some true := by
  rcases scope with _ | restriction <;> rcases filter with _ | filter <;>
    simp [combined, Truth.and_eq_true_iff]

def assembled (options : QueryOptions) (paging : Paging) (scope filter : Option Predicate)
    (keys : List SortKey) (select : Option (List String)) : QueryPlan where
  predicate := combined scope filter
  sort := keys
  offset := options.skip.getD 0
  limit := min (options.top.getD paging.defaultTop) paging.maxTop
  select := select
  expand := options.expand
  count := options.count

theorem plan_eq_ok_iff : options.plan context paging scope = .ok plan ↔
    ∃ filter, options.filter.mapM (fun filter => filter.predicate context) = .ok filter ∧
      ∃ keys, sortKeys context options.order = .ok keys ∧
        ∃ select, options.select.mapM (selection context.root) = .ok select ∧
          options.assembled paging scope filter keys select = plan := by
  simp only [QueryOptions.plan, bind_eq_ok_iff, pure, Except.pure, Except.ok.injEq]
  rfl

theorem selects_iff_matches (accepted : options.plan context paging scope = .ok plan)
    {tables : Tables} {kind : EntityKind} {entity : kind.Entity} :
    plan.selects tables kind entity = true ↔
      options.Matches context scope (tables.source kind entity) := by
  obtain ⟨filter, filterCompiled, keys, -, select, -, rfl⟩ := plan_eq_ok_iff.1 accepted
  rw [QueryPlan.selects_iff, assembled, truth_combined, Matches]
  refine and_congr_right fun _ => ?_
  cases given : options.filter with
  | none =>
    rw [given] at filterCompiled
    cases filterCompiled
    simp
  | some expression =>
    rw [given, Option.mapM_some] at filterCompiled
    cases compiled : expression.predicate context <;> rw [compiled] at filterCompiled <;>
      cases filterCompiled
    simp [congrFun (Expression.truth_eq_of_predicate compiled) _]

theorem plan_onPage (accepted : options.plan context paging scope = .ok plan)
    (top skip : Option Nat) :
    (options.onPage top skip).plan context paging scope =
      .ok { plan with
        offset := skip.getD 0
        limit := min (top.getD paging.defaultTop) paging.maxTop } := by
  obtain ⟨filter, filterCompiled, keys, keysCompiled, select, selectCompiled, rfl⟩ :=
    plan_eq_ok_iff.1 accepted
  exact plan_eq_ok_iff.2
    ⟨filter, filterCompiled, keys, keysCompiled, select, selectCompiled, rfl⟩

def page (options : QueryOptions) (tables : Tables) (kind : EntityKind) (paging : Paging)
    (now : Instant) (scope : Option Predicate) : Except Failure (Page kind) := do
  let plan ← options.planFor kind paging now scope
  return plan.run tables kind

/-- A list answers a query when it holds every match once, in the order of the sort expressions, and
matches that tie in all of them in that of their identifiers. -/
structure Answers (options : QueryOptions) (context : QueryContext) (scope : Option Predicate)
    (tables : Tables) (kind : EntityKind) (answer : List kind.Entity) : Prop where
  matching : ∀ entity, entity ∈ answer ↔
    tables.find? kind (kind.idOf entity) = some entity ∧
      options.Matches context scope (tables.source kind entity)
  distinct : (answer.map kind.idOf).Nodup
  sorted : answer.Pairwise fun earlier later =>
    (context.compareRows options.order (tables.source kind earlier)
      (tables.source kind later)).then
        (compare (kind.idOf earlier).text (kind.idOf later).text) = .lt

theorem Answers.unique {tables : Tables} {kind : EntityKind} {answer other : List kind.Entity}
    (left : options.Answers context scope tables kind answer)
    (right : options.Answers context scope tables kind other) : other = answer := by
  have same : other.Perm answer :=
    (List.perm_ext_iff_of_nodup right.distinct.of_map left.distinct.of_map).2 fun entity =>
      (right.matching entity).trans (left.matching entity).symm
  refine List.Perm.eq_of_pairwise (fun first second _ _ before after => ?_) right.sorted left.sorted
    same
  have swapped := congrArg Ordering.swap before
  rw [Ordering.swap_then, context.compareRows_swap, ← Std.OrientedCmp.eq_swap, after] at swapped
  contradiction

/-- Matches are told apart by their identifiers, so none of them tie. -/
theorem sorted_matched (accepted : options.plan context paging scope = .ok plan)
    (tables : Tables) (kind : EntityKind) :
    (plan.matched tables kind).Pairwise fun earlier later =>
      (context.compareRows options.order (tables.source kind earlier)
        (tables.source kind later)).then
          (compare (kind.idOf earlier).text (kind.idOf later).text) = .lt := by
  have compiled : sortKeys context options.order = .ok plan.sort := by
    obtain ⟨_, _, _, compiled, _, _, rfl⟩ := plan_eq_ok_iff.1 accepted
    exact compiled
  have distinct := List.pairwise_map.1 (plan.nodup_matched tables kind)
  refine (plan.matched_ordered tables kind).imp₂ (fun left right ordered different => ?_) distinct
  rw [← compareBy_sortKeys compiled]
  cases order : SortKey.compareBy plan.sort (tables.source kind left) (tables.source kind right)
  case lt => rfl
  case eq =>
    rw [compareBy_sortKeys compiled, Ordering.then_eq_eq] at order
    exact absurd (congrArg EntityId.mk (Std.LawfulEqOrd.eq_of_compare order.2)) different
  case gt => exact absurd order ordered

theorem answers_matched (accepted : options.plan context paging scope = .ok plan)
    (tables : Tables) (kind : EntityKind) :
    options.Answers context scope tables kind (plan.matched tables kind) where
  matching entity := by rw [QueryPlan.mem_matched_iff, selects_iff_matches accepted]
  distinct := plan.nodup_matched tables kind
  sorted := sorted_matched accepted tables kind

theorem planFor_eq_ok_iff {kind : EntityKind} {now : Instant} :
    options.planFor kind paging now scope = .ok plan ↔
      ∃ root, kind.propertyMap? = some root ∧
        options.plan ⟨EntityKind.schema, root, now⟩ paging scope = .ok plan := by
  rw [planFor]
  cases kind.propertyMap? with
  | none => simp
  | some root =>
    cases compiled : options.plan ⟨EntityKind.schema, root, now⟩ paging scope <;>
      simp [compiled, Except.mapError]

end QueryOptions

theorem flatMap_stretches {α : Type} (items : List α) (size pages : Nat) :
    ((List.range pages).flatMap fun number => (items.drop (number * size)).take size) =
      items.take (pages * size) := by
  induction pages with
  | zero => simp
  | succ pages ih =>
    rw [List.range_succ, List.flatMap_append, ih, List.flatMap_singleton, Nat.succ_mul,
      List.take_add]

theorem QueryPlan.hasMore_run {plan : QueryPlan} {tables : Tables} {kind : EntityKind} :
    (plan.run tables kind).hasMore = false ↔
      (plan.matched tables kind).drop (plan.offset + (plan.run tables kind).items.length) = [] := by
  rw [List.drop_eq_nil_iff, run]
  simp

namespace QueryOptions

/-- Every accepted query has one answer, and all its pages are stretches of it: the answer does not
depend on the size or the start of a page, more follows a page exactly when matches do, the count is
that of all matches, and the pages of one size from the first on make up the answer. -/
theorem pages_of_planFor {options : QueryOptions} {kind : EntityKind} {paging : Paging}
    {now : Instant} {scope : Option Predicate} {plan : QueryPlan}
    (accepted : options.planFor kind paging now scope = .ok plan) (tables : Tables) :
    ∃ root answer, kind.propertyMap? = some root ∧
      options.Answers ⟨EntityKind.schema, root, now⟩ scope tables kind answer ∧
      (∀ other, options.Answers ⟨EntityKind.schema, root, now⟩ scope tables kind other →
        other = answer) ∧
      (∀ top skip, ∃ page,
        (options.onPage top skip).page tables kind paging now scope = .ok page ∧
        page.items = (answer.drop (skip.getD 0)).take
          (min (top.getD paging.defaultTop) paging.maxTop) ∧
        (page.hasMore = false ↔ answer.drop (skip.getD 0 + page.items.length) = []) ∧
        page.total = if options.count then some answer.length else none) ∧
      ∀ size count, size ≤ paging.maxTop → answer.length ≤ count * size →
        ∃ pages,
          ((List.range count).mapM fun number =>
            (options.onPage (some size) (some (number * size))).page tables kind paging now
              scope) = .ok pages ∧
          pages.flatMap Page.items = answer := by
  obtain ⟨root, queryable, compiled⟩ := planFor_eq_ok_iff.1 accepted
  have paged (top skip : Option Nat) :
      (options.onPage top skip).page tables kind paging now scope = .ok (QueryPlan.run
        { plan with
          offset := skip.getD 0
          limit := min (top.getD paging.defaultTop) paging.maxTop } tables kind) := by
    rw [page, bind_eq_ok_iff]
    exact ⟨_, planFor_eq_ok_iff.2
      ⟨root, queryable, plan_onPage compiled top skip⟩, rfl⟩
  have answers := answers_matched compiled tables kind
  refine ⟨root, plan.matched tables kind, queryable, answers, fun _ => answers.unique,
    fun top skip => ⟨_, paged top skip, rfl, QueryPlan.hasMore_run, ?_⟩,
    fun size count small whole => ?_⟩
  · obtain ⟨_, _, _, _, _, _, rfl⟩ := plan_eq_ok_iff.1 compiled
    rfl
  · simp only [paged]
    refine ⟨_, List.mapM_pure, ?_⟩
    rw [List.flatMap_map]
    simp only [Option.getD_some, Nat.min_eq_left small]
    exact (flatMap_stretches ..).trans (List.take_of_length_le whole)

open Expression (dayAfter)

/-- Streams that ended before now and are not on the roof, the latest first. -/
def latestElsewhere : QueryOptions where
  filter := some .endedElsewhere
  order := [(.member ["phenomenonTime"], true)]
  count := true

def newYearAt (id thing : String) (hour : Instant) : Datastream :=
  ⟨⟨id⟩, "n", "d", .text, ⟨"u"⟩, ⟨"f"⟩, ⟨thing⟩, ⟨"s"⟩, ⟨"p"⟩, some (.point hour), none, none⟩

def noon : Instant :=
  ⟨⟨1970, 1, 1, rfl⟩, ⟨12 * 3600, 0, by decide⟩⟩

def early : Datastream := newYearAt "a" "g" default
def onRoof : Datastream := newYearAt "b" "r" noon
def alsoEarly : Datastream := newYearAt "c" "g" default
def late : Datastream := newYearAt "d" "g" noon

def gardenAndRoof : Tables :=
  let garden : Thing := ⟨⟨"g"⟩, "garden", "d", none, []⟩
  let roof : Thing := ⟨⟨"r"⟩, "roof", "d", none, []⟩
  let things := (({} : Tables).put .thing garden).put .thing roof
  [alsoEarly, early, late, onRoof].foldl (fun tables stream => tables.put .datastream stream) things

theorem entities_gardenAndRoof :
    gardenAndRoof.entities .datastream = [early, onRoof, alsoEarly, late] := rfl

theorem latestElsewhere_answers {root : PropertyMap}
    (queryable : EntityKind.datastream.propertyMap? = some root) :
    latestElsewhere.Answers ⟨EntityKind.schema, root, dayAfter⟩ none gardenAndRoof .datastream
      [late, early, alsoEarly] := by
  cases queryable
  refine ⟨fun entity => ?_, by decide, by decide +kernel⟩
  rw [← Tables.mem_entities_iff, entities_gardenAndRoof]
  simp only [List.mem_cons, List.not_mem_nil, or_false]
  constructor
  · rintro (rfl | rfl | rfl)
    all_goals
      refine ⟨by simp, nofun, ?_⟩
      rintro _ ⟨⟩
      decide +kernel
  · rintro ⟨rfl | rfl | rfl | rfl, -, matching⟩
    · simp
    · exact absurd (matching _ rfl) (by decide +kernel)
    · simp
    · simp

theorem pages_of_planFor_latestElsewhere :
    ∃ plan first second, latestElsewhere.planFor .datastream {} dayAfter none = .ok plan ∧
      (latestElsewhere.onPage (some 2) (some 0)).page gardenAndRoof .datastream {} dayAfter none =
        .ok first ∧
      first.items = [late, early] ∧ first.hasMore = true ∧ first.total = some 3 ∧
      (latestElsewhere.onPage (some 2) (some 2)).page gardenAndRoof .datastream {} dayAfter none =
        .ok second ∧
      second.items = [alsoEarly] ∧ second.hasMore = false ∧ second.total = some 3 := by
  obtain ⟨root, answer, queryable, -, unique, pages, -⟩ := pages_of_planFor
    (rfl : latestElsewhere.planFor .datastream {} dayAfter none = .ok _) gardenAndRoof
  obtain rfl := unique _ (latestElsewhere_answers queryable)
  obtain ⟨first, firstPage, firstItems, firstMore, firstTotal⟩ := pages (some 2) (some 0)
  obtain ⟨second, secondPage, secondItems, secondMore, secondTotal⟩ := pages (some 2) (some 2)
  refine ⟨_, first, second, rfl, firstPage, firstItems, ?_, firstTotal, secondPage, secondItems, ?_,
    secondTotal⟩
  · rw [← Bool.not_eq_false, firstMore, firstItems]
    decide
  · rw [secondMore, secondItems]
    decide

end QueryOptions

end SensorThings
