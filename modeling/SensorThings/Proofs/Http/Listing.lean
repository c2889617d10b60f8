import SensorThings.Proofs.Http.Links
import SensorThings.Proofs.Http.Resources
import SensorThings.Proofs.Json.Members

/-!
Pages that clients read: what their documents hold, and what the link to the next page asks for.
-/
namespace SensorThings

/-- A path leads to the entities of a kind, or to those of them in a scope. -/
inductive Tables.Lists (tables : Tables) (path : String) : EntityKind → Option Predicate → Prop
  | collection {kind : EntityKind} (leads : Resource.ofPath? path = some (.collection kind)) :
      Lists tables path kind none
  | related {parent child : EntityKind} {id : EntityId} {scope : Predicate}
      (leads : Resource.ofPath? path = some (.related parent id child false))
      (relates : tables.scope parent id child = .ok scope) : Lists tables path child (some scope)

namespace Resource

theorem mem_trimSlashes {path : List Char} {character : Char} (member : character ∈ path) :
    character = '/' ∨ character ∈ trimSlashes path := by
  have dropped {text : List Char} (member : character ∈ text) :
      character = '/' ∨ character ∈ text.dropWhile (· == '/') := by
    rw [← List.takeWhile_append_dropWhile (p := (· == '/')) (l := text), List.mem_append] at member
    refine member.imp_left fun slash => ?_
    simpa using List.mem_takeWhile_imp slash
  rcases dropped member with slash | inside
  · exact .inl slash
  · rw [trimSlashes, List.mem_reverse]
    exact dropped (List.mem_reverse.2 inside)

theorem segment?_eq_name {text : List Char} {name : String}
    (read : segment? text = some (name, none)) : text = name.toList := by
  rw [segment?] at read
  split at read
  next => cases read; rw [String.toList_ofList]
  next =>
    simp only [Option.bind_eq_bind, Option.bind_eq_some_iff] at read
    obtain ⟨_, -, read⟩ := read
    split at read <;> cases read

theorem trimSlashes_of_collection {path : String} {kind : EntityKind}
    (leads : ofPath? path = some (.collection kind)) :
    ∃ name, EntityKind.ofCollection? name = some kind ∧
      trimSlashes path.toList = name.toList := by
  have whole := Text.join_splitAt '/' (trimSlashes path.toList)
  have reading := reading_of_ofPath? leads
  generalize Text.splitAt '/' (trimSlashes path.toList) = pieces at whole reading
  cases reading with
  | collection read known => exact ⟨_, known, whole.symm.trans (segment?_eq_name read)⟩

theorem isPublic_of_related {path : String} {parent child : EntityKind} {id : EntityId}
    (leads : ofPath? path = some (.related parent id child false)) : child.isPublic = true := by
  have reading := reading_of_ofPath? leads
  generalize Text.splitAt '/' (trimSlashes path.toList) = pieces at reading
  cases reading with
  | related _ _ relates =>
    rw [relation?] at relates
    split at relates
    next found =>
      cases relates
      exact EntityKind.isPublic_of_ofCollection? found
    next =>
      split at relates
      next => split at relates <;> cases relates
      next => contradiction

end Resource

namespace Tables.Lists

variable {tables : Tables} {path : String} {kind : EntityKind} {scope : Option Predicate}

theorem isPublic (lists : tables.Lists path kind scope) : kind.isPublic = true := by
  cases lists with
  | collection leads =>
    obtain ⟨_, found, -⟩ := Resource.trimSlashes_of_collection leads
    exact EntityKind.isPublic_of_ofCollection? found
  | related leads => exact Resource.isPublic_of_related leads

theorem isPlainPath (lists : tables.Lists path kind scope)
    (plain : scope ≠ none → Address.IsPlainPath path) : Address.IsPlainPath path := by
  cases lists with
  | related => exact plain nofun
  | collection leads =>
    obtain ⟨name, found, whole⟩ := Resource.trimSlashes_of_collection leads
    have free {character : Char} (notSlash : character ≠ '/')
        (notNamed : ∀ kind name, EntityKind.collection? kind = some name →
          character ∉ name.toList) : character ∉ path.toList := by
      intro member
      have inside := (Resource.mem_trimSlashes member).resolve_left notSlash
      rw [whole] at inside
      exact notNamed _ _ (EntityKind.collection?_of_ofCollection? found) inside
    refine ⟨free (by decide) ?_, free (by decide) ?_,
      Text.isLiteral_of_not_mem (free (by decide) ?_)⟩ <;>
    · intro kind name named
      cases kind <;> cases named <;> decide

end Tables.Lists

theorem QueryOptions.planFor_of_unfiltered {options : QueryOptions}
    (unfiltered : options.filter = none) (kind : EntityKind) (paging : Paging)
    (now later : Instant) (scope : Option Predicate) :
    options.planFor kind paging now scope = options.planFor kind paging later scope := by
  have columns (root : PropertyMap) (expression : Expression) :
      expression.sortColumns ⟨EntityKind.schema, root, now⟩ =
        expression.sortColumns ⟨EntityKind.schema, root, later⟩ := by
    cases expression <;> rfl
  rw [planFor, planFor]
  cases kind.propertyMap? with
  | none => rfl
  | some root =>
    dsimp only
    rw [plan, plan, unfiltered, sortKeys, sortKeys]
    simp only [columns]
    rfl

namespace Server

variable {server : Server} {tables : Tables} {path : String} {kind : EntityKind}
  {scope : Option Predicate} {parameters : List (String × String)} {options : QueryOptions}
  {plan : QueryPlan} {document : Json}

def pageDocument (server : Server) (path : String) (parameters : List (String × String))
    (plan : QueryPlan) (page : Page kind) (value : List Json) : Json :=
  .ofMembers
    (Json.present "@iot.count" (fun total => .int (Nat.cast total)) page.total ++
      (if page.hasMore then
        [("@iot.nextLink", .string
          (pageLink server.base path parameters plan.limit (plan.offset + page.items.length)))]
      else []) ++
      [("value", .array value)])

@[simp] theorem member?_value (page : Page kind) (value : List Json) :
    (server.pageDocument path parameters plan page value).member? "value" =
      some (.array value) := by
  rw [pageDocument, Json.member?_ofMembers, List.reverse_append, List.reverse_singleton,
    List.singleton_append, Json.lookup_cons, if_pos rfl]

theorem member?_nextLink (page : Page kind) (value : List Json) :
    (server.pageDocument path parameters plan page value).member? "@iot.nextLink" =
      if page.hasMore then some (.string
        (pageLink server.base path parameters plan.limit (plan.offset + page.items.length)))
      else none := by
  have notValue : "@iot.nextLink" ≠ "value" := by decide
  have notCount : "@iot.nextLink" ≠ "@iot.count" := by decide
  rw [pageDocument, Json.member?_ofMembers, List.reverse_append, List.reverse_append,
    List.lookup_append, List.lookup_append, Json.lookup_present, List.reverse_singleton,
    Json.lookup_cons, if_neg notValue, List.lookup_nil, Option.none_or, if_neg notCount,
    Option.or_none]
  split
  next => rw [List.reverse_singleton, Json.lookup_cons, if_pos rfl]
  next => rfl

theorem collection_eq_ok_iff :
    server.collection tables options kind scope path parameters = .ok document ↔
      ∃ plan value, options.planFor kind server.config.paging server.now scope = .ok plan ∧
        (plan.run tables kind).ids.mapM (server.entity tables options kind) = .ok value ∧
        server.pageDocument path parameters plan (plan.run tables kind) value = document := by
  simp only [collection, bind_eq_ok_iff]
  constructor
  · rintro ⟨plan, planned, value, shown, done⟩
    cases done
    exact ⟨plan, value, planned, shown, rfl⟩
  · rintro ⟨plan, value, planned, shown, rfl⟩
    exact ⟨plan, planned, value, shown, rfl⟩

theorem read_eq_ok_iff (lists : tables.Lists path kind scope) :
    server.read tables path parameters = .ok document ↔
      ∃ options plan value, QueryOptions.ofParameters parameters = .ok options ∧
        options.planFor kind server.config.paging server.now scope = .ok plan ∧
        (plan.run tables kind).ids.mapM (server.entity tables options kind) = .ok value ∧
        server.pageDocument path parameters plan (plan.run tables kind) value = document := by
  have read : server.read tables path parameters = (do
      let options ← QueryOptions.ofParameters parameters
      server.collection tables options kind scope path parameters) := by
    cases lists with
    | collection leads =>
      rw [Server.read, Resource.ofPath, leads]
      rfl
    | related leads relates =>
      rw [Server.read, Resource.ofPath, leads]
      cases QueryOptions.ofParameters parameters with
      | error => rfl
      | ok options =>
        change (tables.scope _ _ kind >>= _) = _
        rw [relates]
        rfl
  simp only [read, bind_eq_ok_iff, collection_eq_ok_iff, exists_and_left]

theorem exists_entity (visible : kind.isPublic = true) {id : EntityId} {entity : kind.Entity}
    (found : tables.find? kind id = some entity) (options : QueryOptions) :
    ∃ document, server.entity tables options kind id = .ok document := by
  rw [Server.entity, Tables.representation, if_pos visible, Tables.get, found]
  cases options.select <;> exact ⟨_, rfl⟩

theorem exists_shown (visible : kind.isPublic = true) {entities : List kind.Entity}
    (matching : ∀ entity ∈ entities, entity ∈ plan.matched tables kind) (options : QueryOptions) :
    ∃ value, (entities.map kind.idOf).mapM (server.entity tables options kind) = .ok value := by
  induction entities with
  | nil => exact ⟨_, rfl⟩
  | cons entity rest ih =>
    rw [List.forall_mem_cons] at matching
    obtain ⟨document, shown⟩ : ∃ document,
        server.entity tables options kind (kind.idOf entity) = .ok document :=
      exists_entity visible (QueryPlan.mem_matched_iff.1 matching.1).1 options
    obtain ⟨others, later⟩ := ih matching.2
    refine ⟨document :: others, ?_⟩
    rw [List.map_cons, List.mapM_cons, bind_eq_ok_iff]
    exact ⟨document, shown, bind_eq_ok_iff.2 ⟨others, later, rfl⟩⟩

theorem plan_eq (planned : options.planFor kind server.config.paging server.now scope = .ok plan) :
    plan.limit = min (options.top.getD server.config.paging.defaultTop)
      server.config.paging.maxTop ∧ plan.offset = options.skip.getD 0 := by
  obtain ⟨_, -, planned⟩ := QueryOptions.planFor_eq_ok_iff.1 planned
  obtain ⟨_, _, _, _, _, _, rfl⟩ := QueryOptions.plan_eq_ok_iff.1 planned
  exact ⟨rfl, rfl⟩

theorem page_fits (planned : options.planFor kind server.config.paging server.now scope = .ok plan)
    (more : (plan.run tables kind).hasMore = true)
    (bounded : server.config.maxTop ≤ Text.maxUnsigned)
    (stored : (tables.entities kind).length ≤ Text.maxUnsigned) :
    plan.limit ≤ Text.maxUnsigned ∧
      plan.offset + (plan.run tables kind).items.length ≤ Text.maxUnsigned := by
  constructor
  · rw [(plan_eq planned).1]
    exact (Nat.min_le_right ..).trans (Nat.max_le.2 ⟨bounded, by decide⟩)
  · have inside : plan.offset + (plan.run tables kind).items.length <
        (plan.matched tables kind).length := by
      simpa [QueryPlan.run] using more
    have matched := (plan.matched_perm tables kind).length_eq
    have kept := List.length_filter_le (plan.selects tables kind) (tables.entities kind)
    omega

/-- The link to the next page asks for the query of the request, from the end of the page on. -/
theorem nextLink_repeats (lists : tables.Lists path kind scope)
    (answered : server.read tables path parameters = .ok document) {link : String}
    (more : document.member? "@iot.nextLink" = some (.string link))
    (plainPath : scope ≠ none → Address.IsPlainPath path)
    (plain : ∀ parameter ∈ parameters, Address.IsPlainParameter parameter)
    (distinct : (parameters.map Prod.fst).Nodup)
    (bounded : server.config.maxTop ≤ Text.maxUnsigned)
    (stored : (tables.entities kind).length ≤ Text.maxUnsigned) :
    ∃ options value others, QueryOptions.ofParameters parameters = .ok options ∧
      document.member? "value" = some (.array value) ∧
      Address.request? server.base link = some (path, others) ∧
      QueryOptions.ofParameters others = .ok (options.onPage
        (some (min (options.top.getD server.config.paging.defaultTop) server.config.paging.maxTop))
        (some (options.skip.getD 0 + value.length))) := by
  obtain ⟨options, plan, value, accepted, planned, shown, rfl⟩ := (read_eq_ok_iff lists).1 answered
  obtain ⟨limit, offset⟩ := plan_eq planned
  have length : value.length = (plan.run tables kind).items.length := by
    rw [← (mapM_eq_ok_iff.1 shown).length_eq, Page.ids, List.length_map]
  rw [member?_nextLink, Option.ite_none_right_eq_some] at more
  obtain ⟨more, written⟩ := more
  cases written
  obtain ⟨limitFits, endFits⟩ := page_fits planned more bounded stored
  refine ⟨options, value, Address.turned parameters plan.limit _, accepted, member?_value ..,
    Address.request?_pageLink (lists.isPlainPath plainPath) plain distinct, ?_⟩
  rw [Address.ofParameters_turned accepted distinct limitFits endFits, limit, offset, length]

end Server

/-! Two things, and a request for one of them. -/
namespace TwoThings

def first : Thing := ⟨⟨"a"⟩, "a", "d", none, []⟩

def second : Thing := ⟨⟨"b"⟩, "b", "d", none, []⟩

def tables : Tables := (({} : Tables).put .thing first).put .thing second

def server : Server := ⟨"http://h/v1.1", ⟨default, {}, fun _ => ⟨"x"⟩⟩⟩

def parameters : List (String × String) := [("$orderby", "name desc"), ("$top", "1")]

def options : QueryOptions where
  order := [(.member ["name"], true)]
  top := some 1

theorem accepted : QueryOptions.ofParameters parameters = .ok options := by
  rfl

theorem lists : tables.Lists "Things" .thing none := .collection rfl

def plan : QueryPlan where
  predicate := none
  sort := [⟨.here "name", true⟩, QueryPlan.byIdentifier]
  offset := 0
  limit := 1
  select := none
  expand := []
  count := false

theorem planned :
    options.planFor .thing server.config.paging server.now none = .ok plan := rfl

theorem length_matched : (plan.matched tables .thing).length = 2 :=
  (plan.matched_perm tables .thing).length_eq

theorem plain : ∀ parameter ∈ parameters, Address.IsPlainParameter parameter :=
  List.forall_mem_cons.2
    ⟨⟨Address.isPlain_of_not_mem (by decide), by decide, Address.isPlain_of_not_mem (by decide)⟩,
      List.forall_mem_singleton.2 ⟨Address.isPlain_of_not_mem (by decide), by decide,
        Address.isPlain_of_not_mem (by decide)⟩⟩

theorem answered : ∃ document link, server.read tables "Things" parameters = .ok document ∧
    document.member? "@iot.nextLink" = some (.string link) := by
  obtain ⟨value, shown⟩ : ∃ value,
      (plan.run tables .thing).ids.mapM (server.entity tables options .thing) = .ok value :=
    Server.exists_shown lists.isPublic
      (fun _ member => List.mem_of_mem_drop (List.mem_of_mem_take member)) options
  have more : (plan.run tables .thing).hasMore = true := by
    change decide (0 + (((plan.matched tables .thing).drop 0).take 1).length <
      (plan.matched tables .thing).length) = true
    rw [List.length_take, List.drop_zero, length_matched]
    rfl
  exact ⟨_, _, (Server.read_eq_ok_iff lists).2
    ⟨options, plan, value, accepted, planned, shown, rfl⟩,
    (Server.member?_nextLink ..).trans (if_pos more)⟩

end TwoThings

namespace Server

open TwoThings in
/-- The link to the second thing asks for it, in the order of the request. -/
theorem nextLink_repeats_two_things :
    ∃ document link others, server.read tables "Things" parameters = .ok document ∧
      document.member? "@iot.nextLink" = some (.string link) ∧
      Address.request? server.base link = some ("Things", others) ∧
      ∃ skip, QueryOptions.ofParameters others = .ok (options.onPage (some 1) (some skip)) := by
  obtain ⟨document, link, read, more⟩ := answered
  obtain ⟨_, _, others, same, -, asked, reread⟩ := nextLink_repeats lists read more nofun plain
    (by decide) (by decide) (by decide)
  cases accepted.symm.trans same
  exact ⟨document, link, others, read, more, asked, _, reread⟩

end Server

end SensorThings
