import SensorThings.Http.Routing
import SensorThings.Proofs.Change.Navigation
import SensorThings.Proofs.Change.Reachable
import SensorThings.Proofs.Http.Listing

/-!
Requests for the one entity that a relation leads to. They are answered through a page of all
entities in the scope of the relation; the scope holds just the entity that the parent refers to,
which is there in every store that is reached.
-/
namespace SensorThings

namespace EntityKind

/-- A relation to one entity is named after the kind of the entity, and navigation along it looks
for the identifier that the parent keeps. -/
structure LeadsTo (parent : EntityKind) (entity : parent.Entity) (relation : String)
    (child : EntityKind) (target : EntityId) : Prop where
  listed : relation ∈ parent.relations
  named : Resource.relation? relation = some (child, true)
  visible : child.isPublic = true
  navigation : ∃ related, parent.navigation? child = some related ∧
    ∀ tables, related tables entity = .oneOf [target]
  linked : ∀ tables, parent.LinksHold tables entity → tables.contains child target = true

theorem exists_leadsTo {parent : EntityKind} (visible : parent.isPublic = true)
    {entity : parent.Entity} {relation : String} {target : EntityId}
    (points : parent.related? entity relation = some target) :
    ∃ child, child.name = relation ∧ parent.LeadsTo entity relation child target := by
  unfold related? at points
  split at points <;> cases points
  · exact ⟨.thing, rfl, by decide, rfl, rfl, ⟨_, rfl, fun _ => rfl⟩,
      fun _ links => links.thing⟩
  · exact ⟨.thing, rfl, by decide, rfl, rfl, ⟨_, rfl, fun _ => rfl⟩,
      fun _ links => links.thing⟩
  · exact ⟨.sensor, rfl, by decide, rfl, rfl, ⟨_, rfl, fun _ => rfl⟩,
      fun _ links => links.sensor⟩
  · exact ⟨.observedProperty, rfl, by decide, rfl, rfl, ⟨_, rfl, fun _ => rfl⟩,
      fun _ links => links.observedProperty⟩
  · exact ⟨.datastream, rfl, by decide, rfl, rfl, ⟨_, rfl, fun _ => rfl⟩,
      fun _ links => links.datastream⟩
  · exact ⟨.featureOfInterest, rfl, by decide, rfl, rfl, ⟨_, rfl, fun _ => rfl⟩,
      fun _ links => links.feature⟩
  all_goals contradiction

theorem LeadsTo.scope_eq {parent child : EntityKind} {entity : parent.Entity} {relation : String}
    {target : EntityId} (leads : parent.LeadsTo entity relation child target) {tables : Tables}
    {id : EntityId} (found : tables.find? parent id = some entity) :
    tables.scope parent id child = .ok (.oneOf [target]) := by
  obtain ⟨related, navigable, isOne⟩ := leads.navigation
  rw [Tables.scope, navigable, Tables.get, found, ← isOne tables]
  rfl

end EntityKind

namespace Resource

theorem ofPath?_cons_slash (text : List Char) :
    ofPath? (String.ofList ('/' :: text)) = ofPath? (String.ofList text) := by
  have same : trimSlashes ('/' :: text) = trimSlashes text := by
    rw [trimSlashes, trimSlashes, List.dropWhile_cons_of_pos (by rfl)]
  rw [ofPath?, ofPath?, String.toList_ofList, String.toList_ofList, same]

end Resource

@[simp] theorem Route.ofPath?_resource {path : String} (inhabited : path ≠ "") :
    ofPath? ("/v1.1/" ++ path) = some (.resource path) := by
  unfold ofPath?
  split
  case h_6 => simp
  all_goals
    next same => exact absurd (by simpa using congrArg String.toList same) inhabited

namespace QueryPlan

variable {tables : Tables} {kind : EntityKind} {id : EntityId}

theorem matched_oneOf {entity : kind.Entity} (found : tables.find? kind id = some entity)
    {plan : QueryPlan} (restricted : plan.predicate = some (.oneOf [id])) :
    plan.matched tables kind = [entity] := by
  obtain rfl := Tables.idOf_of_find? found
  rw [← List.perm_singleton, List.perm_ext_iff_of_nodup (plan.nodup_matched tables kind).of_map
    (List.nodup_singleton entity)]
  intro row
  rw [mem_matched_iff, selects, restricted, List.mem_singleton]
  dsimp only
  rw [Tables.selects_oneOf, List.mem_singleton]
  constructor
  · rintro ⟨here, same⟩
    rw [same, found] at here
    exact (Option.some.inj here).symm
  · rintro rfl
    exact ⟨found, rfl⟩

theorem ids_run_oneOf (there : tables.contains kind id = true) (limit : Nat) :
    ({ ofPredicate (.oneOf [id]) with limit }.run tables kind).ids =
      if limit = 0 then [] else [id] := by
  obtain ⟨entity, found⟩ := Tables.contains_iff.1 there
  rw [run, matched_oneOf found rfl, Page.ids, ofPredicate, List.drop_zero]
  cases limit with
  | zero => rfl
  | succ size =>
    rw [List.take_succ_cons, List.take_nil, List.map_singleton, Tables.idOf_of_find? found]
    rfl

theorem planFor_standard (visible : kind.isPublic = true) (paging : Paging) (now : Instant)
    (scope : Predicate) :
    ({} : QueryOptions).planFor kind paging now (some scope) =
      .ok { ofPredicate scope with limit := min paging.defaultTop paging.maxTop } := by
  cases kind <;> first | rfl | contradiction

end QueryPlan

namespace Server

variable {server : Server} {tables : Tables} {options : QueryOptions}

theorem relatedEntity_eq {parent child : EntityKind} {id target : EntityId}
    (visible : child.isPublic = true) (there : tables.contains child target = true) :
    server.relatedEntity tables options parent id child (.oneOf [target]) =
      if server.config.defaultTop = 0 then .error (.noneRelated parent id child)
      else server.entity tables options child target := by
  have size : min server.config.paging.defaultTop server.config.paging.maxTop = 0 ↔
      server.config.defaultTop = 0 := by
    simp only [Config.paging]
    omega
  simp only [relatedEntity, QueryPlan.planFor_standard visible, bind, Except.bind,
    QueryPlan.ids_run_oneOf there, size]
  by_cases nothing : server.config.defaultTop = 0
  · simp only [if_pos nothing]
    rfl
  · simp only [if_neg nothing]

theorem handle_get {store : Store} {path : String} (inhabited : path ≠ "")
    (parameters : List (String × String)) (body : String) :
    server.handle store ⟨.get, "/v1.1/" ++ path, parameters, body⟩ =
      (match server.read store.tables path parameters with
        | .ok document => .ok document
        | .error failure => .refusal failure, store) := by
  rw [handle, Route.ofPath?_resource inhabited]
  dsimp only
  rw [handleResource, get]
  cases server.read store.tables path parameters <;> rfl

theorem handle_get_unknown {store : Store} {path : String} (inhabited : path ≠ "")
    (unknown : Resource.ofPath? path = none) (parameters : List (String × String))
    (body : String) :
    server.handle store ⟨.get, "/v1.1/" ++ path, parameters, body⟩ =
      (.refusal (.unknownPath path), store) := by
  rw [handle_get inhabited, read, Resource.ofPath, unknown]
  rfl

theorem handle_get_related {store : Store} {path : String} {parameters : List (String × String)}
    {parent child : EntityKind} {id target : EntityId} {document : Json}
    (leads : Resource.ofPath? path = some (.related parent id child true))
    (accepted : QueryOptions.ofParameters parameters = .ok options)
    (relates : store.tables.scope parent id child = .ok (.oneOf [target]))
    (visible : child.isPublic = true) (there : store.tables.contains child target = true)
    (shown : server.entity store.tables options child target = .ok document) (body : String) :
    server.handle store ⟨.get, "/v1.1/" ++ path, parameters, body⟩ =
      (if server.config.defaultTop = 0 then .refusal (.noneRelated parent id child)
        else .ok document, store) := by
  have inhabited : path ≠ "" := by
    rintro rfl
    contradiction
  have read : server.read store.tables path parameters =
      server.relatedEntity store.tables options parent id child (.oneOf [target]) := by
    simp only [read, Resource.ofPath, leads, accepted, relates, bind, Except.bind, if_true]
  rw [handle_get inhabited, read, relatedEntity_eq visible there, shown]
  by_cases nothing : server.config.defaultTop = 0
  · rw [if_pos nothing, if_pos nothing]
  · rw [if_neg nothing, if_neg nothing]

/-- In every store that is reached, what an entity refers to through a relation is answered at the
paths of the relation, whatever the settings but one: where pages are empty by default, none is
found. The path that links give is one of them if the identifier is one segment of a path. -/
theorem handle_relation {allowed : ChangeRequest → Prop} {store : Store}
    (reachable : store.Reachable allowed) (server : Server) {parent : EntityKind}
    (visible : parent.isPublic = true) {id : EntityId} {entity : parent.Entity}
    (found : store.tables.find? parent id = some entity) {relation : String} {target : EntityId}
    (points : parent.related? entity relation = some target)
    {parameters : List (String × String)} {options : QueryOptions}
    (accepted : QueryOptions.ofParameters parameters = .ok options) (body : String) :
    ∃ child document, child.name = relation ∧
      server.entity store.tables options child target = .ok document ∧
      (∀ path, Resource.ofPath? path = some (.related parent id child true) →
        server.handle store ⟨.get, "/v1.1/" ++ path, parameters, body⟩ =
          (if server.config.defaultTop = 0 then .refusal (.noneRelated parent id child)
            else .ok document, store)) ∧
      let path := String.ofList (parent.segment id ++ '/' :: relation.toList)
      if id.IsAddressable then Resource.ofPath? path = some (.related parent id child true)
      else server.handle store ⟨.get, "/v1.1/" ++ path, parameters, body⟩ =
        (.refusal (.unknownPath path), store) := by
  obtain ⟨child, named, leads⟩ := EntityKind.exists_leadsTo visible points
  have there := leads.linked store.tables (reachable.linked parent id entity found)
  obtain ⟨row, rowFound⟩ := Tables.contains_iff.1 there
  obtain ⟨document, shown⟩ : ∃ document,
      server.entity store.tables options child target = .ok document :=
    exists_entity leads.visible rowFound options
  refine ⟨child, document, named, shown, fun path isPath => handle_get_related isPath accepted
    (leads.scope_eq found) leads.visible there shown body, ?_⟩
  have canonical := Resource.ofPath?_relation visible id leads.listed leads.named
  rw [List.cons_append, Resource.ofPath?_cons_slash] at canonical
  dsimp only
  split
  next addressable => rw [canonical, if_pos addressable]
  next notAddressable =>
    rw [if_neg notAddressable] at canonical
    exact handle_get_unknown (by simp) canonical parameters body

end Server

def FirstObservation.server : Server :=
  ⟨"http://h/v1.1", environment⟩

namespace Server

/-- The datastream of the first observation. -/
theorem handle_relation_first_observation :
    ∃ (observation : Observation) (document : Json),
      FirstObservation.store.tables.find? .observation (FirstObservation.environment.fresh 7) =
        some observation ∧
      FirstObservation.server.entity FirstObservation.store.tables {} .datastream
        observation.datastream = .ok document ∧
      FirstObservation.server.handle FirstObservation.store
        ⟨.get, "/v1.1/Observations('+++++++')/Datastream", [], ""⟩ =
        (.ok document, FirstObservation.store) := by
  obtain ⟨observation, found⟩ := Tables.contains_iff.1 FirstObservation.observed
  have reached : FirstObservation.store.Reachable fun _ => True :=
    FirstObservation.reachable trivial
  have points : EntityKind.observation.related? observation "Datastream" =
      some (Observation.datastream observation) := rfl
  have accepted : QueryOptions.ofParameters [] = .ok {} := rfl
  obtain ⟨child, document, named, shown, answered, -⟩ :=
    handle_relation reached FirstObservation.server rfl found points accepted ""
  obtain rfl : child = .datastream := by
    revert named
    cases child <;> decide
  exact ⟨observation, document, found, shown,
    answered "Observations('+++++++')/Datastream" (by decide +kernel)⟩

end Server

end SensorThings
