import SensorThings.Proofs.Http.Listing

/-!
Selections of members. A collection takes only names of properties and does not turn them into names
of members; an entity by itself takes any names.
-/
namespace SensorThings

@[simp] theorem Json.member?_keeping (json : Json) (names : List String) (key : String) :
    (json.keeping names).member? key = if key ∈ names then json.member? key else none := by
  cases json with
  | object members =>
    change (members.filter fun member => names.contains member.1).lookup key =
      if key ∈ names then members.lookup key else none
    induction members with
    | nil => simp
    | cons member rest ih =>
      obtain ⟨name, value⟩ := member
      rw [List.filter_cons, lookup_cons]
      by_cases kept : name ∈ names
      · rw [if_pos (by simpa using kept), lookup_cons, ih]
        by_cases same : key = name
        · rw [if_pos same, if_pos same, if_pos (same ▸ kept)]
        · rw [if_neg same, if_neg same]
      · rw [if_neg (by simpa using kept), ih]
        by_cases same : key = name
        · rw [if_neg (same ▸ kept), if_neg (same ▸ kept)]
        · rw [if_neg same]
  | _ => simp [keeping, member?]

namespace EntityKind

/-- The names that a query may select: those of the properties, and that of the identifier in
documents. -/
def selectable (kind : EntityKind) : List String :=
  "@iot.id" :: (kind.properties?.getD []).map Prod.fst

theorem link_not_selectable (kind : EntityKind) :
    ∀ relation ∈ kind.relations, relation ++ "@iot.navigationLink" ∉ kind.selectable := by
  cases kind <;> decide

end EntityKind

section

attribute [local simp] Tables.represent EntityKind.relations List.lookup_append Json.lookup_cons

variable (tables : Tables) (base : String)

@[simp] theorem Tables.member?_id (kind : EntityKind) (entity : kind.Entity) :
    (tables.represent base kind entity).member? "@iot.id" = some (kind.idOf entity).toJson := by
  cases kind <;> simp [ownMembers, Json.free]

theorem Tables.member?_link (kind : EntityKind) (entity : kind.Entity) :
    ∀ relation ∈ kind.relations,
      (tables.represent base kind entity).member? (relation ++ "@iot.navigationLink") =
        some (.string (kind.selfLink base (kind.idOf entity) ++ "/" ++ relation)) := by
  cases kind <;> simp

end

/-- What an accepted selection keeps of an entity: what it names, if it is a member, the identifier
just under its name in documents, and no link of a relation. -/
structure Tables.Keeps (tables : Tables) (base : String) (kind : EntityKind)
    (entity : kind.Entity) (names : List String) : Prop where
  members : ∀ name ∈ names, name ≠ "id" → name ∉ kind.relations →
    ((tables.represent base kind entity).keeping names).member? name =
      (tables.represent base kind entity).member? name
  identifier :
    (tables.represent base kind entity).member? "@iot.id" = some (kind.idOf entity).toJson ∧
      ((tables.represent base kind entity).keeping names).member? "@iot.id" =
        if "@iot.id" ∈ names then some (kind.idOf entity).toJson else none
  links : ∀ relation ∈ kind.relations,
    (tables.represent base kind entity).member? (relation ++ "@iot.navigationLink") =
        some (.string (kind.selfLink base (kind.idOf entity) ++ "/" ++ relation)) ∧
      ((tables.represent base kind entity).keeping names).member?
        (relation ++ "@iot.navigationLink") = none

theorem Tables.keeps (tables : Tables) (base : String) {kind : EntityKind} (entity : kind.Entity)
    {names : List String} (selectable : ∀ name ∈ names, name ∈ kind.selectable) :
    tables.Keeps base kind entity names where
  members name member _ _ := by rw [Json.member?_keeping, if_pos member]
  identifier := by
    refine ⟨tables.member?_id base kind entity, ?_⟩
    rw [Json.member?_keeping, tables.member?_id]
  links relation related := by
    refine ⟨tables.member?_link base kind entity relation related, ?_⟩
    have unlisted := kind.link_not_selectable relation related
    rw [Json.member?_keeping, if_neg fun listed => unlisted (selectable _ listed)]

namespace QueryOptions

variable {options : QueryOptions} {names : List String} {kind : EntityKind} {root : PropertyMap}
  {paging : Paging} {now : Instant} {scope : Option Predicate}

def unselected (options : QueryOptions) : QueryOptions :=
  { options with select := none }

def selectedProperty (map : PropertyMap) (name : String) : Except QueryFault String :=
  let key := if name = "@iot.id" then "id" else name
  match map.property? key with
  | some _ => .ok key
  | none => .error (.invalid name (.unknownSelection map.entity))

theorem selection_eq (map : PropertyMap) :
    selection map names = names.mapM (selectedProperty map) :=
  rfl

theorem selectedProperty_eq (known : kind.propertyMap? = some root) (name : String) :
    selectedProperty root name =
      if name ∈ kind.selectable then .ok (if name = "@iot.id" then "id" else name)
      else .error (.invalid name (.unknownSelection kind.name)) := by
  obtain ⟨properties, listed, rfl⟩ := Option.map_eq_some_iff.1 known
  have id : "id" ∈ properties.map Prod.fst := by
    cases kind <;> cases listed <;> decide
  have listed : name ∈ kind.selectable ↔
      (if name = "@iot.id" then "id" else name) ∈ properties.map Prod.fst := by
    rw [EntityKind.selectable, listed, Option.getD_some, List.mem_cons]
    split
    next isId => exact iff_of_true (.inl isId) id
    next notId => exact or_iff_right notId
  rw [selectedProperty]
  dsimp only [PropertyMap.property?]
  split
  next property found =>
    rw [if_pos (listed.2 _)]
    obtain ⟨before, after, rfl, -⟩ := List.lookup_eq_some_iff.1 found
    simp
  next missing =>
    rw [if_neg]
    rw [listed, List.mem_map]
    rintro ⟨⟨other, property⟩, member, rfl⟩
    simpa using List.lookup_eq_none_iff.1 missing _ member

theorem exists_selection_iff (known : kind.propertyMap? = some root) :
    (∃ keys, selection root names = .ok keys) ↔ ∀ name ∈ names, name ∈ kind.selectable := by
  rw [selection_eq, exists_mapM_eq_ok_iff]
  refine forall₂_congr fun name _ => ?_
  rw [selectedProperty_eq known]
  split
  next listed => exact iff_of_true ⟨_, rfl⟩ listed
  next unlisted => exact iff_of_false nofun unlisted

theorem selection_eq_error (known : kind.propertyMap? = some root) {fault : QueryFault}
    (refused : selection root names = .error fault) :
    ∃ name ∈ names, name ∉ kind.selectable ∧
      fault = .invalid name (.unknownSelection kind.name) := by
  rw [selection_eq] at refused
  obtain ⟨name, member, refused⟩ := mapM_eq_error refused
  rw [selectedProperty_eq known] at refused
  split at refused
  next => contradiction
  next unlisted => exact ⟨name, member, unlisted, (Except.error.inj refused).symm⟩

theorem exists_planFor_iff (selected : options.select = some names) :
    (∃ plan, options.planFor kind paging now scope = .ok plan) ↔
      (∃ plan, options.unselected.planFor kind paging now scope = .ok plan) ∧
        ∀ name ∈ names, name ∈ kind.selectable := by
  simp only [planFor_eq_ok_iff, plan_eq_ok_iff]
  constructor
  · rintro ⟨_, root, known, filter, filtered, keys, sorted, select, chosen, -⟩
    rw [selected, Option.mapM_some] at chosen
    obtain ⟨listed, chosen, -⟩ := bind_eq_ok_iff.1 chosen
    exact ⟨⟨_, root, known, filter, filtered, keys, sorted, none, rfl, rfl⟩,
      (exists_selection_iff known).1 ⟨listed, chosen⟩⟩
  · rintro ⟨⟨_, root, known, filter, filtered, keys, sorted, -⟩, selectable⟩
    obtain ⟨listed, chosen⟩ := (exists_selection_iff known).2 selectable
    refine ⟨_, root, known, filter, filtered, keys, sorted, some listed, ?_, rfl⟩
    rw [selected, Option.mapM_some]
    exact bind_eq_ok_iff.2 ⟨listed, chosen, rfl⟩

theorem planFor_eq_error (selected : options.select = some names) {plan : QueryPlan}
    (planned : options.unselected.planFor kind paging now scope = .ok plan) {failure : Failure}
    (refused : options.planFor kind paging now scope = .error failure) :
    ∃ name ∈ names, name ∉ kind.selectable ∧
      failure = .query (.invalid name (.unknownSelection kind.name)) := by
  obtain ⟨root, known, compiled⟩ := planFor_eq_ok_iff.1 planned
  obtain ⟨filter, filtered, keys, sorted, -⟩ := plan_eq_ok_iff.1 compiled
  rw [planFor, known] at refused
  obtain ⟨fault, failed, rfl⟩ := mapError_eq_error_iff.1 refused
  rw [QueryOptions.plan] at failed
  rcases bind_eq_error_iff.1 failed with unfiltered | ⟨_, -, failed⟩
  · cases filtered.symm.trans unfiltered
  rcases bind_eq_error_iff.1 failed with unsorted | ⟨_, -, failed⟩
  · cases sorted.symm.trans unsorted
  rcases bind_eq_error_iff.1 failed with failed | ⟨_, -, failed⟩
  · rw [selected, Option.mapM_some] at failed
    rcases bind_eq_error_iff.1 failed with failed | ⟨_, -, failed⟩
    · obtain ⟨name, member, unlisted, rfl⟩ := selection_eq_error known failed
      exact ⟨name, member, unlisted, rfl⟩
    · contradiction
  · contradiction

end QueryOptions

namespace Server

variable {server : Server} {tables : Tables} {path : String} {kind : EntityKind}
  {scope : Option Predicate} {parameters : List (String × String)} {options : QueryOptions}
  {names : List String} {plan : QueryPlan}

theorem entity_eq (visible : kind.isPublic = true) (selected : options.select = some names)
    {id : EntityId} {entity : kind.Entity} (found : tables.find? kind id = some entity) :
    server.entity tables options kind id =
      .ok ((tables.represent server.base kind entity).keeping names) := by
  rw [Server.entity, Tables.representation, if_pos visible, Tables.get, found, selected]
  rfl

theorem collection_of_planned (visible : kind.isPublic = true)
    (selected : options.select = some names)
    (planned : options.planFor kind server.config.paging server.now scope = .ok plan) :
    ∃ document, server.collection tables options kind scope path parameters = .ok document ∧
      document.member? "value" = some (.array ((plan.run tables kind).items.map fun entity =>
        (tables.represent server.base kind entity).keeping names)) := by
  refine ⟨_, collection_eq_ok_iff.2 ⟨plan, _, planned, ?_, rfl⟩, member?_value ..⟩
  rw [Page.ids, mapM_eq_ok_iff, List.forall₂_map_left_iff, List.forall₂_map_right_iff,
    List.forall₂_same]
  intro entity member
  have matched : entity ∈ plan.matched tables kind :=
    List.mem_of_mem_drop (List.mem_of_mem_take member)
  exact entity_eq visible selected (QueryPlan.mem_matched_iff.1 matched).1

/-- An entity by itself is shown with whatever names are selected, while a collection refuses the
names of no properties. Both keep the same of an entity. -/
theorem selection_shown (visible : kind.isPublic = true) (selected : options.select = some names)
    {id : EntityId} {entity : kind.Entity} (found : tables.find? kind id = some entity) :
    server.entity tables options kind id =
        .ok ((tables.represent server.base kind entity).keeping names) ∧
      ((∃ document,
          server.collection tables options kind scope path parameters = .ok document) ↔
        (∃ plan,
          options.unselected.planFor kind server.config.paging server.now scope = .ok plan) ∧
        ∀ name ∈ names, name ∈ kind.selectable) ∧
      (∀ plan failure,
        options.unselected.planFor kind server.config.paging server.now scope = .ok plan →
        server.collection tables options kind scope path parameters = .error failure →
        ∃ name ∈ names, name ∉ kind.selectable ∧
          failure = .query (.invalid name (.unknownSelection kind.name))) ∧
      (∀ plan, options.planFor kind server.config.paging server.now scope = .ok plan →
        ∃ document, server.collection tables options kind scope path parameters = .ok document ∧
          document.member? "value" = some (.array ((plan.run tables kind).items.map fun entity =>
            (tables.represent server.base kind entity).keeping names))) ∧
      ((∀ name ∈ names, name ∈ kind.selectable) → tables.Keeps server.base kind entity names) := by
  have answers : ∀ plan,
      options.planFor kind server.config.paging server.now scope = .ok plan →
      ∃ document, server.collection tables options kind scope path parameters = .ok document ∧
        document.member? "value" = some (.array ((plan.run tables kind).items.map fun entity =>
          (tables.represent server.base kind entity).keeping names)) :=
    fun _ planned => collection_of_planned visible selected planned
  refine ⟨entity_eq visible selected found, ?_, ?_, answers, tables.keeps _ entity⟩
  · rw [← QueryOptions.exists_planFor_iff selected]
    constructor
    · rintro ⟨document, answered⟩
      obtain ⟨plan, _, planned, -⟩ := collection_eq_ok_iff.1 answered
      exact ⟨plan, planned⟩
    · rintro ⟨plan, planned⟩
      obtain ⟨document, answered, -⟩ := answers plan planned
      exact ⟨document, answered⟩
  · intro plan failure unselected refused
    rcases outcome : options.planFor kind server.config.paging server.now scope with other | plan
    · rw [collection, outcome] at refused
      cases refused
      exact QueryOptions.planFor_eq_error selected unselected outcome
    · obtain ⟨document, answered, -⟩ := answers plan outcome
      cases answered.symm.trans refused

end Server

namespace Server

open TwoThings in
/-- A selection by the plain name of the identifier is accepted and loses the identifier; a name of
no property is refused for the collection alone. -/
theorem selection_shown_two_things :
    (∃ document, server.collection tables { select := some ["id"] } .thing none "Things" [] =
        .ok document) ∧
      (∃ document, server.entity tables { select := some ["id"] } .thing ⟨"a"⟩ = .ok document ∧
        document.member? "@iot.id" = none) ∧
      (∃ document, server.entity tables { select := some ["colour"] } .thing ⟨"a"⟩ =
        .ok document) ∧
      ¬∃ document, server.collection tables { select := some ["colour"] } .thing none "Things" [] =
        .ok document := by
  have found : tables.find? .thing ⟨"a"⟩ = some first := rfl
  have shown (names : List String) :=
    @selection_shown server tables "Things" .thing none [] { select := some names } names rfl rfl
      _ _ found
  obtain ⟨byId, acceptedById, -, -, keptById⟩ := shown ["id"]
  obtain ⟨byColour, acceptedByColour, -⟩ := shown ["colour"]
  refine ⟨acceptedById.2 ⟨⟨_, rfl⟩, by decide⟩, ⟨_, byId, ?_⟩, ⟨_, byColour⟩, fun accepted => ?_⟩
  · exact (keptById (by decide)).identifier.2
  · exact absurd (acceptedByColour.1 accepted).2 (by decide)

end Server

end SensorThings
