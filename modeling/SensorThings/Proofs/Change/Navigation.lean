import SensorThings.Proofs.Change.History
import SensorThings.Proofs.Filter.Connectives
import SensorThings.Proofs.Store.Paging
import SensorThings.Store.Navigation

/-!
Navigation. The predicate for the children of a parent selects just those rows that refer to the
parent or that the parent refers to, however the link is kept; so it leads back as well.
-/
namespace SensorThings

namespace EntityKind

/-- The kinds whose entities refer to others that clients see, each with the kind that it refers to.
-/
def referrals : List (EntityKind × EntityKind) :=
  [(thing, location), (historicalLocation, thing), (historicalLocation, location),
    (datastream, thing), (datastream, sensor), (datastream, observedProperty),
    (observation, datastream), (observation, featureOfInterest)]

/-- Two kinds relate if entities of one of them refer to entities of the other. -/
def Relates (parent child : EntityKind) : Prop :=
  (parent, child) ∈ referrals ∨ (child, parent) ∈ referrals

instance (parent child : EntityKind) : Decidable (parent.Relates child) :=
  inferInstanceAs (Decidable (_ ∨ _))

theorem Relates.symm {parent child : EntityKind} (relates : parent.Relates child) :
    child.Relates parent :=
  Or.symm relates

end EntityKind

namespace Tables

def Refers (tables : Tables) (referrer target : Key) : Prop :=
  ∃ entity, tables.find? referrer.kind referrer.id = some entity ∧
    target ∈ referrer.kind.references entity

def Related (tables : Tables) (left right : Key) : Prop :=
  tables.Refers left right ∨ tables.Refers right left

def children (tables : Tables) (parent : EntityKind) (id : EntityId) (child : EntityKind) :
    Except Failure (List EntityId) :=
  (tables.scope parent id child).map fun predicate =>
    (tables.filter child predicate).map child.idOf

theorem refers_iff {tables : Tables} {kind : EntityKind} {id : EntityId} {entity : kind.Entity}
    {target : Key} (found : tables.find? kind id = some entity) :
    tables.Refers ⟨kind, id⟩ target ↔ target ∈ kind.references entity := by
  constructor
  · rintro ⟨row, here, refers⟩
    rw [found] at here
    exact Option.some.inj here ▸ refers
  · exact fun refers => ⟨entity, found, refers⟩

section Predicates

variable (tables : Tables)

@[simp] theorem selects_oneOf (kind : EntityKind) (ids : List EntityId) (entity : kind.Entity) :
    tables.selects kind (.oneOf ids) entity = true ↔ kind.idOf entity ∈ ids := by
  have truth : Predicate.truthOfAny (tables.source kind entity)
      (ids.map fun id => Predicate.equal (.here "id") (.text id.text)) =
      some (decide (kind.idOf entity ∈ ids)) := by
    induction ids with
    | nil => simp
    | cons id rest ih =>
      have first : (Predicate.equal (.here "id") (.text id.text)).truth
          (tables.source kind entity) = some (decide (kind.idOf entity = id)) := by
        rw [← EntityId.compare_text_eq, Predicate.equal, Predicate.truth, Term.here, Term.value,
          value_id]
        rfl
      rw [List.map_cons, Predicate.truthOfAny_cons, first, ih]
      by_cases same : kind.idOf entity = id <;> simp [same]
  rw [selects, Predicate.selects, Predicate.oneOf, Predicate.truth_anyOf, truth]
  simp

theorem value_related (target kind : EntityKind) (entity : kind.Entity) :
    (Column.mk [⟨target.name, target.name⟩] "id" []).value (tables.source kind entity) =
      match (kind.related? entity target.name).bind (tables.find? target) with
      | some found => .string (target.idOf found).text
      | none => .null := by
  have named : EntityKind.ofName? target.name = some target := by cases target <;> rfl
  cases points : kind.related? entity target.name with
  | none => simp [Column.value, source, follow?, points]
  | some id =>
    cases found : tables.find? target id with
    | none => simp [Column.value, source, follow?, points, named, found]
    | some row =>
      simp [Column.value, source, follow?, points, named, found, EntityKind.column_id]

theorem selects_relatedTo {target kind : EntityKind} {id : EntityId}
    (there : tables.contains target id = true) (entity : kind.Entity) :
    tables.selects kind (.relatedTo target id) entity = true ↔
      kind.related? entity target.name = some id := by
  rw [selects, Predicate.selects, Predicate.relatedTo, Predicate.equal, Predicate.truth,
    Term.value, value_related]
  cases points : kind.related? entity target.name with
  | none => constructor <;> intro same <;> contradiction
  | some other =>
    rw [Option.bind_some, Option.some.injEq]
    cases found : tables.find? target other with
    | none =>
      refine ⟨fun same => by contradiction, ?_⟩
      rintro rfl
      rw [contains, found] at there
      contradiction
    | some row =>
      have truth : Comparison.equal.truth (.string (target.idOf row).text)
          ((Term.text id.text).value (tables.source kind entity)) =
            some (compare (target.idOf row).text id.text == .eq) := rfl
      rw [truth, EntityId.compare_text_eq, idOf_of_find? found]
      simp

end Predicates

variable {tables : Tables}

theorem HistoryHolds.listed_iff (history : tables.HistoryHolds) (linked : tables.Linked)
    {location : Location} {historical : HistoricalLocation}
    (found : tables.find? .location location.id = some location)
    (there : tables.find? .historicalLocation historical.id = some historical) :
    historical.id ∈ location.historicalLocations.items ↔
      location.id ∈ historical.locations.items := by
  constructor
  · intro member
    obtain ⟨row, here, located⟩ := records_iff.1 (history _ location found _ member)
    rw [there] at here
    exact Option.some.inj here ▸ located
  · intro located
    obtain ⟨row, here, listed⟩ :=
      (linked .historicalLocation _ historical there).listed location.id located
    rw [found] at here
    exact Option.some.inj here ▸ listed

theorem navigation_selects_referred {parent child : EntityKind}
    (refers : (parent, child) ∈ EntityKind.referrals) (entity : parent.Entity) :
    ∃ related, parent.navigation? child = some related ∧ ∀ row : child.Entity,
      tables.selects child (related tables entity) row = true ↔
        ⟨child, child.idOf row⟩ ∈ parent.references entity := by
  simp only [EntityKind.referrals, List.mem_cons, Prod.mk.injEq, List.not_mem_nil,
    or_false] at refers
  rcases refers with ⟨rfl, rfl⟩ | ⟨rfl, rfl⟩ | ⟨rfl, rfl⟩ | ⟨rfl, rfl⟩ | ⟨rfl, rfl⟩ | ⟨rfl, rfl⟩ |
    ⟨rfl, rfl⟩ | ⟨rfl, rfl⟩
  all_goals
    refine ⟨_, rfl, fun row => (tables.selects_oneOf ..).trans ?_⟩
    simp [EntityKind.references]

theorem navigation_selects_referrer (linked : tables.Linked) (history : tables.HistoryHolds)
    {parent child : EntityKind} (refers : (child, parent) ∈ EntityKind.referrals)
    {entity : parent.Entity} (found : tables.find? parent (parent.idOf entity) = some entity) :
    ∃ related, parent.navigation? child = some related ∧
      ∀ row, tables.find? child (child.idOf row) = some row →
        (tables.selects child (related tables entity) row = true ↔
          ⟨parent, parent.idOf entity⟩ ∈ child.references row) := by
  have there := contains_of_find? found
  simp only [EntityKind.referrals, List.mem_cons, Prod.mk.injEq, List.not_mem_nil,
    or_false] at refers
  rcases refers with ⟨rfl, rfl⟩ | ⟨rfl, rfl⟩ | ⟨rfl, rfl⟩ | ⟨rfl, rfl⟩ | ⟨rfl, rfl⟩ | ⟨rfl, rfl⟩ |
    ⟨rfl, rfl⟩ | ⟨rfl, rfl⟩
  all_goals refine ⟨_, rfl, fun row here => ?_⟩
  case inl =>
    refine (tables.selects_oneOf ..).trans (mem_idsWhere_iff.trans ?_)
    rw [here]
    simp [EntityKind.references, EntityKind.idOf]
  case inr.inr.inl =>
    refine (tables.selects_oneOf ..).trans ((history.listed_iff linked found here).trans ?_)
    simp [EntityKind.references, EntityKind.idOf]
  all_goals
    refine (tables.selects_relatedTo there row).trans ?_
    simp [EntityKind.references, EntityKind.related?, EntityKind.name, eq_comm]

theorem not_mem_references {parent child : EntityKind}
    (refers : (parent, child) ∈ EntityKind.referrals) (entity : child.Entity) (id : EntityId) :
    ⟨parent, id⟩ ∉ child.references entity := by
  simp only [EntityKind.referrals, List.mem_cons, Prod.mk.injEq, List.not_mem_nil,
    or_false] at refers
  rcases refers with ⟨rfl, rfl⟩ | ⟨rfl, rfl⟩ | ⟨rfl, rfl⟩ | ⟨rfl, rfl⟩ | ⟨rfl, rfl⟩ | ⟨rfl, rfl⟩ |
    ⟨rfl, rfl⟩ | ⟨rfl, rfl⟩
  all_goals simp [EntityKind.references]

theorem children_eq {parent child : EntityKind} {id : EntityId} {entity : parent.Entity}
    {related : Tables → parent.Entity → Predicate}
    (navigation : parent.navigation? child = some related)
    (found : tables.find? parent id = some entity) :
    tables.children parent id child =
      .ok (tables.idsWhere child (tables.selects child (related tables entity))) := by
  rw [children, scope, navigation, get, found]
  rfl

theorem exists_children (linked : tables.Linked) (history : tables.HistoryHolds)
    {parent child : EntityKind} (relates : parent.Relates child) {id : EntityId}
    (there : tables.contains parent id = true) :
    ∃ found, tables.children parent id child = .ok found ∧ ∀ other, other ∈ found ↔
      tables.contains child other = true ∧ tables.Related ⟨parent, id⟩ ⟨child, other⟩ := by
  obtain ⟨entity, here⟩ := contains_iff.1 there
  obtain rfl : parent.idOf entity = id := idOf_of_find? here
  have navigation : ∃ related, parent.navigation? child = some related ∧
      ∀ row, tables.find? child (child.idOf row) = some row →
        (tables.selects child (related tables entity) row = true ↔
          tables.Related ⟨parent, parent.idOf entity⟩ ⟨child, child.idOf row⟩) := by
    rcases relates with refers | refers
    · obtain ⟨related, given, selected⟩ := tables.navigation_selects_referred refers entity
      refine ⟨related, given, fun row found => ?_⟩
      rw [selected, Related, refers_iff here, refers_iff found, or_iff_left]
      exact not_mem_references refers row _
    · obtain ⟨related, given, selected⟩ := navigation_selects_referrer linked history refers here
      refine ⟨related, given, fun row found => ?_⟩
      rw [selected row found, Related, refers_iff here, refers_iff found, or_iff_right]
      exact not_mem_references refers entity _
  obtain ⟨related, given, selected⟩ := navigation
  refine ⟨_, children_eq given here, fun other => ?_⟩
  rw [mem_idsWhere_iff, contains_iff]
  constructor
  · rintro ⟨row, found, kept⟩
    obtain rfl := idOf_of_find? found
    exact ⟨⟨row, found⟩, (selected row found).1 kept⟩
  · rintro ⟨⟨row, found⟩, linkedTo⟩
    obtain rfl := idOf_of_find? found
    exact ⟨row, found, (selected row found).2 linkedTo⟩

end Tables

namespace Store

/-- In every store that is reached by requests whose bodies differ in their keys, navigation from an
entity to a related kind succeeds and selects just the entities that are there and of which one
refers to the other; and of two entities of related kinds, each is selected from the other, or
neither is. -/
theorem reachable_navigation {store : Store}
    (reachable : store.Reachable fun request => request.keys.Nodup) {parent child : EntityKind}
    (relates : parent.Relates child) :
    (∀ id, store.tables.contains parent id = true →
      ∃ found, store.tables.children parent id child = .ok found ∧ ∀ other, other ∈ found ↔
        store.tables.contains child other = true ∧
          store.tables.Related ⟨parent, id⟩ ⟨child, other⟩) ∧
    ∀ id other, store.tables.contains parent id = true → store.tables.contains child other = true →
      ∃ forth back, store.tables.children parent id child = .ok forth ∧
        store.tables.children child other parent = .ok back ∧ (other ∈ forth ↔ id ∈ back) := by
  have selects {parent child : EntityKind} (relates : parent.Relates child) (id : EntityId)
      (there : store.tables.contains parent id = true) :=
    Tables.exists_children reachable.linked reachable.historyHolds relates there
  refine ⟨selects relates, fun id other there otherThere => ?_⟩
  obtain ⟨forth, forthFound, forthSelects⟩ := selects relates id there
  obtain ⟨back, backFound, backSelects⟩ := selects relates.symm other otherThere
  refine ⟨forth, back, forthFound, backFound, ?_⟩
  rw [forthSelects, backSelects, and_iff_right there, and_iff_right otherThere]
  exact Or.comm

open LocatedThing in
/-- From the thing to its location, and back. -/
theorem reachable_navigation_located_thing :
    EntityKind.thing.Relates .location ∧ request.keys.Nodup ∧
      ∃ forth back, store.tables.children .thing ⟨"t"⟩ .location = .ok forth ∧
        store.tables.children .location ⟨"l"⟩ .thing = .ok back ∧
          (⟨"l"⟩ ∈ forth ↔ ⟨"t"⟩ ∈ back) := by
  have relates : EntityKind.thing.Relates .location := by decide
  have distinct : request.keys.Nodup := by
    rw [keys_request]
    decide
  have there : store.tables.contains .thing ⟨"t"⟩ = true ∧
      store.tables.contains .location ⟨"l"⟩ = true := by
    unfold store Store.change Change.start request
    simp only [Change.ofRequest, Change.create, Change.draft, read_body]
    decide +kernel
  exact ⟨relates, distinct, (reachable_navigation (reachable distinct) relates).2 ⟨"t"⟩ ⟨"l"⟩
    there.1 there.2⟩

end Store

end SensorThings
