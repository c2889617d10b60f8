import SensorThings.Proofs.Change.Summary
import SensorThings.Proofs.Store.Links

/-!
What removals take away. A datastream or a feature goes with all that refers to it, directly or
through a dataset; the owners of datastreams go after these, and what lists a record or a location
forgets it.
-/
namespace SensorThings

def EntityKind.DependsOn (kind : EntityKind) (entity : kind.Entity) (key : Key) : Prop :=
  key = ⟨kind, kind.idOf entity⟩ ∨ key ∈ kind.references entity

@[simp] theorem Dataset.withoutPointers_withoutPointers (dataset : Dataset) :
    dataset.withoutPointers.withoutPointers = dataset.withoutPointers :=
  rfl

/-- A location that no longer lists some historical locations. -/
def Location.forgetting (historicals : List EntityId) (location : Location) : Location :=
  { location with
    historicalLocations := historicals.foldl Roster.erase location.historicalLocations }

/-- A thing that is no longer at a location. -/
def Thing.leaving (location : EntityId) (thing : Thing) : Thing :=
  { thing with locations := thing.locations.filter (· != location) }

/-- A historical location without one of its locations, if it has another. -/
def HistoricalLocation.leaving (location : EntityId) (historical : HistoricalLocation) :
    Option HistoricalLocation :=
  let rest := historical.locations.erase location
  if rest.items.isEmpty then none else some { historical with locations := rest }

theorem IdSet.erase_erase (ids : IdSet) (id : EntityId) :
    (ids.erase id).erase id = ids.erase id := by
  apply Roster.ext_find?
  intro other
  simp only [Roster.find?_erase]
  split <;> rfl

@[simp] theorem IdSet.mem_foldl_erase_iff {set : IdSet} {ids : List EntityId} {id : EntityId} :
    id ∈ (ids.foldl Roster.erase set).items ↔ id ∉ ids ∧ id ∈ set.items := by
  induction ids generalizing set with
  | nil => simp
  | cons first rest ih => rw [List.foldl_cons, ih, mem_erase_iff, List.mem_cons, not_or, and_assoc,
      and_left_comm]

theorem Location.forgetting_forgetting (historical : EntityId) (location : Location) :
    (location.forgetting [historical]).forgetting [historical] =
      location.forgetting [historical] := by
  simp only [forgetting, List.foldl_cons, List.foldl_nil, IdSet.erase_erase]

@[simp] theorem Thing.leaving_leaving (location : EntityId) (thing : Thing) :
    (thing.leaving location).leaving location = thing.leaving location := by
  simp [leaving]

@[simp] theorem Thing.leaving_of_not_mem {location : EntityId} {thing : Thing}
    (elsewhere : location ∉ thing.locations) : thing.leaving location = thing := by
  have same : thing.locations.filter (· != location) = thing.locations := by
    rw [List.filter_eq_self]
    intro other member
    simpa using ne_of_mem_of_not_mem member elsewhere
  rw [leaving, same]

theorem HistoricalLocation.leaving_leaving (location : EntityId) (old new : HistoricalLocation)
    (left : old.leaving location = some new) : new.leaving location = some new := by
  simp only [leaving] at left ⊢
  split at left
  next => contradiction
  next remains =>
    obtain rfl := Option.some.inj left
    rw [IdSet.erase_erase, if_neg remains]

theorem HistoricalLocation.eq_of_leaving {location : EntityId} {old new : HistoricalLocation}
    (left : old.leaving location = some new) :
    new = { old with locations := old.locations.erase location } ∧ new.locations.items ≠ [] := by
  simp only [leaving] at left
  split at left
  next => contradiction
  next remains =>
    obtain rfl := Option.some.inj left
    exact ⟨rfl, fun nothing => remains (List.isEmpty_iff.2 nothing)⟩

theorem HistoricalLocation.leaving_eq_none_iff {id : EntityId} {historical : HistoricalLocation}
    (somewhere : historical.locations.items ≠ []) :
    historical.leaving id = none ↔ historical.locations.items = [id] := by
  rw [← IdSet.items_erase_eq_nil_iff somewhere]
  simp [leaving]

theorem HistoricalLocation.leaving_of_not_mem {id : EntityId} {historical : HistoricalLocation}
    (somewhere : historical.locations.items ≠ [])
    (elsewhere : id ∉ historical.locations.items) : historical.leaving id = some historical := by
  simp [leaving, IdSet.erase_of_not_mem elsewhere, somewhere]

namespace Tables

/-- What refers to something that depends on a key depends on the key itself. -/
def Closed (tables : Tables) (key : Key) : Prop :=
  ∀ kind id row, tables.find? kind id = some row → ∀ place target other,
    ⟨place, target⟩ ∈ kind.references row → tables.find? place target = some other →
      place.DependsOn other key → kind.DependsOn row key

theorem closed_of_unreferred {tables : Tables} {key : Key}
    (unreferred : ∀ kind id row, tables.find? kind id = some row → key ∉ kind.references row) :
    tables.Closed key := by
  intro kind id row found place target other member otherFound depends
  obtain rfl : place.idOf other = target := idOf_of_find? otherFound
  rcases depends with rfl | refers
  · exact .inr member
  · exact absurd refers (unreferred place _ other otherFound)

theorem Linked.closed {tables : Tables} (linked : tables.Linked) {key : Key}
    (owner : key.kind = .datastream ∨ key.kind = .featureOfInterest) : tables.Closed key := by
  intro kind id row found place target other member otherFound depends
  rcases depends with rfl | refers
  · rw [idOf_of_find? otherFound]
    exact .inr member
  · have dataset : place = .dataset := by
      obtain ⟨goal, id⟩ := key
      cases place
      case dataset => rfl
      case observation => cases kind <;> simp [EntityKind.references] at member
      all_goals rcases owner with rfl | rfl <;> simp [EntityKind.references] at refers
    subst dataset
    cases kind
    case observation =>
      obtain ⟨group, groupFound, paired⟩ := (linked .observation id row found).dataset
      obtain rfl : target = Observation.dataset row := by simpa [EntityKind.references] using member
      rw [groupFound] at otherFound
      obtain rfl := Option.some.inj otherFound
      simp only [EntityKind.references, paired, List.mem_cons, List.not_mem_nil, or_false] at refers
      right
      simp only [EntityKind.references, List.mem_cons]
      exact Or.imp_right Or.inl refers
    all_goals simp [EntityKind.references] at member

end Tables

def Drops (keys : List Key) (before after : Progress) : Prop :=
  ∀ kind id row, after.tables.find? kind id = some row ↔
    before.tables.find? kind id = some row ∧ ∀ key ∈ keys, ¬kind.DependsOn row key

namespace Drops

variable {first second keys : List Key} {before middle after : Progress}

theorem append (left : Drops first before middle) (right : Drops second middle after) :
    Drops (first ++ second) before after := by
  intro kind id row
  rw [right, left, and_assoc, List.forall_mem_append]

theorem congr {others : List Key} (drops : Drops keys before after)
    (same : ∀ kind id row, before.tables.find? kind id = some row →
      ((∀ key ∈ others, ¬kind.DependsOn row key) ↔ ∀ key ∈ keys, ¬kind.DependsOn row key)) :
    Drops others before after := by
  intro kind id row
  rw [drops]
  exact and_congr_right fun found => (same kind id row found).symm

theorem of_delete {environment : Environment} {kind : EntityKind} {id : EntityId}
    {row : kind.Entity} (ran : (Change.delete kind id).Returns environment before row after)
    (unreferred : ∀ other place entity, before.tables.find? other place = some entity →
      ⟨kind, id⟩ ∉ other.references entity) : Drops [⟨kind, id⟩] before after := by
  obtain ⟨-, removed, -⟩ := ran.delete
  intro other place entity
  rw [removed, List.forall_mem_singleton]
  by_cases same : other = kind
  · subst same
    rw [Tables.find?_remove]
    by_cases here : place = id
    · subst here
      simp only [if_pos, reduceCtorEq, false_iff, not_and]
      intro found independent
      apply independent
      left
      rw [Tables.idOf_of_find? found]
    · rw [if_neg here]
      refine ⟨fun found => ⟨found, ?_⟩, And.left⟩
      rintro (self | refers)
      · rw [Tables.idOf_of_find? found, Key.mk.injEq] at self
        exact here self.2.symm
      · exact unreferred other place entity found refers
  · rw [Tables.find?_remove_of_ne _ _ _ same]
    refine ⟨fun found => ⟨found, ?_⟩, And.left⟩
    rintro (self | refers)
    · rw [Key.mk.injEq] at self
      exact same self.1.symm
    · exact unreferred other place entity found refers

theorem linked (drops : Drops keys before after) (linked : before.tables.Linked)
    (closed : ∀ key ∈ keys, before.tables.Closed key) : after.tables.Linked := by
  intro kind id row found
  obtain ⟨here, independent⟩ := (drops kind id row).1 found
  refine Tables.linksHold_of_spares (fun reference member => ?_) (linked kind id row here)
  intro old oldFound
  refine ⟨old, (drops ..).2 ⟨oldFound, fun key keyMember depends => ?_⟩, .refl old⟩
  exact independent key keyMember
    (closed key keyMember kind id row here _ _ old member oldFound depends)

theorem find?_of_unreferred {key : Key} (drops : Drops [key] before after)
    (unreferred : ∀ kind id row, before.tables.find? kind id = some row → key ∉ kind.references row)
    {kind : EntityKind} (id : EntityId) (different : key.kind ≠ kind) :
    after.tables.find? kind id = before.tables.find? kind id := by
  ext row
  rw [drops, List.forall_mem_singleton]
  refine ⟨And.left, fun found => ⟨found, ?_⟩⟩
  rintro (rfl | refers)
  · exact different rfl
  · exact unreferred kind id row found refers

end Drops

theorem Drops.of_datasets {ids : List EntityId} {before first second after : Progress}
    (cleared : Updates .dataset Dataset.withoutPointers ids before first)
    (emptied : Rewrites .observation (fun _ => none)
      (first.tables.idsWhere .observation fun observation =>
        ids.contains (Observation.dataset observation)) first second)
    (dropped : Rewrites .dataset (fun _ => none) ids second after) :
    Drops (ids.map (Key.mk .dataset)) before after := by
  intro kind id row
  by_cases group : kind = .dataset
  · subst group
    have independent : (∀ key ∈ ids.map (Key.mk .dataset), ¬EntityKind.dataset.DependsOn row key) ↔
        Dataset.id row ∉ ids := by
      simp [EntityKind.DependsOn, EntityKind.references, EntityKind.idOf, List.forall_mem_ne']
    rw [dropped.rows, emptied.others id (by decide), cleared.find?, independent]
    cases found : before.tables.find? .dataset id with
    | none => simp
    | some old =>
      have same : old.id = id := Tables.idOf_of_find? found
      by_cases member : id ∈ ids
      · simp only [member, if_true, Option.map_some, Option.bind_some, reduceCtorEq, false_iff]
        rintro ⟨⟨⟩, independent⟩
        exact independent (same ▸ member)
      · simp only [member, if_false, Option.map_some, Option.bind_some, iff_self_and]
        rintro ⟨⟩
        rwa [same]
  rw [dropped.others id group]
  by_cases member : kind = .observation
  · subst member
    have independent : (∀ key ∈ ids.map (Key.mk .dataset),
        ¬EntityKind.observation.DependsOn row key) ↔ Observation.dataset row ∉ ids := by
      simp [EntityKind.DependsOn, EntityKind.references, List.forall_mem_ne']
    simp only [emptied.rows, Tables.mem_idsWhere_iff, cleared.others _ group, independent]
    cases found : before.tables.find? .observation id with
    | none => simp
    | some old =>
      by_cases member : Observation.dataset old ∈ ids
      · suffices old = row → Observation.dataset row ∈ ids by simpa [member]
        rintro rfl
        exact member
      · suffices old = row → Observation.dataset row ∉ ids by simpa [member]
        rintro rfl
        exact member
  · have independent : ∀ key ∈ ids.map (Key.mk .dataset), ¬kind.DependsOn row key := by
      intro key keyMember
      obtain ⟨dataset, -, rfl⟩ := List.mem_map.1 keyMember
      cases kind <;> simp_all [EntityKind.DependsOn, EntityKind.references]
    rw [emptied.others id member, cleared.others id group]
    exact ⟨fun found => ⟨found, independent⟩, And.left⟩

theorem Drops.of_owner {environment : Environment} {kind : EntityKind} {id : EntityId}
    {row : kind.Entity} {ids : List EntityId} {before middle after : Progress}
    (owner : kind = .datastream ∨ kind = .featureOfInterest) (linked : before.tables.Linked)
    (members : ∀ dataset, dataset ∈ ids ↔ ∃ entity,
      before.tables.find? .dataset dataset = some entity ∧
        ⟨kind, id⟩ ∈ EntityKind.dataset.references entity)
    (datasets : Drops (ids.map (Key.mk .dataset)) before middle)
    (ran : (Change.delete kind id).Returns environment middle row after) :
    Drops [⟨kind, id⟩] before after := by
  have closed : before.tables.Closed ⟨kind, id⟩ := linked.closed owner
  have grouped : ∀ other place entity, before.tables.find? other place = some entity →
      ∀ dataset ∈ ids, other.DependsOn entity ⟨.dataset, dataset⟩ →
        other.DependsOn entity ⟨kind, id⟩ := by
    intro other place entity found dataset member depends
    obtain ⟨group, groupFound, refers⟩ := (members dataset).1 member
    rcases depends with same | toGroup
    · obtain ⟨rfl, rfl⟩ := Key.mk.inj same
      rw [Tables.find?_idOf found] at groupFound
      obtain rfl := Option.some.inj groupFound
      exact .inr refers
    · exact closed other place entity found _ _ group toGroup groupFound (.inr refers)
  have unreferred : ∀ other place entity, middle.tables.find? other place = some entity →
      ⟨kind, id⟩ ∉ other.references entity := by
    intro other place entity found refers
    obtain ⟨found, independent⟩ := (datasets other place entity).1 found
    rw [List.forall_mem_map] at independent
    cases other
    case dataset =>
      apply independent place ((members place).2 ⟨entity, found, refers⟩)
      rw [← Tables.idOf_of_find? found]
      exact .inl rfl
    case observation =>
      obtain ⟨group, groupFound, paired⟩ := (linked .observation place entity found).dataset
      apply independent _ ((members _).2 ⟨group, groupFound, ?_⟩)
      · right
        simp [EntityKind.references]
      · simp only [EntityKind.references, List.mem_cons, Key.mk.injEq] at refers ⊢
        rw [paired.1, paired.2]
        rcases owner with rfl | rfl <;> simpa using refers
    all_goals rcases owner with rfl | rfl <;> simp [EntityKind.references] at refers
  apply (datasets.append (of_delete ran unreferred)).congr
  intro other place entity found
  rw [List.forall_mem_append, List.forall_mem_map, and_iff_right_of_imp]
  intro independent dataset member depends
  exact independent _ List.mem_cons_self (grouped other place entity found dataset member depends)

def Tables.records (tables : Tables) (location historical : EntityId) : Bool :=
  (tables.find? .historicalLocation historical).any fun row =>
    (HistoricalLocation.locations row).contains location

/-- Some records go, all of them there, and the locations that they list forget them. -/
structure Forgets (ids : List EntityId) (before after : Progress) : Prop where
  there : ∀ id ∈ ids, before.tables.contains .historicalLocation id = true
  records : ∀ id, after.tables.find? .historicalLocation id =
    if id ∈ ids then none else before.tables.find? .historicalLocation id
  locations : ∀ id, after.tables.find? .location id = (before.tables.find? .location id).map
    (Location.forgetting (ids.filter (before.tables.records id)))
  others : ∀ {kind} id, kind ≠ .historicalLocation → kind ≠ .location →
    after.tables.find? kind id = before.tables.find? kind id

namespace Forgets

variable {before middle between after : Progress}

theorem nil (progress : Progress) : Forgets [] progress progress where
  there := by simp
  records := by simp
  locations := by
    intro id
    exact Option.map_id'.symm
  others := fun _ _ _ => rfl

theorem cons {id : EntityId} {ids : List EntityId} {historical : HistoricalLocation}
    (found : before.tables.find? .historicalLocation id = some historical)
    (gone : Rewrites .historicalLocation (fun _ => none) [id] before middle)
    (forgotten : Updates .location (Location.forgetting [id]) historical.locations.items middle
      between) (rest : Forgets ids between after) : Forgets (id :: ids) before after := by
  have recordsThen : ∀ place, between.tables.find? .historicalLocation place =
      if place = id then none else before.tables.find? .historicalLocation place := by
    intro place
    rw [forgotten.others place (by decide), gone.rows]
    by_cases same : place = id <;> simp [same]
  have distinct : id ∉ ids := by
    intro member
    have there := rest.there id member
    rw [Tables.contains, recordsThen, if_pos rfl] at there
    contradiction
  constructor
  case there =>
    rw [List.forall_mem_cons]
    refine ⟨Tables.contains_of_find? found, fun place member => ?_⟩
    have there := rest.there place member
    rw [Tables.contains, recordsThen] at there
    split at there
    next => contradiction
    next => exact there
  case records =>
    intro place
    rw [rest.records, recordsThen]
    by_cases same : place = id <;> simp [same]
  case others =>
    intro kind place notRecord notLocation
    rw [rest.others place notRecord notLocation, forgotten.others place notLocation,
      gone.others place notRecord]
  case locations =>
    intro place
    have same : ids.filter (between.tables.records place) =
        ids.filter (before.tables.records place) := by
      apply List.filter_congr
      intro other member
      rw [Tables.records, recordsThen, if_neg (ne_of_mem_of_not_mem member distinct),
        Tables.records]
    rw [rest.locations, same, forgotten.find?, gone.others place (by decide), Option.map_map]
    have listed : before.tables.records place id = true ↔ place ∈ historical.locations.items := by
      rw [Tables.records, found, Option.any_some, IdSet.contains_iff]
    congr 1
    funext location
    by_cases member : place ∈ historical.locations.items
    · rw [Function.comp_apply, if_pos member, List.filter_cons_of_pos (listed.2 member)]
      rfl
    · rw [Function.comp_apply, if_neg member, List.filter_cons_of_neg (mt listed.1 member)]

end Forgets

/-- The datastreams that refer to an owner go. -/
structure Disowns (owner : Key) (ids : List EntityId) (before after : Progress) : Prop where
  members : ∀ id, id ∈ ids ↔ ∃ row, before.tables.find? .datastream id = some row ∧
    owner ∈ EntityKind.datastream.references row
  drops : Drops (ids.map (Key.mk .datastream)) before after

namespace Disowns

variable {owner : Key} {ids : List EntityId} {before after : Progress}

theorem unreferred (disowns : Disowns owner ids before after) (id : EntityId)
    (row : EntityKind.datastream.Entity) (found : after.tables.find? .datastream id = some row) :
    owner ∉ EntityKind.datastream.references row := by
  intro refers
  obtain ⟨here, independent⟩ := (disowns.drops ..).1 found
  have member : id ∈ ids := (disowns.members id).2 ⟨row, here, refers⟩
  apply independent ⟨.datastream, id⟩ (List.mem_map_of_mem member)
  left
  rw [Tables.idOf_of_find? here]

theorem unreferred_of_ne_thing (disowns : Disowns owner ids before after)
    (tool : owner.kind = .sensor ∨ owner.kind = .observedProperty) (kind : EntityKind)
    (id : EntityId) (row : kind.Entity) (found : after.tables.find? kind id = some row) :
    owner ∉ kind.references row := by
  obtain ⟨goal, target⟩ := owner
  cases kind
  case datastream => exact disowns.unreferred id row found
  all_goals rcases tool with rfl | rfl <;> simp [EntityKind.references]

theorem unreferred_of_forgets {id : EntityId} {last : Progress}
    (disowns : Disowns ⟨.thing, id⟩ ids before after)
    (forgets : Forgets (after.tables.idsWhere .historicalLocation fun historical =>
      HistoricalLocation.thing historical == id) after last) (kind : EntityKind) (place : EntityId)
    (row : kind.Entity) (found : last.tables.find? kind place = some row) :
    ⟨.thing, id⟩ ∉ kind.references row := by
  cases kind
  case datastream =>
    rw [forgets.others place (by decide) (by decide)] at found
    exact disowns.unreferred place row found
  case historicalLocation =>
    rw [forgets.records] at found
    split at found
    next => contradiction
    next other =>
      intro refers
      have same : id = HistoricalLocation.thing row := by
        simpa [EntityKind.references] using refers
      apply other
      rw [Tables.mem_idsWhere_iff]
      exact ⟨row, found, beq_iff_eq.2 same.symm⟩
  all_goals simp [EntityKind.references]

theorem linked (disowns : Disowns owner ids before after) (linked : before.tables.Linked) :
    after.tables.Linked := by
  apply disowns.drops.linked linked
  rw [List.forall_mem_map]
  exact fun id _ => linked.closed (.inl rfl)

end Disowns

/-- A location goes, things leave it, and so do the historical locations that it lists. -/
structure Departs (id : EntityId) (location : Location) (before after : Progress) : Prop where
  found : before.tables.find? .location id = some location
  locations : ∀ place, after.tables.find? .location place =
    if place = id then none else before.tables.find? .location place
  things : ∀ place, after.tables.find? .thing place =
    (before.tables.find? .thing place).map (Thing.leaving id)
  records : ∀ place, after.tables.find? .historicalLocation place =
    (before.tables.find? .historicalLocation place).bind fun row =>
      if place ∈ location.historicalLocations.items then row.leaving id else some row
  others : ∀ {kind} place, kind ≠ .location → kind ≠ .thing → kind ≠ .historicalLocation →
    after.tables.find? kind place = before.tables.find? kind place

theorem Departs.of_rewrites {id : EntityId} {location : Location}
    {before first second after : Progress}
    (found : before.tables.find? .location id = some location)
    (gone : Rewrites .location (fun _ => none) [id] before first)
    (left : Updates .thing (Thing.leaving id)
      (first.tables.idsWhere .thing fun thing => (Thing.locations thing).contains id) first second)
    (revisited : Rewrites .historicalLocation (HistoricalLocation.leaving id)
      location.historicalLocations.items second after) : Departs id location before after where
  found := found
  locations := by
    intro place
    rw [revisited.others place (by decide), left.others place (by decide), gone.rows]
    by_cases same : place = id <;> simp [same]
  things := by
    intro place
    rw [revisited.others place (by decide), left.find?, gone.others place (by decide)]
    cases thingFound : before.tables.find? .thing place with
    | none => rfl
    | some thing =>
      rw [Option.map_some, Option.map_some, Option.some.injEq, ite_eq_left_iff]
      intro elsewhere
      refine (Thing.leaving_of_not_mem fun member => elsewhere ?_).symm
      rw [Tables.mem_idsWhere_iff, gone.others place (by decide)]
      exact ⟨thing, thingFound, List.contains_iff_mem.2 member⟩
  records := by
    intro place
    rw [revisited.rows, left.others place (by decide), gone.others place (by decide)]
  others := by
    intro kind place notLocation notThing notRecord
    rw [revisited.others place notRecord, left.others place notThing, gone.others place notLocation]

/-- What removing an entity of a kind takes away. -/
inductive Removal (id : EntityId) (before after : Progress) : EntityKind → Prop where
  | thing {ids : List EntityId} {first second : Progress}
      (disowns : Disowns ⟨.thing, id⟩ ids before first)
      (forgets : Forgets (first.tables.idsWhere .historicalLocation fun historical =>
        HistoricalLocation.thing historical == id) first second)
      (drops : Drops [⟨.thing, id⟩] second after) : Removal id before after .thing
  | location {location : Location} (departs : Departs id location before after) :
      Removal id before after .location
  | historicalLocation (forgets : Forgets [id] before after) :
      Removal id before after .historicalLocation
  | sensor {ids : List EntityId} {middle : Progress}
      (disowns : Disowns ⟨.sensor, id⟩ ids before middle)
      (drops : Drops [⟨.sensor, id⟩] middle after) : Removal id before after .sensor
  | observedProperty {ids : List EntityId} {middle : Progress}
      (disowns : Disowns ⟨.observedProperty, id⟩ ids before middle)
      (drops : Drops [⟨.observedProperty, id⟩] middle after) :
      Removal id before after .observedProperty
  | datastream (drops : Drops [⟨.datastream, id⟩] before after) :
      Removal id before after .datastream
  | feature {streams : List EntityId} {middle : Progress}
      (drops : Drops [⟨.featureOfInterest, id⟩] before middle)
      (covered : ∀ place (dataset : Dataset), before.tables.find? .dataset place = some dataset →
        dataset.feature = id → dataset.datastream ∈ streams)
      (rebounds : Updates .datastream middle.tables.rebounded streams middle after) :
      Removal id before after .featureOfInterest
  | observation {middle last : Progress} (observation : Observation)
      (found : before.tables.find? .observation id = some observation)
      (drops : Drops [⟨.observation, id⟩] before middle)
      (repoints : Updates .dataset middle.tables.repointed [observation.dataset] middle last)
      (rebounds : Updates .datastream last.tables.rebounded [observation.datastream] last after) :
      Removal id before after .observation

end SensorThings
