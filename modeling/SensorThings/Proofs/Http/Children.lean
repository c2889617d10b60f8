import SensorThings.Http.Submission
import SensorThings.Proofs.Change.Navigation
import SensorThings.Proofs.Change.References
import SensorThings.Proofs.Draft.Owned

/-!
Bodies that are posted to the children of a parent. The parent takes the place of whatever relation
the body names there, so the draft that is read refers to the parent, and what is made of the draft
is found from the parent again.
-/
namespace SensorThings

/-- The member that a body gets when it is posted to the children of a parent. -/
inductive Posted : Key → EntityKind → String → Json → Prop where
  | datastream (owner : DatastreamOwner) :
    Posted owner.key .datastream owner.key.kind.name owner.key.id.reference
  | observation (owner : ObservationOwner) :
    Posted owner.key .observation owner.key.kind.name owner.key.id.reference
  | historicalLocation (thing : EntityId) :
    Posted ⟨.thing, thing⟩ .historicalLocation "Thing" thing.reference
  | location (thing : EntityId) :
    Posted ⟨.thing, thing⟩ .location "Things" (.array [thing.reference])
  | thing (location : EntityId) :
    Posted ⟨.location, location⟩ .thing "Locations" (.array [location.reference])

theorem posted_of_parentMember? {parent child : EntityKind} {id : EntityId} {name : String}
    {value : Json} (given : parent.parentMember? child id = some (name, value)) :
    Posted ⟨parent, id⟩ child name value := by
  cases parent <;> cases child <;> cases given
  exacts [.location id, .historicalLocation id, .datastream (.thing id), .thing id,
    .datastream (.sensor id), .datastream (.observedProperty id), .observation (.datastream id),
    .observation (.feature id)]

theorem posted_of_linkedBody {parent child : EntityKind} {id : EntityId} {body linked : Json}
    (accepted : linkedBody parent id child body = .ok linked) :
    ∃ members name value, body = .object members ∧ Posted ⟨parent, id⟩ child name value ∧
      linked = .object (Json.insertMember name value members) := by
  cases body with
  | object members =>
    rw [linkedBody] at accepted
    cases given : parent.parentMember? child id with
    | none =>
      rw [given] at accepted
      contradiction
    | some member =>
      rw [given] at accepted
      exact ⟨members, _, _, rfl, posted_of_parentMember? given, (Except.ok.inj accepted).symm⟩
  | _ => contradiction

def Json.RefersOnly (body : Json) : EntityKind → Prop
  | .thing => ∃ draft, ThingDraft.ofJson? body = some draft ∧ draft.RefersOnly
  | .location => ∃ draft, LocationDraft.ofJson? body = some draft ∧ draft.RefersOnly
  | .historicalLocation =>
    ∃ draft, HistoricalLocationDraft.ofJson? body = some draft ∧ draft.RefersOnly
  | .datastream => ∃ draft, DatastreamDraft.ofJson? body = some draft ∧ draft.RefersOnly
  | .observation => ∃ draft, ObservationDraft.ofJson? body = some draft ∧ draft.RefersOnly
  | _ => False

/-- A body is only an identifier. -/
def Json.IdentifiesOnly (body : Json) : EntityKind → Prop
  | .thing => ∃ id, ThingDraft.readLink? body = some (.reference id)
  | .location => ∃ id, LocationDraft.readLink? body = some (.reference id)
  | .historicalLocation => ∃ id, HistoricalLocationDraft.readLink? body = some (.reference id)
  | .datastream => ∃ id, DatastreamDraft.readLink? body = some (.reference id)
  | .observation => ∃ id, ObservationDraft.readLink? body = some (.reference id)
  | _ => False

namespace Tables

variable {tables : Tables} {parent child : EntityKind} {id other : EntityId}

theorem mem_children_of_related {row : child.Entity}
    (navigation : parent.navigation? child =
      some fun _ entity => .relatedTo parent (parent.idOf entity))
    (there : tables.contains parent id = true) (found : tables.find? child other = some row)
    (related : child.related? row parent.name = some id) :
    ∃ ids, tables.children parent id child = .ok ids ∧ other ∈ ids := by
  obtain ⟨entity, here⟩ := contains_iff.1 there
  refine ⟨_, children_eq navigation here, mem_idsWhere_iff.2 ⟨row, found, ?_⟩⟩
  rw [idOf_of_find? here]
  exact (tables.selects_relatedTo there row).2 related

theorem mem_children_of_listed {thing location : EntityId} {row : Thing}
    (there : tables.contains .location location = true)
    (found : tables.find? .thing thing = some row) (listed : location ∈ row.locations) :
    (∃ ids, tables.children .thing thing .location = .ok ids ∧ location ∈ ids) ∧
      ∃ ids, tables.children .location location .thing = .ok ids ∧ thing ∈ ids := by
  obtain ⟨place, here⟩ := contains_iff.1 there
  obtain rfl : place.id = location := idOf_of_find? here
  obtain rfl : row.id = thing := idOf_of_find? found
  constructor
  · refine ⟨_, children_eq rfl found, mem_idsWhere_iff.2 ⟨place, here, ?_⟩⟩
    exact (tables.selects_oneOf ..).2 listed
  · refine ⟨_, children_eq rfl here, mem_idsWhere_iff.2 ⟨row, found, ?_⟩⟩
    refine (tables.selects_oneOf ..).2 (mem_idsWhere_iff.2 ⟨row, found, ?_⟩)
    exact List.contains_iff_mem.2 listed

end Tables

/-! A draft with a relation is no reference. -/

theorem DatastreamDraft.link_of_under {draft : DatastreamDraft} {owner : DatastreamOwner}
    (under : draft.under owner = draft) : draft.link = .body draft := by
  have fields : (draft.under owner).hasFields = true := by
    cases owner <;> simp [hasFields, DatastreamDraft.under]
  rw [link, ← under, fields, Link.make_true]

theorem ObservationDraft.link_of_under {draft : ObservationDraft} {owner : ObservationOwner}
    (under : draft.under owner = draft) : draft.link = .body draft := by
  have fields : (draft.under owner).hasFields = true := by
    cases owner <;> simp [hasFields, ObservationDraft.under]
  rw [link, ← under, fields, Link.make_true]

theorem HistoricalLocationDraft.link_of_thing {draft : HistoricalLocationDraft}
    {thing : Link ThingDraft} (named : draft.thing = some thing) : draft.link = .body draft := by
  have fields : draft.hasFields = true := by simp [hasFields, named]
  rw [link, fields, Link.make_true]

theorem LocationDraft.link_of_things {draft : LocationDraft} {things : List (Link ThingDraft)}
    (listed : draft.things = some things) : draft.link = .body draft := by
  have fields : draft.hasFields = true := by simp [hasFields, listed]
  rw [link, fields, Link.make_true]

theorem ThingDraft.link_of_locations {draft : ThingDraft} {locations : List (Link LocationDraft)}
    (listed : draft.locations = some locations) : draft.link = .body draft := by
  have fields : draft.hasFields = true := by simp [hasFields, listed]
  rw [link, fields, Link.make_true]

namespace Change

theorem draft_bind {α β : Type} {kind : EntityKind} {read? : Json → Option α} {body : Json}
    {draft : α} (read : read? body = some draft) (next : α → Change β) :
    (Change.draft kind read? body >>= next) = next draft := by
  rw [Change.draft, read, pure_bind]

variable {environment : Environment} {before after : Progress} {id : EntityId}

theorem Returns.insertDatastream_under {draft : DatastreamDraft} {owner : DatastreamOwner}
    (ran : (insertDatastream none draft).Returns environment before id after)
    (refers : draft.RefersOnly) (under : draft.under owner = draft) :
    after.tables.contains owner.key.kind owner.key.id = true ∧
      ∃ stream : Datastream, after.tables.find? .datastream id = some stream ∧
        EntityKind.datastream.related? stream owner.key.kind.name = some owner.key.id := by
  obtain ⟨stream, row, ⟨thing, thingThere⟩, ⟨sensor, sensorThere⟩, property, propertyThere⟩ :=
    ran.insertDatastream_owners refers
  cases owner with
  | thing given =>
    obtain rfl : given = stream.thing := by
      simpa [DatastreamDraft.under] using (congrArg DatastreamDraft.thing under).trans thing
    exact ⟨thingThere, stream, row, rfl⟩
  | sensor given =>
    obtain rfl : given = stream.sensor := by
      simpa [DatastreamDraft.under] using (congrArg DatastreamDraft.sensor under).trans sensor
    exact ⟨sensorThere, stream, row, rfl⟩
  | observedProperty given =>
    obtain rfl : given = stream.observedProperty := by
      simpa [DatastreamDraft.under] using
        (congrArg DatastreamDraft.observedProperty under).trans property
    exact ⟨propertyThere, stream, row, rfl⟩

theorem Returns.insertObservation_under {draft : ObservationDraft} {owner : ObservationOwner}
    (ran : (insertObservation none draft).Returns environment before id after)
    (refers : draft.RefersOnly) (under : draft.under owner = draft) :
    after.tables.contains owner.key.kind owner.key.id = true ∧
      ∃ observation : Observation, after.tables.find? .observation id = some observation ∧
        EntityKind.observation.related? observation owner.key.kind.name = some owner.key.id := by
  obtain ⟨observation, row, ⟨datastream, datastreamThere⟩, feature⟩ :=
    ran.insertObservation_owners refers
  cases owner with
  | datastream given =>
    obtain rfl : given = observation.datastream := by
      simpa [ObservationDraft.under] using
        (congrArg ObservationDraft.datastream under).trans datastream
    exact ⟨datastreamThere, observation, row, rfl⟩
  | feature given =>
    obtain ⟨rfl, there⟩ := feature given (congrArg ObservationDraft.feature under).symm
    exact ⟨there, observation, row, rfl⟩

end Change

namespace Posted

variable {parent : Key} {child : EntityKind} {name : String} {value : Json}
  {members : List (String × Json)} {environment : Environment}

theorem refersOnly (posted : Posted parent child name value)
    (refers : (Json.object members).RefersOnly child) :
    (Json.object (Json.insertMember name value members)).RefersOnly child := by
  cases posted with
  | datastream owner =>
    obtain ⟨draft, read, refers⟩ := refers
    have reads := (DatastreamDraft.ofJson?_eq_some_iff.1 read).under owner
    refine ⟨_, DatastreamDraft.ofJson?_eq_some_iff.2 reads, ?_⟩
    cases owner with
    | thing => exact { refers with thing := by rintro _ ⟨⟩; rfl }
    | sensor => exact { refers with sensor := by rintro _ ⟨⟩; rfl }
    | observedProperty => exact { refers with observedProperty := by rintro _ ⟨⟩; rfl }
  | observation owner =>
    obtain ⟨draft, read, refers⟩ := refers
    have reads := (ObservationDraft.ofJson?_eq_some_iff.1 read).under owner
    refine ⟨_, ObservationDraft.ofJson?_eq_some_iff.2 reads, ?_⟩
    cases owner with
    | datastream => exact { refers with datastream := by rintro _ ⟨⟩; rfl }
    | feature => exact { refers with feature := by rintro _ ⟨⟩; rfl }
  | historicalLocation thing =>
    obtain ⟨draft, read, refers⟩ := refers
    have reads := (HistoricalLocationDraft.ofJson?_eq_some_iff.1 read).withThing thing
    exact ⟨_, HistoricalLocationDraft.ofJson?_eq_some_iff.2 reads,
      { refers with thing := by rintro _ ⟨⟩; rfl }⟩
  | location thing =>
    obtain ⟨draft, read, refers⟩ := refers
    have reads := (LocationDraft.ofJson?_eq_some_iff.1 read).withThings thing
    exact ⟨_, LocationDraft.ofJson?_eq_some_iff.2 reads,
      { refers with things := List.forall_mem_singleton.2 rfl }⟩
  | thing location =>
    obtain ⟨draft, read, refers⟩ := refers
    have reads := (ThingDraft.ofJson?_eq_some_iff.1 read).withLocations location
    exact ⟨_, ThingDraft.ofJson?_eq_some_iff.2 reads,
      { refers with locations := List.forall_mem_singleton.2 rfl }⟩

theorem selected (posted : Posted parent child name value)
    (refers : (Json.object (Json.insertMember name value members)).RefersOnly child)
    {before after : Progress} {id : EntityId}
    (ran : (Change.create child (.object (Json.insertMember name value members))).Returns
      environment before id after) :
    ∃ ids, after.tables.children parent.kind parent.id child = .ok ids ∧ id ∈ ids := by
  cases posted with
  | datastream owner =>
    obtain ⟨draft, read, refers⟩ := refers
    have under := (DatastreamDraft.ofJson?_eq_some_iff.1 read).under_eq
    rw [Change.create, Change.draft_bind read, DatastreamDraft.link_of_under under,
      Change.createDatastream] at ran
    obtain ⟨there, stream, row, related⟩ := ran.insertDatastream_under refers under
    cases owner <;> exact Tables.mem_children_of_related rfl there row related
  | observation owner =>
    obtain ⟨draft, read, refers⟩ := refers
    have under := (ObservationDraft.ofJson?_eq_some_iff.1 read).under_eq
    rw [Change.create, Change.draft_bind read, ObservationDraft.link_of_under under,
      Change.createObservation] at ran
    obtain ⟨there, observation, row, related⟩ := ran.insertObservation_under refers under
    cases owner <;> exact Tables.mem_children_of_related rfl there row related
  | historicalLocation thing =>
    obtain ⟨draft, read, refers⟩ := refers
    have named := (HistoricalLocationDraft.ofJson?_eq_some_iff.1 read).thing_eq
    rw [Change.create, Change.draft_bind read, HistoricalLocationDraft.link_of_thing named,
      Change.createHistory] at ran
    obtain ⟨historical, row, refersTo, there⟩ := ran.insertHistory_thing refers
    obtain rfl := Link.reference.inj (Option.some.inj (named.symm.trans refersTo))
    exact Tables.mem_children_of_related rfl there row rfl
  | location thing =>
    obtain ⟨draft, read, refers⟩ := refers
    have listed := (LocationDraft.ofJson?_eq_some_iff.1 read).things_eq
    rw [Change.create, Change.draft_bind read, LocationDraft.link_of_things listed,
      Change.createLocation] at ran
    obtain ⟨there, row, found, placed⟩ := ran.insertLocation_moves refers listed
    exact (Tables.mem_children_of_listed there found (placed ▸ List.mem_singleton_self _)).1
  | thing location =>
    obtain ⟨draft, read, refers⟩ := refers
    have listed := (ThingDraft.ofJson?_eq_some_iff.1 read).locations_eq
    rw [Change.create, Change.draft_bind read, ThingDraft.link_of_locations listed,
      Change.createThing] at ran
    obtain ⟨there, row, found, placed⟩ := ran.insertThing_settles refers listed
    exact (Tables.mem_children_of_listed there found (placed ▸ List.mem_singleton_self _)).2

theorem create_missing (posted : Posted parent child name value)
    (identifies : (Json.object members).IdentifiesOnly child) :
    ∃ property, Change.create child (.object (Json.insertMember name value members)) =
      Change.missing child property := by
  cases posted with
  | datastream owner =>
    obtain ⟨id, read⟩ := identifies
    have alone := (Json.refersAlone _ _).datastream.1 read
    have reads := DatastreamDraft.ofJson?_eq_some_iff.1 alone
    have linked : DatastreamDraft.ofJson? (.object _) = some _ :=
      DatastreamDraft.ofJson?_eq_some_iff.2 (reads.under owner)
    rw [Change.create, Change.draft_bind linked]
    cases owner with
    | thing => exact ⟨"Sensor", rfl⟩
    | sensor => exact ⟨"Thing", rfl⟩
    | observedProperty => exact ⟨"Thing", rfl⟩
  | observation owner =>
    obtain ⟨id, read⟩ := identifies
    have alone := (Json.refersAlone _ _).observation.1 read
    have reads := ObservationDraft.ofJson?_eq_some_iff.1 alone
    have linked : ObservationDraft.ofJson? (.object _) = some _ :=
      ObservationDraft.ofJson?_eq_some_iff.2 (reads.under owner)
    rw [Change.create, Change.draft_bind linked]
    cases owner with
    | datastream => exact ⟨"result", rfl⟩
    | feature => exact ⟨"Datastream", rfl⟩
  | historicalLocation thing =>
    obtain ⟨id, read⟩ := identifies
    have alone := (Json.refersAlone _ _).historicalLocation.1 read
    have reads := HistoricalLocationDraft.ofJson?_eq_some_iff.1 alone
    have linked : HistoricalLocationDraft.ofJson? (.object _) = some _ :=
      HistoricalLocationDraft.ofJson?_eq_some_iff.2 (reads.withThing thing)
    rw [Change.create, Change.draft_bind linked]
    exact ⟨"time", rfl⟩
  | location thing =>
    obtain ⟨id, read⟩ := identifies
    have alone := (Json.refersAlone _ _).location.1 read
    have reads := LocationDraft.ofJson?_eq_some_iff.1 alone
    have linked : LocationDraft.ofJson? (.object _) = some _ :=
      LocationDraft.ofJson?_eq_some_iff.2 (reads.withThings thing)
    rw [Change.create, Change.draft_bind linked]
    exact ⟨"name", rfl⟩
  | thing location =>
    obtain ⟨id, read⟩ := identifies
    have alone := (Json.refersAlone _ _).thing.1 read
    have reads := ThingDraft.ofJson?_eq_some_iff.1 alone
    have linked : ThingDraft.ofJson? (.object _) = some _ :=
      ThingDraft.ofJson?_eq_some_iff.2 (reads.withLocations location)
    rw [Change.create, Change.draft_bind linked]
    exact ⟨"name", rfl⟩

end Posted

namespace Store

/-- A body that is posted to the children of a parent, all of whose related entities are references,
makes a child that navigation from the parent selects, whatever parent the body names itself. A body
that is only an identifier is refused for what it lacks, and not taken for a reference. -/
theorem posted_children {parent child : EntityKind} {id : EntityId} {body linked : Json}
    (accepted : linkedBody parent id child body = .ok linked) :
    (body.RefersOnly child → linked.RefersOnly child) ∧
    (linked.RefersOnly child → ∀ (store after : Store) (environment : Environment)
        (made : EntityId),
      store.change environment (Change.ofRequest (.create child linked)) =
          (.ok (some made), after) →
        ∃ ids, after.tables.children parent id child = .ok ids ∧ made ∈ ids) ∧
    (body.IdentifiesOnly child → ∀ (store : Store) (environment : Environment),
      ∃ property, (store.change environment (Change.ofRequest (.create child linked))).1 =
        .error (.missing child property)) := by
  obtain ⟨members, name, value, rfl, posted, rfl⟩ := posted_of_linkedBody accepted
  refine ⟨posted.refersOnly, fun refers store after environment made succeeded => ?_,
    fun identifies store environment => ?_⟩
  · obtain ⟨last, ran, tables⟩ := returns_of_change succeeded
    obtain ⟨_, created, ⟨⟩⟩ := Change.returns_ofRequest_create.1 ran
    rw [tables]
    exact posted.selected refers created
  · obtain ⟨property, missing⟩ := posted.create_missing identifies
    refine ⟨property, ?_⟩
    rw [Change.ofRequest, missing]
    rfl

end Store

/-! A location that is posted to the thing of the first observation, and that lists another thing.
-/
namespace PostedLocation

open FirstObservation

def body : Json :=
  described [("encodingType", .string "e"),
    ("location", .object [("type", .string "MultiPoint"), ("coordinates", .array [])]),
    ("Things", .array [EntityId.reference ⟨"t"⟩])]

def linked : Json :=
  match linkedBody .thing (environment.fresh 2) .location body with
  | .ok linked => linked
  | .error _ => .null

def draft : LocationDraft :=
  ⟨none, some "n", some "d", some "e", some (.bare (.multiPoint [])), none,
    some [.reference ⟨"t"⟩], none⟩

theorem reads_body : draft.ReadsFrom body := by
  have things : Json.list? ThingDraft.readLink? (.array [EntityId.reference ⟨"t"⟩]) =
      some [.reference ⟨"t"⟩] := by
    rw [Json.list?, List.mapM_cons, List.mapM_nil, (EntityId.refers _).thing]
    rfl
  exact ⟨rfl, rfl, rfl, rfl, rfl, rfl, rfl, congrArg (Option.map some) things, rfl⟩

theorem refersOnly : body.RefersOnly .location :=
  ⟨draft, LocationDraft.ofJson?_eq_some_iff.2 reads_body,
    ⟨List.forall_mem_singleton.2 rfl, by rintro link ⟨⟩⟩⟩

theorem succeeds : (store.change later (Change.ofRequest (.create .location linked))).1 =
    .ok (some (later.fresh 1)) := by
  have read : LocationDraft.ofJson? linked =
      some { draft with things := some [.reference (environment.fresh 2)] } :=
    LocationDraft.ofJson?_eq_some_iff.2 (reads_body.withThings (environment.fresh 2))
  unfold store Store.change Change.start request
  simp only [Change.ofRequest, Change.create, Change.draft, FirstObservation.read_body, read]
  rfl

end PostedLocation

namespace Store

open FirstObservation (environment later store)
open PostedLocation

/-- The location is found from the thing that it is posted to; an identifier in its stead is refused.
-/
theorem posted_children_location :
    linkedBody .thing (environment.fresh 2) .location body = .ok linked ∧
      (∃ after : Store, store.change later (Change.ofRequest (.create .location linked)) =
          (.ok (some (later.fresh 1)), after) ∧
        ∃ ids, after.tables.children .thing (environment.fresh 2) .location = .ok ids ∧
          later.fresh 1 ∈ ids) ∧
      ∃ identified : Json,
        linkedBody .thing (environment.fresh 2) .location (EntityId.reference ⟨"l"⟩) =
            .ok identified ∧
          ∃ property, (store.change later (Change.ofRequest (.create .location identified))).1 =
            .error (.missing .location property) := by
  have accepted : linkedBody .thing (environment.fresh 2) .location body = .ok linked := rfl
  have succeeded : store.change later (Change.ofRequest (.create .location linked)) =
      (.ok (some (later.fresh 1)), _) := Prod.ext succeeds rfl
  have identified : ∃ other, linkedBody .thing (environment.fresh 2) .location
      (EntityId.reference ⟨"l"⟩) = .ok other := ⟨_, rfl⟩
  obtain ⟨other, identified⟩ := identified
  obtain ⟨refers, selected, -⟩ := posted_children accepted
  obtain ⟨-, -, refused⟩ := posted_children identified
  exact ⟨accepted, ⟨_, succeeded, selected (refers refersOnly) store _ later _ succeeded⟩, other,
    identified, refused ⟨_, (EntityId.refers _).location⟩ store later⟩

end Store

end SensorThings
