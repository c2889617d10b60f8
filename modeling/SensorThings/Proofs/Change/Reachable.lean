import SensorThings.Proofs.Change.Abandon
import SensorThings.Proofs.Change.Identity
import SensorThings.Proofs.Change.Integrity
import SensorThings.Proofs.Change.Removing

/-!
Stores that requests lead to from the empty one. What every creation, revision and removal keeps,
all of these stores have; first of all their links.
-/
namespace SensorThings

def ChangeRequest.keys : ChangeRequest → List Key
  | create kind body => (Outline.ofJson kind body).keys
  | _ => []

/-- What a request does when it succeeds. -/
inductive Alteration (environment : Environment) (before after : Progress) :
    ChangeRequest → Prop where
  | created {kind : EntityKind} {body : Json}
      (creation : Creation environment (.ofJson kind body) before after) :
      Alteration environment before after (.create kind body)
  | revised {kind : EntityKind} {id : EntityId} {body : Json}
      (revision : Revision environment before after kind) :
      Alteration environment before after (.revise kind id body)
  | removed {kind : EntityKind} {id : EntityId} (removal : Removal id before after kind) :
      Alteration environment before after (.remove kind id)

theorem Change.Returns.ofRequest {environment : Environment} {before after : Progress}
    {request : ChangeRequest} {value : Option EntityId}
    (ran : (ofRequest request).Returns environment before value after)
    (linked : before.tables.Linked) : Alteration environment before after request := by
  cases request with
  | create kind body =>
    obtain ⟨id, made, -⟩ := returns_ofRequest_create.1 ran
    exact .created (made_create made).creation
  | revise kind id body =>
    exact .revised (returns_ofRequest_revise.1 ran).1.revise
  | replace kind id body =>
    simp only [Change.ofRequest, replace, returns_bind, returns_throw, and_false, false_and,
      exists_false] at ran
  | remove kind id =>
    simp only [Change.ofRequest, returns_bind, returns_pure] at ran
    obtain ⟨_, _, removed, -, rfl⟩ := ran
    exact .removed (Returns.remove removed linked)

theorem Alteration.linked {environment : Environment} {before after : Progress}
    {request : ChangeRequest} (alteration : Alteration environment before after request)
    (fresh : environment.Fresh request.keys before) (linked : before.tables.Linked) :
    after.tables.Linked := by
  cases alteration with
  | created creation => exact creation.linked fresh linked
  | revised revision => exact revision.linked fresh linked
  | removed removal => exact removal.linked linked

namespace Store

theorem keeps_of_returns {holds : Tables → Prop} {store : Store} {environment : Environment}
    {request : ChangeRequest} (held : holds store.tables)
    (keeps : ∀ value after,
      (Change.ofRequest request).Returns environment (.start store.tables) value after →
      holds after.tables) :
    holds (store.change environment (Change.ofRequest request)).2.tables := by
  cases outcome : (store.change environment (Change.ofRequest request)).1 with
  | error failure => rwa [change_of_error (Change.records_ofRequest request) outcome]
  | ok value =>
    obtain ⟨after, ran, result⟩ := change_ok outcome
    rw [result]
    exact keeps value after ran

/-- Allowed requests, each a transaction of its own, lead from the empty store to this one, and the
identifiers drawn for each are new. -/
inductive Reachable (allowed : ChangeRequest → Prop) : Store → Prop where
  | empty : Reachable allowed ⟨{}, 0⟩
  | change {store : Store} (environment : Environment) (request : ChangeRequest)
      (reachable : Reachable allowed store) (isAllowed : allowed request)
      (fresh : environment.Fresh request.keys (.start store.tables)) :
      Reachable allowed (store.change environment (Change.ofRequest request)).2

namespace Reachable

variable {allowed : ChangeRequest → Prop} {store : Store}

theorem induction_of_returns {holds : Tables → Prop} (reachable : store.Reachable allowed)
    (start : holds {})
    (step : ∀ environment request (store : Store) value after, store.Reachable allowed →
      allowed request → environment.Fresh request.keys (.start store.tables) → holds store.tables →
      (Change.ofRequest request).Returns environment (.start store.tables) value after →
      holds after.tables) : holds store.tables := by
  induction reachable with
  | empty => exact start
  | @change store environment request reachable isAllowed fresh ih =>
    exact keeps_of_returns ih fun value after ran =>
      step environment request store value after reachable isAllowed fresh ih ran

theorem linked (reachable : store.Reachable allowed) : store.tables.Linked :=
  reachable.induction_of_returns Tables.linked_empty
    fun _ _ _ _ _ _ _ fresh linked ran => (ran.ofRequest linked).linked fresh linked

theorem tables_induction {holds : Tables → Prop} (reachable : store.Reachable allowed)
    (start : holds {})
    (step : ∀ environment request before after, allowed request →
      environment.Fresh request.keys before → before.tables.Linked → holds before.tables →
      Alteration environment before after request → holds after.tables) : holds store.tables := by
  apply reachable.induction_of_returns start
  intro environment request store value after reachable isAllowed fresh kept ran
  exact step environment request _ after isAllowed fresh reachable.linked kept
    (ran.ofRequest reachable.linked)

end Reachable

/-- In every store that is reached, whatever a datastream, an observation, a dataset, a historical
location or a thing refers to is there, and observations agree with their datasets. -/
theorem reachable_links {allowed : ChangeRequest → Prop} {store : Store}
    (reachable : store.Reachable allowed) :
    (∀ id datastream, store.tables.find? .datastream id = some datastream →
      store.tables.HoldsLinksOf datastream) ∧
    (∀ id observation, store.tables.find? .observation id = some observation →
      store.tables.HoldsGroupOf observation) ∧
    (∀ id (dataset : Dataset), store.tables.find? .dataset id = some dataset →
      store.tables.contains .datastream dataset.datastream = true ∧
        store.tables.contains .featureOfInterest dataset.feature = true) ∧
    (∀ id (historical : HistoricalLocation),
      store.tables.find? .historicalLocation id = some historical →
      store.tables.contains .thing historical.thing = true ∧ historical.locations.items ≠ [] ∧
        ∀ location ∈ historical.locations.items,
          store.tables.contains .location location = true) ∧
    ∀ id (thing : Thing), store.tables.find? .thing id = some thing →
      thing.locations.Nodup ∧
        ∀ location ∈ thing.locations, store.tables.contains .location location = true := by
  have linked := reachable.linked
  refine ⟨linked .datastream, linked .observation, linked .dataset, ?_, linked .thing⟩
  intro id historical found
  obtain ⟨thing, somewhere, listed⟩ := linked .historicalLocation id historical found
  refine ⟨thing, somewhere, fun location member => ?_⟩
  obtain ⟨row, rowFound, -⟩ := listed location member
  exact Tables.contains_of_find? rowFound

end Store

/-! A store with one observation, made in one request together with all that it refers to. -/
namespace FirstObservation

def environment : Environment where
  now := default
  config := default
  fresh number := ⟨String.ofList (List.replicate number '+')⟩

def described (members : List (String × Json)) : Json :=
  .object ([("name", .string "n"), ("description", .string "d")] ++ members)

def featureBody : Json :=
  described [("encodingType", .string "e"),
    ("feature", .object [("type", .string "MultiPoint"), ("coordinates", .array [])])]

def observationBody : Json :=
  .object [("result", .string "r"), ("FeatureOfInterest", featureBody)]

def sensorBody : Json :=
  described [("encodingType", .string "e"), ("metadata", .string "m")]

def propertyBody : Json :=
  described [("definition", .string "u")]

def body : Json :=
  described [("unitOfMeasurement", .object []),
    ("observationType", .string ObservationType.text.uri), ("Thing", described []),
    ("Sensor", sensorBody), ("ObservedProperty", propertyBody),
    ("Observations", .array [observationBody])]

def featureDraft : FeatureDraft :=
  ⟨none, some "n", some "d", some "e", some (.bare (.multiPoint [])), none, none⟩

def observationDraft : ObservationDraft :=
  ⟨none, none, none, none, none, some (.string "r"), none, some (.body featureDraft)⟩

def draft : DatastreamDraft :=
  ⟨none, some "n", some "d", some ⟨none, none, none⟩, some ObservationType.text.uri, none,
    some (.body ⟨none, some "n", some "d", none, none, none, none⟩),
    some (.body ⟨none, some "n", some "d", some "e", some "m", none, none⟩),
    some (.body ⟨none, some "n", some "u", some "d", none, none⟩), some [.body observationDraft]⟩

theorem read_feature : FeatureDraft.ofJson? featureBody = some featureDraft := by
  rw [FeatureDraft.ofJson?]
  rfl

theorem read_observation :
    ObservationDraft.ofJson? observationBody = some observationDraft := by
  have feature : observationBody.inner? ObservationDraft.names "FeatureOfInterest" =
      some ⟨featureBody, by decide⟩ := rfl
  rw [ObservationDraft.ofJson?, feature]
  simp only [Option.mapM_some, read_feature]
  rfl

theorem read_thing : ThingDraft.ofJson? (described []) =
    some ⟨none, some "n", some "d", none, none, none, none⟩ := by
  rw [ThingDraft.ofJson?]
  rfl

theorem read_sensor : SensorDraft.ofJson? sensorBody =
    some ⟨none, some "n", some "d", some "e", some "m", none, none⟩ := by
  rw [SensorDraft.ofJson?]
  rfl

theorem read_property : ObservedPropertyDraft.ofJson? propertyBody =
    some ⟨none, some "n", some "u", some "d", none, none⟩ := by
  rw [ObservedPropertyDraft.ofJson?]
  rfl

theorem read_body : DatastreamDraft.ofJson? body = some draft := by
  have thing : body.inner? DatastreamDraft.names "Thing" = some ⟨described [], by decide⟩ := rfl
  have sensor : body.inner? DatastreamDraft.names "Sensor" = some ⟨sensorBody, by decide⟩ := rfl
  have property : body.inner? DatastreamDraft.names "ObservedProperty" =
      some ⟨propertyBody, by decide⟩ := rfl
  have observations : body.inners? DatastreamDraft.names "Observations" =
      some (some [⟨observationBody, by decide⟩]) := rfl
  rw [DatastreamDraft.ofJson?, thing, sensor, property, observations]
  simp only [Option.bind_eq_bind, Option.bind_some, Option.mapM_some, List.mapM_cons,
    List.mapM_nil, read_thing, read_sensor, read_property, read_observation]
  rfl

def request : ChangeRequest :=
  .create .datastream body

def store : Store :=
  (Store.change ⟨{}, 0⟩ environment (Change.ofRequest request)).2

theorem keys_request : request.keys = [] := by
  simp only [request, ChangeRequest.keys, Outline.ofJson, read_body]
  rfl

/-- Nothing is there at first, so it is enough that no number gives an identifier that is sent. -/
theorem fresh_empty {keys : List Key}
    (unsent : ∀ key ∈ keys, ∀ number, environment.fresh number ≠ key.id) :
    environment.Fresh keys (.start {}) where
  distinct same := by simpa [environment] using congrArg (fun id => id.text.toList.length) same
  unused _ _ kind := by cases kind <;> rfl
  unsent := unsent

theorem reachable {allowed : ChangeRequest → Prop} (isAllowed : allowed request) :
    store.Reachable allowed := by
  refine .change environment request .empty isAllowed (fresh_empty ?_)
  rw [keys_request]
  simp

theorem observed : store.tables.contains .observation (environment.fresh 7) = true := by
  unfold store Store.change Change.start request
  simp only [Change.ofRequest, Change.create, Change.draft, read_body]
  rfl

def later : Environment where
  now := default
  config := default
  fresh number := ⟨String.ofList (List.replicate number '*')⟩

theorem later_fresh {tables : Tables}
    (unstarred : (EntityKind.all.all fun kind => (tables.entities kind).all fun entity =>
      (kind.idOf entity).text.toList.all (· != '*')) = true) :
    later.Fresh [] (.start tables) := by
  refine ⟨?_, ?_, by simp⟩
  · intro number other same
    simpa [later] using congrArg (fun id => id.text.toList.length) same
  · intro number positive kind
    rw [← Bool.not_eq_true]
    intro there
    obtain ⟨entity, found⟩ := Tables.contains_iff.1 there
    have same := Tables.idOf_of_find? found
    have marks := List.all_eq_true.1 (List.all_eq_true.1 unstarred kind kind.mem_all) entity
      (Tables.mem_entities_iff.2 (Tables.find?_idOf found))
    rw [same, List.all_eq_true] at marks
    have positive : 0 < number := positive
    have star : '*' ∈ (later.fresh number).text.toList := by simp [later, Nat.ne_of_gt positive]
    exact absurd (marks '*' star) (by decide)

theorem unstarred : (EntityKind.all.all fun kind => (store.tables.entities kind).all fun entity =>
    (kind.idOf entity).text.toList.all (· != '*')) = true := by
  unfold store Store.change Change.start request
  simp only [Change.ofRequest, Change.create, Change.draft, read_body]
  decide +kernel

end FirstObservation

/-! A thing with two streams of one symbol and one type. The first has an observation, and an
earlier one of the same feature comes with the next request. -/
namespace EarlierObservation

open FirstObservation (environment later described sensorBody propertyBody featureBody featureDraft
  read_sensor read_property read_feature)

def lastBody : Json :=
  .object [("phenomenonTime", .string "1970-01-05T00:00:00Z"), ("result", .string "r"),
    ("FeatureOfInterest", featureBody)]

def streamBody (members : List (String × Json)) : Json :=
  described ([("unitOfMeasurement", .object [("symbol", .string "C")]),
    ("observationType", .string ObservationType.text.uri), ("Sensor", sensorBody),
    ("ObservedProperty", propertyBody)] ++ members)

def observedBody : Json :=
  streamBody [("Observations", .array [lastBody])]

def body : Json :=
  described [("Datastreams", .array [observedBody, streamBody []])]

def fifthDay : Instant :=
  ⟨⟨1970, 1, 5, rfl⟩, .midnight⟩

def lastDraft : ObservationDraft :=
  ⟨none, some (.instant fifthDay), none, none, none, some (.string "r"), none,
    some (.body featureDraft)⟩

def streamDraft (observations : Option (List (Link ObservationDraft))) : DatastreamDraft :=
  ⟨none, some "n", some "d", some ⟨none, some "C", none⟩, some ObservationType.text.uri, none, none,
    some (.body ⟨none, some "n", some "d", some "e", some "m", none, none⟩),
    some (.body ⟨none, some "n", some "u", some "d", none, none⟩), observations⟩

def draft : ThingDraft :=
  ⟨none, some "n", some "d", none, none,
    some [.body (streamDraft (some [.body lastDraft])), .body (streamDraft none)], none⟩

theorem read_last : ObservationDraft.ofJson? lastBody = some lastDraft := by
  have feature : lastBody.inner? ObservationDraft.names "FeatureOfInterest" =
      some ⟨featureBody, by decide⟩ := rfl
  rw [ObservationDraft.ofJson?, feature]
  simp only [Option.mapM_some, read_feature]
  rfl

theorem read_observed :
    DatastreamDraft.ofJson? observedBody = some (streamDraft (some [.body lastDraft])) := by
  have sensor : observedBody.inner? DatastreamDraft.names "Sensor" =
      some ⟨sensorBody, by decide⟩ := rfl
  have property : observedBody.inner? DatastreamDraft.names "ObservedProperty" =
      some ⟨propertyBody, by decide⟩ := rfl
  have observations : observedBody.inners? DatastreamDraft.names "Observations" =
      some (some [⟨lastBody, by decide⟩]) := rfl
  rw [DatastreamDraft.ofJson?, sensor, property, observations]
  simp only [Option.bind_eq_bind, Option.bind_some, Option.mapM_some, List.mapM_cons,
    List.mapM_nil, read_sensor, read_property, read_last]
  rfl

theorem read_unobserved :
    DatastreamDraft.ofJson? (streamBody []) = some (streamDraft none) := by
  have sensor : (streamBody []).inner? DatastreamDraft.names "Sensor" =
      some ⟨sensorBody, by decide⟩ := rfl
  have property : (streamBody []).inner? DatastreamDraft.names "ObservedProperty" =
      some ⟨propertyBody, by decide⟩ := rfl
  rw [DatastreamDraft.ofJson?, sensor, property]
  simp only [Option.mapM_some, read_sensor, read_property]
  rfl

theorem read_body : ThingDraft.ofJson? body = some draft := by
  have streams : body.inners? ThingDraft.names "Datastreams" =
      some (some [⟨observedBody, by decide⟩, ⟨streamBody [], by decide⟩]) := rfl
  rw [ThingDraft.ofJson?, streams]
  simp only [Option.bind_eq_bind, Option.bind_some, Option.mapM_some, List.mapM_cons,
    List.mapM_nil, read_observed, read_unobserved]
  rfl

def request : ChangeRequest :=
  .create .thing body

theorem keys_request : request.keys = [] := by
  simp only [request, ChangeRequest.keys, Outline.ofJson, read_body]
  rfl

def observed : Store :=
  (Store.change ⟨{}, 0⟩ environment (Change.ofRequest request)).2

def reference (id : EntityId) : Json :=
  .object [("@iot.id", .string id.text)]

def firstBody : Json :=
  .object [("phenomenonTime", .string "1970-01-01T00:00:00Z"), ("result", .string "r"),
    ("Datastream", reference (environment.fresh 2)),
    ("FeatureOfInterest", reference (environment.fresh 8))]

def firstDraft : ObservationDraft :=
  ⟨none, some (.instant default), none, none, none, some (.string "r"),
    some (.reference (environment.fresh 2)), some (.reference (environment.fresh 8))⟩

theorem read_stream : DatastreamDraft.ofJson? (reference (environment.fresh 2)) =
    some (.ofId (environment.fresh 2)) := by
  rw [DatastreamDraft.ofJson?]
  rfl

theorem read_place : FeatureDraft.ofJson? (reference (environment.fresh 8)) =
    some (.ofId (environment.fresh 8)) := by
  rw [FeatureDraft.ofJson?]
  rfl

theorem read_first : ObservationDraft.ofJson? firstBody = some firstDraft := by
  have stream : firstBody.inner? ObservationDraft.names "Datastream" =
      some ⟨reference (environment.fresh 2), by decide⟩ := rfl
  have feature : firstBody.inner? ObservationDraft.names "FeatureOfInterest" =
      some ⟨reference (environment.fresh 8), by decide⟩ := rfl
  rw [ObservationDraft.ofJson?, stream, feature]
  simp only [Option.mapM_some, read_stream, read_place]
  rfl

def earlier : ChangeRequest :=
  .create .observation firstBody

theorem keys_earlier : earlier.keys = [] := by
  simp only [earlier, ChangeRequest.keys, Outline.ofJson, read_first]
  rfl

def store : Store :=
  (observed.change later (Change.ofRequest earlier)).2

theorem unstarred :
    (EntityKind.all.all fun kind => (observed.tables.entities kind).all fun entity =>
      (kind.idOf entity).text.toList.all (· != '*')) = true := by
  unfold observed Store.change Change.start request
  simp only [Change.ofRequest, Change.create, Change.draft, read_body]
  decide +kernel

theorem reachable {allowed : ChangeRequest → Prop} (first : allowed request)
    (second : allowed earlier) : store.Reachable allowed := by
  have reached : observed.Reachable allowed := by
    refine .change environment request .empty first (FirstObservation.fresh_empty ?_)
    rw [keys_request]
    simp
  refine .change later earlier reached second ?_
  rw [keys_earlier]
  exact FirstObservation.later_fresh unstarred

end EarlierObservation

namespace Store

open FirstObservation in
/-- The observation and its dataset agree. -/
theorem reachable_links_first_observation :
    store.tables.contains .observation (environment.fresh 7) = true ∧
      ∀ id observation, store.tables.find? .observation id = some observation →
        store.tables.HoldsGroupOf observation :=
  ⟨observed, (reachable_links (reachable trivial : store.Reachable fun _ => True)).2.1⟩

end Store

end SensorThings
