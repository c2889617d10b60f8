import SensorThings.Proofs.Change.ComposedRequests
import SensorThings.Proofs.Store.Rollback

/-!
Requests that fail. Changes write only through their transaction: whether one succeeds or fails,
what it did to the transaction is a list of writes. So dropping the transaction undoes all of them.
-/
namespace SensorThings

namespace Change

variable {α β : Type}

def leaves (change : Change α) (environment : Environment) (progress : Progress) : Transaction :=
  match change environment progress with
  | .ok _ after => after.transaction
  | .error _ after => after.transaction

def Records (change : Change α) : Prop :=
  ∀ environment progress, ∃ writes : List Write,
    change.leaves environment progress = progress.transaction.performAll writes

theorem Records.bind {change : Change α} {next : α → Change β} (first : change.Records)
    (second : ∀ value, (next value).Records) : (change >>= next).Records := by
  intro environment progress
  obtain ⟨writes, written⟩ := first environment progress
  simp only [leaves, Bind.bind, ReaderT.bind, EStateM.bind] at written ⊢
  cases ran : change environment progress with
  | ok value middle =>
    rw [ran] at written
    obtain ⟨later, rest⟩ := second value environment middle
    refine ⟨writes ++ later, ?_⟩
    rw [Transaction.performAll_append, ← written]
    exact rest
  | error failure middle =>
    rw [ran] at written
    exact ⟨writes, written⟩

theorem records_delete (kind : EntityKind) (id : EntityId) : (delete kind id).Records := by
  intro environment progress
  refine ⟨[.delete kind id], ?_⟩
  simp only [leaves, delete, Transaction.performAll, Transaction.perform, List.foldl]
  cases progress.transaction.delete kind id <;> rfl

theorem Composed.records {change : Change α} (composed : change.Composed) : change.Records := by
  induction composed with
  | pure value => exact fun _ _ => ⟨[], rfl⟩
  | throw failure => exact fun _ _ => ⟨[], rfl⟩
  | bind first second recordsFirst recordsSecond => exact recordsFirst.bind recordsSecond
  | now => exact fun _ _ => ⟨[], rfl⟩
  | config => exact fun _ _ => ⟨[], rfl⟩
  | tables => exact fun _ _ => ⟨[], rfl⟩
  | draw => exact fun _ _ => ⟨[], rfl⟩
  | save kind entity => exact fun _ _ => ⟨[.save kind entity], rfl⟩
  | delete kind id => exact records_delete kind id

theorem records_ofRequest (request : ChangeRequest) : (ofRequest request).Records :=
  (composed_ofRequest request).records

end Change

namespace Store

@[simp] theorem abandon_performAll (store : Store) (writes : List Write) :
    store.abandon ((Transaction.start store.tables).performAll writes) = store := by
  simp only [abandon, Transaction.rollback_performAll]

theorem change_of_error {α : Type} {change : Change α} (records : change.Records) {store : Store}
    {environment : Environment} {failure : Failure}
    (failed : (store.change environment change).1 = .error failure) :
    (store.change environment change).2 = store := by
  obtain ⟨writes, written⟩ := records environment ⟨.start store.tables, 0⟩
  unfold Store.change Change.start at failed ⊢
  unfold Change.leaves at written
  cases ran : change environment ⟨.start store.tables, 0⟩ with
  | ok value progress =>
    rw [ran] at failed
    contradiction
  | error found progress =>
    rw [ran] at written
    simp only at written ⊢
    rw [written]
    exact store.abandon_performAll writes

/-- Dropping a transaction undoes whatever it wrote, in any order and also over its own writes; so a
request that fails, at whatever depth of its body, changes nothing at all. -/
theorem dropped_writes_leave_no_trace (store : Store) :
    (∀ writes : List Write,
      store.abandon ((Transaction.start store.tables).performAll writes) = store) ∧
    ∀ (environment : Environment) (request : ChangeRequest) (failure : Failure),
      (store.change environment (Change.ofRequest request)).1 = .error failure →
      (store.change environment (Change.ofRequest request)).2 = store := by
  constructor
  · intro writes
    exact store.abandon_performAll writes
  · intro environment request failure failed
    exact change_of_error (Change.records_ofRequest request) failed

end Store

/-! A thing that is made at a stored location, with a stream whose property lacks its definition. -/
namespace UndefinedProperty

def described (members : List (String × Json)) : Json :=
  .object ([("name", .string "n"), ("description", .string "d")] ++ members)

def placeBody : Json :=
  .object [("@iot.id", .string "l")]

def sensorBody : Json :=
  described [("@iot.id", .string "s"), ("encodingType", .string "e"), ("metadata", .string "m")]

def streamBody : Json :=
  described [("unitOfMeasurement", .object []),
    ("observationType", .string ObservationType.text.uri), ("Sensor", sensorBody),
    ("ObservedProperty", described [])]

def body : Json :=
  described [("@iot.id", .string "t"), ("Locations", .array [placeBody]),
    ("Datastreams", .array [streamBody])]

def streamDraft : DatastreamDraft :=
  ⟨none, some "n", some "d", some ⟨none, none, none⟩, some ObservationType.text.uri, none, none,
    some (.body ⟨some ⟨"s"⟩, some "n", some "d", some "e", some "m", none, none⟩),
    some (.body ⟨none, some "n", none, some "d", none, none⟩), none⟩

def draft : ThingDraft :=
  ⟨some ⟨"t"⟩, some "n", some "d", none, some [.reference ⟨"l"⟩], some [.body streamDraft], none⟩

theorem read_stream : DatastreamDraft.ofJson? streamBody = some streamDraft := by
  have sensor : streamBody.inner? DatastreamDraft.names "Sensor" =
      some ⟨sensorBody, by decide⟩ := rfl
  have property : streamBody.inner? DatastreamDraft.names "ObservedProperty" =
      some ⟨described [], by decide⟩ := rfl
  have readSensor : SensorDraft.ofJson? sensorBody =
      some ⟨some ⟨"s"⟩, some "n", some "d", some "e", some "m", none, none⟩ := by
    rw [SensorDraft.ofJson?]
    rfl
  have readProperty : ObservedPropertyDraft.ofJson? (described []) =
      some ⟨none, some "n", none, some "d", none, none⟩ := by
    rw [ObservedPropertyDraft.ofJson?]
    rfl
  rw [DatastreamDraft.ofJson?, sensor, property]
  simp only [Option.mapM_some, readSensor, readProperty]
  rfl

theorem read_body : ThingDraft.ofJson? body = some draft := by
  have places : body.inners? ThingDraft.names "Locations" =
      some (some [⟨placeBody, by decide⟩]) := rfl
  have streams : body.inners? ThingDraft.names "Datastreams" =
      some (some [⟨streamBody, by decide⟩]) := rfl
  have readPlace : LocationDraft.ofJson? placeBody = some (.ofId ⟨"l"⟩) := by
    rw [LocationDraft.ofJson?]
    rfl
  rw [ThingDraft.ofJson?, places, streams]
  simp only [Option.bind_eq_bind, Option.bind_some, Option.mapM_some, List.mapM_cons,
    List.mapM_nil, readPlace, read_stream]
  rfl

def environment : Environment :=
  ⟨default, default, fun number => ⟨toString number⟩⟩

def place : Location :=
  ⟨⟨"l"⟩, "n", "d", "e", .multiPoint [], none, .empty⟩

def store : Store :=
  ⟨({} : Tables).put .location place, 3⟩

def request : ChangeRequest :=
  .create .thing body

def dropped : Transaction :=
  (Change.ofRequest request).leaves environment ⟨.start store.tables, 0⟩

end UndefinedProperty

namespace Store

open UndefinedProperty in
/-- The thing, its sensor and the record of its place were there already, and the place listed the
record, when the property of its stream turned out to lack a definition. -/
theorem dropped_thing_leaves_no_trace :
    dropped.touched =
        [⟨.thing, ⟨"t"⟩⟩, ⟨.location, ⟨"l"⟩⟩, ⟨.historicalLocation, ⟨"1"⟩⟩, ⟨.sensor, ⟨"s"⟩⟩] ∧
      (dropped.tables.find? .location ⟨"l"⟩).map
        (fun place => place.historicalLocations.items) = some [⟨"1"⟩] ∧
      (store.change environment (Change.ofRequest request)).1 =
        .error (.missing .observedProperty "definition") ∧
      (store.change environment (Change.ofRequest request)).2 = store := by
  have failed : (store.change environment (Change.ofRequest request)).1 =
      .error (.missing .observedProperty "definition") := by
    unfold Store.change Change.start request
    simp only [Change.ofRequest, Change.create, Change.draft, read_body]
    rfl
  refine ⟨?_, ?_, failed,
    (dropped_writes_leave_no_trace store).2 environment request _ failed⟩
  all_goals
    unfold dropped Change.leaves request
    simp only [Change.ofRequest, Change.create, Change.draft, read_body]
    decide +kernel

end Store

end SensorThings
