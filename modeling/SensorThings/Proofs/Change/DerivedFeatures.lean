import SensorThings.Proofs.Change.Derivation
import SensorThings.Proofs.Change.Plain

/-!
Observations that name no feature. One is about the feature that is like the place of its thing;
what is made for it is found by the next one, so observations at one place share their feature, and
those of one datastream their dataset.
-/
namespace SensorThings

/-- An observation of a datastream that exists, about no feature that is named. -/
structure ObservationDraft.IsUnfeatured (draft : ObservationDraft) (datastream : EntityId) :
    Prop where
  datastream : draft.datastream = some (.reference datastream)
  feature : draft.feature = none

/-- An observation can be made of a draft: its identifier is free, if it has one, and its result is
one for its datastream. -/
structure ObservationDraft.IsAcceptable (draft : ObservationDraft) (tables : Tables)
    (datastream : EntityId) : Prop where
  free : ∀ id, draft.id = some id → tables.contains .observation id = false
  typed : ∃ (stream : Datastream) (raw : Json) (result : ObservedValue),
    tables.find? .datastream datastream = some stream ∧ draft.result = some raw ∧
      stream.observationType.result raw = .ok result

/-- An observation of a datastream is made about the feature that is like a location: one that is
there, or else a new one. -/
structure Observation.ArisesAt (observation : Observation) (datastream : EntityId)
    (location : Location) (before after : Tables) : Prop where
  placed : before.placeOf? datastream = some location
  stays : after.placeOf? datastream = some location
  streamed : observation.datastream = datastream
  observed : after.find? .observation observation.id = some observation
  grouped : after.IsDatasetOf observation.dataset datastream observation.feature
  features : before.featureLike? location = some observation.feature ∧
      (∀ id, after.find? .featureOfInterest id = before.find? .featureOfInterest id) ∨
    before.featureLike? location = none ∧ ∀ id, after.find? .featureOfInterest id =
      (before.put .featureOfInterest (location.asFeature observation.feature)).find?
        .featureOfInterest id
  datasets : ∀ {dataset}, before.IsDatasetOf dataset datastream observation.feature →
    before.IsDatasetOf observation.dataset datastream observation.feature ∧
      ∀ place, after.contains .dataset place = before.contains .dataset place

namespace Change

variable {environment : Environment} {before after : Progress} {id datastream : EntityId}
  {draft : ObservationDraft}

theorem returns_derivedFeature_iff (derives : environment.config.deriveFeature = true)
    {thing : EntityId} : (derivedFeature thing).Returns environment before id after ↔
      (featureOfThing thing).Returns environment before id after := by
  unfold derivedFeature
  rw [returns_bind_of_reads returns_config]
  simp [derives]

theorem returns_insertObservation_unfeatured_iff {draft : ObservationDraft} {datastream : EntityId}
    (derives : environment.config.deriveFeature = true)
    (unfeatured : draft.IsUnfeatured datastream) :
    (insertObservation none draft).Returns environment before id after ↔
      ∃ raw first stream result feature second, draft.result = some raw ∧
        (claim .observation draft.id).Returns environment before id first ∧
        first.tables.find? .datastream datastream = some stream ∧
        stream.observationType.result raw = .ok result ∧
        (featureOfThing stream.thing).Returns environment first feature second ∧
        (addObservation id draft.phenomenonTime draft.resultTime draft.validTime draft.parameters
          result stream feature).Returns environment second () after := by
  obtain ⟨given, phenomenonTime, resultTime, validTime, parameters, result, link, feature⟩ := draft
  obtain ⟨rfl, rfl⟩ : link = some (.reference datastream) ∧ feature = none :=
    ⟨unfeatured.datastream, unfeatured.feature⟩
  unfold insertObservation ObservationOwner.datastream? ObservationOwner.feature? ownerDatastream
    createDatastream ownerFeature
  simp only [returns_bind_of_reads returns_requireThat, returns_bind_of_reads returns_require,
    returns_bind_of_reads (returns_fetch .datastream), returns_bind_of_reads returns_ofExcept,
    returns_bind, returns_existing, returns_derivedFeature_iff derives, returns_pure]
  constructor
  · rintro ⟨_, -, raw, sent, _, first, claimed, _, _, ⟨-, rfl, rfl⟩, stream, found, result, typed,
      feature, second, derived, _, _, added, rfl, rfl⟩
    exact ⟨raw, first, stream, result, feature, second, sent, claimed, found, typed, derived, added⟩
  · rintro ⟨raw, first, stream, result, feature, second, sent, claimed, found, typed, derived,
      added⟩
    exact ⟨(), rfl, raw, sent, id, first, claimed, datastream, first,
      ⟨Tables.contains_of_find? found, rfl, rfl⟩, stream, found, result, typed, feature, second,
      derived, (), after, added, rfl, rfl⟩

theorem Returns.arisesAt {stream : Datastream} {first second : Progress} {observation : Observation}
    (found : before.tables.find? .datastream datastream = some stream)
    (same : first.tables = before.tables)
    (derived : (Change.featureOfThing stream.thing).Returns environment first observation.feature
      second)
    (joins : observation.Joins stream second.tables after.tables) :
    ∃ location, observation.ArisesAt datastream location before.tables after.tables ∧
      ∀ keys, environment.Fresh keys first → before.tables.featureLike? location = none →
        before.tables.find? .featureOfInterest observation.feature = none := by
  obtain rfl : stream.id = datastream := Tables.idOf_of_find? found
  have others {kind : EntityKind} (other : kind ≠ .featureOfInterest) (place : EntityId) :
      second.tables.find? kind place = before.tables.find? kind place := by
    rw [derived.featureOfThing_others other, same]
  obtain ⟨location, place, chosen⟩ := returns_featureOfThing_iff.1 derived
  rw [same] at place chosen
  have later : after.tables.placeOfThing? stream.thing = some location := by
    rw [← place]
    apply Tables.placeOfThing?_congr
    · intro id
      rw [joins.others _ (by decide), others (by decide)]
    · intro id
      rw [joins.others _ (by decide), others (by decide)]
  have arises : observation.ArisesAt stream.id location before.tables after.tables := by
    constructor
    case placed => exact (Tables.placeOf?_of_find? found).trans place
    case stays => exact (Tables.placeOf?_of_find? joins.streamed).trans later
    case streamed => exact joins.datastream
    case observed => exact joins.observed
    case grouped => exact joins.grouped
    case features =>
      obtain ⟨looked, rfl⟩ | ⟨looked, middle, drawn, rfl⟩ := chosen
      · exact .inl ⟨looked, fun id => (joins.others id (by decide)).trans (by rw [same])⟩
      · refine .inr ⟨looked, fun id => (joins.others id (by decide)).trans ?_⟩
        rw [Progress.save_tables, drawn.featureId_tables, same]
    case datasets =>
      rintro dataset ⟨row, there, pair⟩
      obtain ⟨⟨used, found, pair⟩, contains⟩ :=
        joins.datasets ⟨row, (others (by decide) _).trans there, pair⟩
      refine ⟨⟨used, (others (by decide) _).symm.trans found, pair⟩, fun place => ?_⟩
      rw [contains place, Tables.contains, Tables.contains, others (by decide)]
  refine ⟨location, arises, fun keys fresh nothing => ?_⟩
  obtain ⟨looked, -⟩ | ⟨-, middle, drawn, -⟩ := chosen
  · rw [nothing] at looked
    contradiction
  · rw [← same]
    exact fresh.free_of_featureId drawn

theorem Returns.unfeatured (derives : environment.config.deriveFeature = true)
    (unfeatured : draft.IsUnfeatured datastream)
    (ran : (Change.insertObservation none draft).Returns environment before id after) :
    ∃ (location : Location) (observation : Observation), observation.id = id ∧
      observation.ArisesAt datastream location before.tables after.tables ∧
      ∀ keys, environment.Fresh keys before → before.tables.featureLike? location = none →
        before.tables.find? .featureOfInterest observation.feature = none := by
  obtain ⟨raw, first, stream, result, feature, second, -, claimed, found, -, derived, added⟩ :=
    (returns_insertObservation_unfeatured_iff derives unfeatured).1 ran
  have same : stream.id = datastream := Tables.idOf_of_find? found
  have streamed : second.tables.find? .datastream stream.id = some stream := by
    rw [derived.featureOfThing_others (by decide), same, found]
  obtain ⟨observation, rfl, rfl, joins⟩ := added.joins streamed derived.featureOfThing.there
  rw [claimed.claim_tables] at found
  obtain ⟨location, arises, free⟩ := Returns.arisesAt found claimed.claim_tables derived joins
  exact ⟨location, observation, rfl, arises, fun keys fresh => free keys (fresh.of_claim claimed)⟩

theorem succeeds_unfeatured {location : Location}
    (derives : environment.config.deriveFeature = true)
    (unfeatured : draft.IsUnfeatured datastream)
    (acceptable : draft.IsAcceptable before.tables datastream)
    (placed : before.tables.placeOf? datastream = some location) :
    (insertObservation none draft).Succeeds environment before := by
  obtain ⟨stream, raw, result, found, sent, typed⟩ := acceptable.typed
  have claims : (claim .observation draft.id).Succeeds environment before := by
    cases given : draft.id with
    | none => exact ⟨_, _, returns_claim.2 (.inl ⟨rfl, rfl, rfl⟩)⟩
    | some id => exact ⟨id, _, returns_claim.2 (.inr ⟨rfl, acceptable.free id given, rfl⟩)⟩
  obtain ⟨id, first, claimed⟩ := claims
  rw [Tables.placeOf?_of_find? found, ← claimed.claim_tables] at placed
  rw [← claimed.claim_tables] at found
  obtain ⟨feature, second, derived⟩ : (featureOfThing stream.thing).Succeeds environment first :=
    succeeds_featureOfThing placed
  have same : stream.id = datastream := Tables.idOf_of_find? found
  have streamed : second.tables.find? .datastream stream.id = some stream := by
    rw [derived.featureOfThing_others (by decide), same, found]
  obtain ⟨_, after, added⟩ : (addObservation id draft.phenomenonTime draft.resultTime
      draft.validTime draft.parameters result stream feature).Succeeds environment second :=
    succeeds_addObservation streamed derived.featureOfThing.there
  exact ⟨id, after, (returns_insertObservation_unfeatured_iff derives unfeatured).2
    ⟨raw, first, stream, result, feature, second, sent, claimed, found, typed, derived, added⟩⟩

theorem returns_requestObservation_iff {body : Json}
    (read : ObservationDraft.ofJson? body = some draft) (unfeatured : draft.IsUnfeatured datastream) :
    (ofRequest (.create .observation body)).Returns environment before (some id) after ↔
      (insertObservation none draft).Returns environment before id after := by
  have isBody : draft.link = .body draft := by
    have fields : draft.hasFields = true := by
      simp [ObservationDraft.hasFields, unfeatured.datastream]
    rw [ObservationDraft.link, fields, Link.make_true]
  unfold ofRequest create
  simp only [Change.draft, read, pure_bind, isBody, createObservation, returns_bind, returns_pure,
    Option.some.injEq]
  constructor
  · rintro ⟨_, _, ran, rfl, rfl⟩
    exact ran
  · exact fun ran => ⟨id, after, ran, rfl, rfl⟩

end Change

namespace Observation.ArisesAt

variable {observation other : Observation} {datastream stream : EntityId}
  {location place : Location} {before middle after : Tables}

theorem exists_isLike (arises : observation.ArisesAt datastream location before after)
    (proper : location.location.IsProper) : ∃ feature : FeatureOfInterest,
      after.find? .featureOfInterest observation.feature = some feature ∧
        feature.IsLike location := by
  obtain ⟨looked, same⟩ | ⟨-, same⟩ := arises.features
  · obtain ⟨feature, found, like⟩ := Tables.exists_of_featureLike? looked
    exact ⟨feature, (same _).trans found, like⟩
  · refine ⟨_, (same _).trans (Tables.find?_put_self _ _ rfl), ?_⟩
    exact Location.isLike_asFeature proper _

theorem featureLike? (arises : observation.ArisesAt datastream location before after)
    (proper : location.location.IsProper) :
    after.featureLike? location = some observation.feature := by
  have agrees : location.Agrees location := ⟨proper.same_self, rfl⟩
  obtain ⟨looked, same⟩ | ⟨nothing, same⟩ := arises.features
  · rw [Tables.featureLike?_congr same agrees, looked]
  · rw [Tables.featureLike?_congr same agrees]
    exact Tables.featureLike?_put nothing (Location.isLike_asFeature proper _)

theorem eq_of_featureLike? (arises : observation.ArisesAt datastream location before after)
    {feature : EntityId} (looked : before.featureLike? location = some feature) :
    observation.feature = feature ∧
      ∀ id, after.find? .featureOfInterest id = before.find? .featureOfInterest id := by
  obtain ⟨found, same⟩ | ⟨nothing, -⟩ := arises.features
  · exact ⟨Option.some.inj (found.symm.trans looked), same⟩
  · rw [nothing] at looked
    contradiction

end Observation.ArisesAt

namespace Store

variable {store : Store} {environment : Environment} {body : Json} {draft : ObservationDraft}
  {datastream : EntityId} {location : Location}

/-- Acceptable requests for an observation of a datastream that name no feature succeed where
features are derived, and make what is expected. -/
def Makes (store : Store) (datastream : EntityId) (expected : Observation → Store → Prop) : Prop :=
  ∀ (environment : Environment) (body : Json) (draft : ObservationDraft),
    environment.config.deriveFeature = true → ObservationDraft.ofJson? body = some draft →
    draft.IsUnfeatured datastream → draft.IsAcceptable store.tables datastream →
    ∃ (after : Store) (observation : Observation),
      store.change environment (Change.ofRequest (.create .observation body)) =
        (.ok (some observation.id), after) ∧
      after.tables.find? .observation observation.id = some observation ∧
      expected observation after

theorem makes_arisesAt (placed : store.tables.placeOf? datastream = some location) :
    store.Makes datastream fun observation after =>
      observation.ArisesAt datastream location store.tables after.tables := by
  intro environment body draft derives read unfeatured acceptable
  have acceptable : draft.IsAcceptable (Progress.start store.tables).tables datastream := acceptable
  obtain ⟨id, last, ran⟩ := Change.succeeds_unfeatured derives unfeatured acceptable placed
  obtain ⟨place, observation, rfl, arises, -⟩ := ran.unfeatured derives unfeatured
  obtain rfl : place = location := Option.some.inj (arises.placed.symm.trans placed)
  obtain ⟨outcome, tables⟩ :=
    change_of_returns ((Change.returns_requestObservation_iff read unfeatured).2 ran)
  rw [← tables] at arises
  exact ⟨_, observation, Prod.ext outcome rfl, arises.observed, arises⟩

/-- In every store that is reached, an observation that names no feature is about one with the
geometry and the description of the place where the thing of its datastream was put last. If there
is none, one is made from the place, under an identifier that no feature has. The next such
observation of the datastream has the same feature and the same dataset; and as long as the features
stay as they are, so has one of any thing whose place has that geometry and that description. -/
theorem reachable_derived_feature {after : Store} {id : EntityId}
    (reachable : store.Reachable fun request => request.numbersFit = true)
    (fresh : environment.Fresh (ChangeRequest.create .observation body).keys (.start store.tables))
    (derives : environment.config.deriveFeature = true)
    (read : ObservationDraft.ofJson? body = some draft) (unfeatured : draft.IsUnfeatured datastream)
    (made : store.change environment (Change.ofRequest (.create .observation body)) =
      (.ok (some id), after)) :
    ∃ (location : Location) (observation : Observation) (feature : FeatureOfInterest),
      store.tables.placeOf? datastream = some location ∧
      after.tables.find? .observation id = some observation ∧ observation.datastream = datastream ∧
      after.tables.find? .featureOfInterest observation.feature = some feature ∧
      feature.IsLike location ∧
      ((∀ other, after.tables.find? .featureOfInterest other =
          store.tables.find? .featureOfInterest other) ∨
        (∀ other row, store.tables.find? .featureOfInterest other = some row →
          ¬row.IsLike location) ∧
        store.tables.contains .featureOfInterest observation.feature = false ∧
        feature.autoGenerated = true ∧
        ∀ other, other ≠ observation.feature → after.tables.find? .featureOfInterest other =
          store.tables.find? .featureOfInterest other) ∧
      (after.Makes datastream fun other last =>
        other.feature = observation.feature ∧ other.dataset = observation.dataset ∧
        ∀ place, last.tables.contains .featureOfInterest place =
            after.tables.contains .featureOfInterest place ∧
          last.tables.contains .dataset place = after.tables.contains .dataset place) ∧
      ∀ (later : Store) (stream : EntityId) (place : Location),
        (∀ other, later.tables.find? .featureOfInterest other =
          after.tables.find? .featureOfInterest other) →
        later.tables.placeOf? stream = some place → place.Agrees location →
        later.Makes stream fun other last =>
          other.feature = observation.feature ∧ ∀ id,
            last.tables.contains .featureOfInterest id =
              later.tables.contains .featureOfInterest id := by
  obtain ⟨last, ran, tables⟩ := change_ok (congrArg Prod.fst made)
  rw [made] at tables
  have ran := (Change.returns_requestObservation_iff read unfeatured).1 ran
  obtain ⟨location, observation, rfl, arises, free⟩ := ran.unfeatured derives unfeatured
  rw [← tables] at arises
  obtain ⟨place, located⟩ := Tables.exists_of_placeOf? arises.placed
  have proper : location.location.IsProper :=
    (reachable.storable (fun _ fits => fits) .location place location located).2
  obtain ⟨feature, found, like⟩ := arises.exists_isLike proper
  have looked := arises.featureLike? proper
  refine ⟨location, observation, feature, arises.placed, arises.observed, arises.streamed, found,
    like, ?_, ?_, ?_⟩
  case refine_1 =>
    obtain ⟨-, same⟩ | ⟨nothing, same⟩ := arises.features
    · exact .inl same
    · have written (other : EntityId) : after.tables.find? .featureOfInterest other =
          if observation.feature = other then some (location.asFeature observation.feature)
          else store.tables.find? .featureOfInterest other :=
        (same other).trans (Tables.find?_put ..)
      refine .inr ⟨fun _ _ => Tables.not_isLike_of_featureLike? nothing, ?_, ?_, ?_⟩
      · rw [Tables.contains, Option.isSome_eq_false_iff, Option.isNone_iff_eq_none]
        exact free _ fresh nothing
      · rw [written, if_pos rfl] at found
        exact congrArg FeatureOfInterest.autoGenerated (Option.some.inj found).symm
      · intro other different
        rw [written, if_neg different.symm]
  case refine_2 =>
    have attained : after.Attained := by
      have next := Attained.change environment (.create .observation body) reachable.attained
      rwa [made] at next
    intro again sent next derives read unfeatured acceptable
    obtain ⟨last, other, succeeded, observed, arisesNext⟩ :=
      makes_arisesAt arises.stays again sent next derives read unfeatured acceptable
    obtain ⟨sameFeature, sameFeatures⟩ := arisesNext.eq_of_featureLike? looked
    obtain ⟨grouped, datasets⟩ := arisesNext.datasets (sameFeature ▸ arises.grouped)
    refine ⟨last, other, succeeded, observed, sameFeature, ?_, fun place => ⟨?_, datasets place⟩⟩
    · exact grouped.unique attained.keyed (sameFeature ▸ arises.grouped)
    · rw [Tables.contains, Tables.contains, sameFeatures]
  case refine_3 =>
    intro later stream place same placed agrees again sent next derives read unfeatured acceptable
    obtain ⟨last, other, succeeded, observed, arisesNext⟩ :=
      makes_arisesAt placed again sent next derives read unfeatured acceptable
    rw [← Tables.featureLike?_congr same agrees] at looked
    obtain ⟨sameFeature, sameFeatures⟩ := arisesNext.eq_of_featureLike? looked
    refine ⟨last, other, succeeded, observed, sameFeature, fun id => ?_⟩
    rw [Tables.contains, Tables.contains, sameFeatures]

end Store

/-! A datastream whose thing is somewhere, and an observation of it that names no feature. -/
namespace LocatedStream

open FirstObservation

def locationBody : Json :=
  described [("encodingType", .string "e"),
    ("location", .object [("type", .string "MultiPoint"), ("coordinates", .array [])])]

def thingBody : Json :=
  described [("Locations", .array [locationBody])]

def body : Json :=
  described [("unitOfMeasurement", .object []),
    ("observationType", .string ObservationType.text.uri), ("Thing", thingBody),
    ("Sensor", sensorBody), ("ObservedProperty", propertyBody)]

def draft : DatastreamDraft :=
  ⟨none, some "n", some "d", some ⟨none, none, none⟩, some ObservationType.text.uri, none,
    some (.body ⟨none, some "n", some "d", none,
      some [.body ⟨none, some "n", some "d", some "e", some (.bare (.multiPoint [])), none, none,
        none⟩], none, none⟩),
    some (.body ⟨none, some "n", some "d", some "e", some "m", none, none⟩),
    some (.body ⟨none, some "n", some "u", some "d", none, none⟩), none⟩

theorem read_location : LocationDraft.ofJson? locationBody =
    some ⟨none, some "n", some "d", some "e", some (.bare (.multiPoint [])), none, none, none⟩ := by
  rw [LocationDraft.ofJson?]
  rfl

theorem read_thing : ThingDraft.ofJson? thingBody =
    some ⟨none, some "n", some "d", none,
      some [.body ⟨none, some "n", some "d", some "e", some (.bare (.multiPoint [])), none, none,
        none⟩], none, none⟩ := by
  have locations : thingBody.inners? ThingDraft.names "Locations" =
      some (some [⟨locationBody, by decide⟩]) := rfl
  rw [ThingDraft.ofJson?, locations]
  simp only [Option.bind_eq_bind, Option.bind_some, Option.mapM_some, List.mapM_cons,
    List.mapM_nil, read_location]
  rfl

theorem read_body : DatastreamDraft.ofJson? body = some draft := by
  have thing : body.inner? DatastreamDraft.names "Thing" = some ⟨thingBody, by decide⟩ := rfl
  have sensor : body.inner? DatastreamDraft.names "Sensor" = some ⟨sensorBody, by decide⟩ := rfl
  have property : body.inner? DatastreamDraft.names "ObservedProperty" =
      some ⟨propertyBody, by decide⟩ := rfl
  have observations : body.inners? DatastreamDraft.names "Observations" = some none := rfl
  rw [DatastreamDraft.ofJson?, thing, sensor, property, observations]
  simp only [Option.bind_eq_bind, Option.bind_some, Option.mapM_some, read_thing, read_sensor,
    read_property]
  rfl

def request : ChangeRequest :=
  .create .datastream body

def store : Store :=
  (Store.change ⟨{}, 0⟩ environment (Change.ofRequest request)).2

theorem keys_request : request.keys = [] := by
  simp only [request, ChangeRequest.keys, Outline.ofJson, read_body]
  rfl

theorem reachable {allowed : ChangeRequest → Prop} (isAllowed : allowed request) :
    store.Reachable allowed := by
  refine .change environment request .empty isAllowed (fresh_empty ?_)
  rw [keys_request]
  simp

theorem placed : (store.tables.placeOf? (environment.fresh 1)).isSome = true := by
  unfold store Store.change Change.start request
  simp only [Change.ofRequest, Change.create, Change.draft, read_body]
  decide +kernel

theorem typed : (store.tables.find? .datastream (environment.fresh 1)).map
    Datastream.observationType = some .text := by
  unfold store Store.change Change.start request
  simp only [Change.ofRequest, Change.create, Change.draft, read_body]
  decide +kernel

theorem unstarred : (EntityKind.all.all fun kind => (store.tables.entities kind).all fun entity =>
    (kind.idOf entity).text.toList.all (· != '*')) = true := by
  unfold store Store.change Change.start request
  simp only [Change.ofRequest, Change.create, Change.draft, read_body]
  decide +kernel

def observationBody : Json :=
  .object [("result", .string "r"), ("Datastream", .object [("@iot.id", .string "+")])]

def observationDraft : ObservationDraft :=
  ⟨none, none, none, none, none, some (.string "r"), some (.reference (environment.fresh 1)), none⟩

theorem read_observation : ObservationDraft.ofJson? observationBody = some observationDraft := by
  have datastream : observationBody.inner? ObservationDraft.names "Datastream" =
      some ⟨.object [("@iot.id", .string "+")], by decide⟩ := rfl
  have reference : DatastreamDraft.ofJson? (.object [("@iot.id", .string "+")]) =
      some (.ofId (environment.fresh 1)) := by
    rw [DatastreamDraft.ofJson?]
    rfl
  rw [ObservationDraft.ofJson?, datastream]
  simp only [Option.mapM_some, reference]
  rfl

theorem unfeatured : observationDraft.IsUnfeatured (environment.fresh 1) :=
  ⟨rfl, rfl⟩

theorem acceptable : observationDraft.IsAcceptable store.tables (environment.fresh 1) := by
  obtain ⟨stream, found, isText⟩ := Option.map_eq_some_iff.1 typed
  refine ⟨nofun, stream, .string "r", .text "r", found, rfl, ?_⟩
  rw [isText]
  rfl

theorem fresh : later.Fresh (ChangeRequest.create .observation observationBody).keys
    (.start store.tables) := by
  have nothing : (ChangeRequest.create .observation observationBody).keys = [] := by
    simp only [ChangeRequest.keys, Outline.ofJson, read_observation]
    rfl
  rw [nothing]
  exact later_fresh unstarred

end LocatedStream

namespace Store

open LocatedStream in
/-- The first observation of a thing at a place is about the place. -/
theorem reachable_derived_feature_located_stream :
    ∃ (id : EntityId) (after : Store),
      store.change FirstObservation.later
          (Change.ofRequest (.create .observation observationBody)) = (.ok (some id), after) ∧
        ∃ (location : Location) (observation : Observation) (feature : FeatureOfInterest),
          store.tables.placeOf? (FirstObservation.environment.fresh 1) = some location ∧
          after.tables.find? .observation id = some observation ∧
          after.tables.find? .featureOfInterest observation.feature = some feature ∧
          feature.IsLike location := by
  obtain ⟨location, located⟩ := Option.isSome_iff_exists.1 placed
  obtain ⟨after, observation, made, -⟩ :=
    makes_arisesAt located FirstObservation.later observationBody _ rfl read_observation unfeatured
      acceptable
  have fits : request.numbersFit = true := by decide
  obtain ⟨place, other, feature, placed, observed, -, found, like, -⟩ :=
    reachable_derived_feature (reachable fits) fresh rfl read_observation unfeatured made
  exact ⟨_, after, made, place, other, feature, placed, observed, found, like⟩

end Store

end SensorThings
