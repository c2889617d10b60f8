import SensorThings.Proofs.Change.Bounds
import SensorThings.Proofs.Change.SharedKeys
import SensorThings.Proofs.Change.StoredResults
import SensorThings.Proofs.Draft.Represented

/-!
Revisions by which entities are repeated. What a client gets of an entity is a revision of it that
changes nothing, with one exception: a unit without a symbol is found by no look-up, so a
datastream sent with such a unit gets a new one.
-/
namespace SensorThings

namespace Change

variable {α β : Type} {environment : Environment} {before after : Progress} {id : EntityId}

/-- The change succeeds with a value and leaves the tables as they are. -/
def Idles (change : Change α) (environment : Environment) (before : Progress) (value : α) : Prop :=
  ∃ after, change.Returns environment before value after ∧ after.tables = before.tables

theorem Idles.bind {change : Change α} {next : α → Change β} {value : α} {result : β}
    (first : change.Idles environment before value)
    (rest : ∀ middle, middle.tables = before.tables →
      (next value).Idles environment middle result) :
    (change >>= next).Idles environment before result := by
  obtain ⟨middle, ran, same⟩ := first
  obtain ⟨after, ranOn, sameOn⟩ := rest middle same
  exact ⟨after, returns_bind.2 ⟨value, middle, ran, ranOn⟩, sameOn.trans same⟩

theorem idles_pure (value : α) : (pure value : Change α).Idles environment before value :=
  ⟨before, returns_pure.2 ⟨rfl, rfl⟩, rfl⟩

theorem Idles.of_reads {change : Change α} {next : α → Change β} {result : β} (value : α)
    (reads : change.Returns environment before value before)
    (rest : (next value).Idles environment before result) :
    (change >>= next).Idles environment before result := by
  obtain ⟨after, ran, same⟩ := rest
  exact ⟨after, returns_bind.2 ⟨value, before, reads, ran⟩, same⟩

theorem Idles.of_checks {kind : EntityKind} {entity : kind.Entity} {hasBodies given : Bool}
    {relation : FixedRelation} {next : kind.Entity → Change β} {result : β}
    (found : before.tables.find? kind id = some entity) (plain : hasBodies = false)
    (absent : given = false) (rest : (next entity).Idles environment before result) :
    Idles (do
        let row ← fetch kind id
        refuseBodies kind hasBodies
        refuse relation given
        next row)
      environment before result :=
  .of_reads entity ((returns_fetch kind).2 ⟨found, rfl⟩) <|
    .of_reads () (returns_refuseBodies.2 ⟨plain, rfl⟩) <|
    .of_reads () (returns_refuse.2 ⟨absent, rfl⟩) rest

theorem idles_save {kind : EntityKind} {old new : kind.Entity}
    (found : before.tables.find? kind id = some old) (same : new = old) :
    (save kind new).Idles environment before () := by
  subst same
  refine ⟨_, returns_save.2 rfl, ?_⟩
  rw [Progress.save_tables, Tables.put_self found]

/-! Entities that are revised by what is read of them. -/

theorem idles_reviseThing {thing : Thing} (found : before.tables.find? .thing id = some thing) :
    (reviseThing id ⟨some thing.id, some thing.name, some thing.description, thing.properties, none,
      none, none⟩).Idles environment before () :=
  .of_checks found rfl rfl ((idles_save found (by simp)).bind fun _ _ => idles_pure ())

theorem idles_reviseLocation {location : Location}
    (found : before.tables.find? .location id = some location) :
    (reviseLocation id ⟨some location.id, some location.name, some location.description,
      some location.encodingType, some (.bare location.location), location.properties, none,
      none⟩).Idles environment before () :=
  .of_checks found rfl rfl (idles_save found (by simp [SentGeometry.geometry]))

theorem idles_reviseHistoricalLocation {historical : HistoricalLocation}
    (found : before.tables.find? .historicalLocation id = some historical) :
    (reviseHistoricalLocation id ⟨some historical.id, some historical.time, none, none⟩).Idles
      environment before () :=
  .of_checks found rfl rfl (idles_save found rfl)

theorem idles_reviseSensor {sensor : Sensor}
    (found : before.tables.find? .sensor id = some sensor) :
    (reviseSensor id ⟨some sensor.id, some sensor.name, some sensor.description,
      some sensor.encodingType, some sensor.metadata, sensor.properties, none⟩).Idles environment
      before () :=
  .of_checks found rfl rfl (idles_save found (by simp))

theorem idles_reviseObservedProperty {property : ObservedProperty}
    (found : before.tables.find? .observedProperty id = some property) :
    (reviseObservedProperty id ⟨some property.id, some property.name, some property.definition,
      some property.description, property.properties, none⟩).Idles environment before () :=
  .of_checks found rfl rfl (idles_save found (by simp))

theorem idles_reviseFeature {feature : FeatureOfInterest}
    (found : before.tables.find? .featureOfInterest id = some feature) :
    (reviseFeature id ⟨some feature.id, some feature.name, some feature.description,
      some feature.featureType, some (.bare feature.feature), feature.properties, none⟩).Idles
      environment before () :=
  .of_checks found rfl rfl (idles_save found (by simp [SentGeometry.geometry]))

/-! A unit with a symbol is found again; one without is made anew. -/

theorem returns_unitFor_of_symbol {unit : UnitOfMeasurement} {symbol : String}
    (keyed : before.tables.Keyed)
    (found : before.tables.find? .unitOfMeasurement id = some unit)
    (named : unit.symbol = some symbol) :
    (unitFor ⟨unit.name, unit.symbol, unit.definition⟩).Returns environment before id before := by
  have same : unit.id = id := Tables.idOf_of_find? found
  have first : before.tables.findWhere? .unitOfMeasurement
      (.equal (.here "symbol") (.text symbol)) = some unit := by
    apply Tables.findWhere?_of_only (Tables.find?_idOf found)
    · exact (before.tables.selects_symbol symbol unit).2 named
    · intro place other there selected
      have shared := (before.tables.selects_symbol symbol other).1 selected
      have one : place = id :=
        keyed .unitOfMeasurement place id other unit there found ⟨symbol, shared, named⟩
      rw [one, found] at there
      exact (Option.some.inj there).symm
  unfold unitFor unitOfSymbol?
  rw [named]
  refine returns_bind.2 ⟨some id, before, returns_idWhere?.2 ⟨?_, rfl⟩, returns_pure.2 ⟨rfl, rfl⟩⟩
  rw [first, Option.map_some]
  exact congrArg some same

theorem returns_unitFor_of_none {unit : UnitDraft} (unnamed : unit.symbol = none) :
    (unitFor unit).Returns environment before (environment.fresh (before.drawn + 1))
      (before.draw.save .unitOfMeasurement {
        id := environment.fresh (before.drawn + 1)
        name := unit.name
        symbol := unit.symbol
        definition := unit.definition }) := by
  have missing : (unitOfSymbol? unit.symbol).Returns environment before none before := by
    rw [unnamed]
    exact returns_pure.2 ⟨rfl, rfl⟩
  refine returns_bind.2 ⟨none, before, missing, ?_⟩
  simp only [returns_bind, returns_draw, returns_save, returns_pure]
  exact ⟨_, _, ⟨rfl, rfl⟩, (), _, rfl, rfl, rfl⟩

theorem exists_reviseDatastream {datastream : Datastream} {draft : UnitDraft} {unit : EntityId}
    {middle : Progress} (found : before.tables.find? .datastream id = some datastream)
    (measured : (unitFor draft).Returns environment before unit middle) :
    ∃ after, (reviseDatastream id ⟨some datastream.id, some datastream.name,
        some datastream.description, some draft, some datastream.observationType.uri,
        datastream.properties, none, none, none, none⟩).Returns environment before () after ∧
      after.tables = middle.tables.put .datastream { datastream with unit } := by
  have retypes {stream : Datastream} (same : stream.observationType = datastream.observationType) :
      (retyped stream (some datastream.observationType.uri)).Returns environment middle stream
        middle := by
    unfold retyped
    refine returns_bind.2 ⟨_, _, returns_ofExcept.2 ⟨ObservationType.ofUri_uri _, rfl⟩, ?_⟩
    rw [if_pos same.symm]
    exact returns_pure.2 ⟨rfl, rfl⟩
  refine ⟨middle.save .datastream { datastream with unit }, ?_, Progress.save_tables ..⟩
  unfold reviseDatastream
  refine returns_bind.2 ⟨datastream, before, (returns_fetch .datastream).2 ⟨found, rfl⟩, ?_⟩
  refine returns_bind.2 ⟨(), before, returns_refuseBodies.2 ⟨rfl, rfl⟩, ?_⟩
  refine returns_bind.2 ⟨(), before, returns_pure.2 ⟨rfl, rfl⟩, ?_⟩
  refine returns_bind.2 ⟨(), before, returns_pure.2 ⟨rfl, rfl⟩, ?_⟩
  refine returns_bind.2 ⟨(), before, returns_pure.2 ⟨rfl, rfl⟩, ?_⟩
  refine returns_bind.2 ⟨(), before, returns_refuse.2 ⟨rfl, rfl⟩, ?_⟩
  refine returns_bind.2 ⟨unit, middle, measured, ?_⟩
  refine returns_bind.2 ⟨_, middle, retypes rfl, returns_save.2 ?_⟩
  simp

/-! Bounds and pointers that hold are found again. -/

theorem idles_summarizeDataset (summarized : before.tables.Summarized) (id : EntityId) :
    (summarizeDataset id).Idles environment before () := by
  obtain ⟨after, ran⟩ : ∃ after, (summarizeDataset id).Returns environment before () after :=
    exists_summarizeDataset
  refine ⟨after, ran, ran.summarizeDataset.tables_eq fun place row found => ?_⟩
  exact (summarized.pointers place row found).repointed_eq

theorem idles_summarizeBoth (summarized : before.tables.Summarized) (id : EntityId) :
    (summarizeBoth id id).Idles environment before () := by
  refine (idles_summarizeDataset summarized id).bind fun _ _ => ?_
  rw [if_neg (by simp)]
  exact idles_pure ()

theorem idles_summarizeDatastream (linked : before.tables.Linked)
    (summarized : before.tables.Summarized) (id : EntityId) :
    (summarizeDatastream id).Idles environment before () := by
  obtain ⟨after, ran⟩ : ∃ after, (summarizeDatastream id).Returns environment before () after :=
    exists_summarizeDatastream
  refine ⟨after, ran, ran.summarizeDatastream.tables_eq fun place row found => ?_⟩
  exact (summarized.bounds place row found).rebounded_eq linked

theorem idles_reviseObservation {observation : Observation} {stream : Datastream} {raw : Json}
    (linked : before.tables.Linked) (summarized : before.tables.Summarized)
    (found : before.tables.find? .observation id = some observation)
    (streamed : before.tables.find? .datastream observation.datastream = some stream)
    (read : stream.observationType.result raw = .ok observation.result) :
    (reviseObservation id ⟨some observation.id, some observation.phenomenonTime,
      some observation.resultTime, observation.validTime, observation.parameters, some raw, none,
      none⟩).Idles environment before () := by
  unfold reviseObservation
  refine .of_reads observation ((returns_fetch .observation).2 ⟨found, rfl⟩) ?_
  refine .of_reads () (returns_refuseBodies.2 ⟨rfl, rfl⟩) ?_
  refine .of_reads () (returns_pure.2 ⟨rfl, rfl⟩) ?_
  refine .of_reads stream ((returns_fetch .datastream).2 ⟨streamed, rfl⟩) ?_
  refine .of_reads observation (returns_pure.2 ⟨rfl, rfl⟩) ?_
  refine .of_reads observation.result (returns_ofExcept.2 ⟨read, rfl⟩) ?_
  refine (idles_save found (by simp)).bind fun first same => ?_
  rw [← same] at linked summarized
  refine Idles.bind (idles_summarizeBoth summarized _) fun second same => ?_
  rw [← same] at linked summarized
  exact idles_summarizeDatastream linked summarized _

theorem revise_of_draft {α : Type} {kind : EntityKind} {read? : Json → Option α} {body : Json}
    {draft : α} (read : read? body = some draft) {next : α → Change β} :
    (Change.draft kind read? body >>= next) = next draft := by
  rw [Change.draft, read, pure_bind]

end Change

/-- The instants of an entity that are written in the strict form, alone or as ends of intervals. -/
def EntityKind.strictInstants : (kind : EntityKind) → kind.Entity → List Instant
  | observation, entity =>
    (Observation.phenomenonTime entity).instants ++
      (Observation.validTime entity).toList.flatMap Interval.instants
  | _, _ => []

/-- A datastream has a unit that no look-up by symbol finds. -/
def Tables.LacksSymbol (tables : Tables) : (kind : EntityKind) → kind.Entity → Prop
  | .datastream, entity => ∃ unit : UnitOfMeasurement,
    tables.find? .unitOfMeasurement (Datastream.unit entity) = some unit ∧ unit.symbol = none
  | _, _ => False

namespace Store

def repetition (store : Store) (environment : Environment) (base : String) (kind : EntityKind)
    (id : EntityId) (entity : kind.Entity) : Except Failure (Option EntityId) × Store :=
  store.change environment
    (Change.ofRequest (.revise kind id (store.tables.represent base kind entity)))

variable {store : Store}

theorem exists_repetition {environment : Environment} {base : String} {kind : EntityKind}
    {id : EntityId} {entity : kind.Entity} {after : Progress}
    (ran : (Change.revise kind id (store.tables.represent base kind entity)).Returns environment
      (.start store.tables) () after) : ∃ next,
    store.repetition environment base kind id entity = (.ok none, next) ∧
      next.tables = after.tables := by
  have whole : (Change.ofRequest (.revise kind id (store.tables.represent base kind
      entity))).Returns environment (.start store.tables) none after :=
    Change.returns_ofRequest_revise.2 ⟨ran, rfl⟩
  obtain ⟨succeeded, tables⟩ := change_of_returns whole
  exact ⟨_, Prod.ext succeeded rfl, tables⟩

theorem Reachable.repeats_unit (reachable : store.Reachable ChangeRequest.IsSound)
    (environment : Environment) (base : String) {id : EntityId} {stream : Datastream}
    {unit : UnitOfMeasurement} (found : store.tables.find? .datastream id = some stream)
    (measured : store.tables.find? .unitOfMeasurement stream.unit = some unit)
    (unnamed : unit.symbol = none) : ∃ after,
    store.repetition environment base .datastream id stream = (.ok none, after) ∧
      after.tables =
        (store.tables.put .unitOfMeasurement { unit with id := environment.fresh 1 }).put
          .datastream { stream with unit := environment.fresh 1 } := by
  have free : stream.properties ≠ some .null :=
    reachable.storable (fun _ isSound => isSound.numbersFit) .datastream id stream found
  have read := Datastream.ofJson?_represent store.tables base free measured
  have made : (Change.unitFor ⟨unit.name, unit.symbol, unit.definition⟩).Returns environment
      (.start store.tables) (environment.fresh 1) _ := Change.returns_unitFor_of_none unnamed
  have found : (Progress.start store.tables).tables.find? .datastream id = some stream := found
  obtain ⟨after, ran, tables⟩ := Change.exists_reviseDatastream found made
  have ran : (Change.revise .datastream id (store.tables.represent base .datastream
      stream)).Returns environment (.start store.tables) () after := by
    rw [Change.revise, Change.revise_of_draft read]
    exact ran
  obtain ⟨next, repeated, same⟩ := exists_repetition ran
  refine ⟨next, repeated, ?_⟩
  rw [same, tables, Progress.save_tables, Progress.draw_tables]
  rfl

/-- In every store that is reached, a revision of an entity by what clients get of it succeeds and
changes no table, if the times of an observation and its interval of validity have years of four
digits. Only a datastream whose unit has no symbol gets a new one, like the one it had. -/
theorem reachable_repetition (reachable : store.Reachable ChangeRequest.IsSound)
    (environment : Environment) (base : String) :
    (∀ (kind : EntityKind) (id : EntityId) (entity : kind.Entity), kind.isPublic = true →
      store.tables.find? kind id = some entity →
      (∀ instant ∈ kind.strictInstants entity, instant.InFourDigits) →
      ¬store.tables.LacksSymbol kind entity → ∃ after,
        store.repetition environment base kind id entity = (.ok none, after) ∧
          after.tables = store.tables) ∧
    ∀ (id : EntityId) (stream : Datastream) (unit : UnitOfMeasurement),
      store.tables.find? .datastream id = some stream →
      store.tables.find? .unitOfMeasurement stream.unit = some unit → unit.symbol = none →
      ∃ after, store.repetition environment base .datastream id stream = (.ok none, after) ∧
        after.tables =
          (store.tables.put .unitOfMeasurement { unit with id := environment.fresh 1 }).put
            .datastream { stream with unit := environment.fresh 1 } := by
  refine ⟨?_, fun id stream unit => reachable.repeats_unit environment base⟩
  intro kind id entity isPublic found readable named
  suffices idles : (Change.revise kind id (store.tables.represent base kind entity)).Idles
      environment (.start store.tables) () by
    obtain ⟨after, ran, same⟩ := idles
    obtain ⟨next, repeated, tables⟩ := exists_repetition ran
    exact ⟨next, repeated, tables.trans same⟩
  have storable := reachable.storable (fun _ isSound => isSound.numbersFit) kind id entity found
  have found : (Progress.start store.tables).tables.find? kind id = some entity := found
  cases kind with
  | thing =>
    have read := Thing.ofJson?_represent store.tables base storable
    rw [Change.revise, Change.revise_of_draft read]
    exact Change.idles_reviseThing found
  | location =>
    have read := Location.ofJson?_represent store.tables base storable.1 storable.2
    rw [Change.revise, Change.revise_of_draft read]
    exact Change.idles_reviseLocation found
  | historicalLocation =>
    have read := HistoricalLocation.ofJson?_represent store.tables base entity
    rw [Change.revise, Change.revise_of_draft read]
    exact Change.idles_reviseHistoricalLocation found
  | sensor =>
    have read := Sensor.ofJson?_represent store.tables base storable
    rw [Change.revise, Change.revise_of_draft read]
    exact Change.idles_reviseSensor found
  | observedProperty =>
    have read := ObservedProperty.ofJson?_represent store.tables base storable
    rw [Change.revise, Change.revise_of_draft read]
    exact Change.idles_reviseObservedProperty found
  | datastream =>
    obtain ⟨-, -, -, contained, -⟩ := reachable.linked .datastream id entity found
    obtain ⟨unit, measured⟩ := Tables.contains_iff.1 contained
    obtain ⟨symbol, symbolized⟩ : ∃ symbol, unit.symbol = some symbol :=
      Option.ne_none_iff_exists'.1 fun unnamed => named ⟨unit, measured, unnamed⟩
    have read := Datastream.ofJson?_represent store.tables base storable measured
    have keyed : (Progress.start store.tables).tables.Keyed := reachable.attained.keyed
    rw [Change.revise, Change.revise_of_draft read]
    obtain ⟨after, ran, tables⟩ := Change.exists_reviseDatastream found
      (Change.returns_unitFor_of_symbol keyed measured symbolized)
    exact ⟨after, ran, tables.trans (Tables.put_self found)⟩
  | featureOfInterest =>
    have read := FeatureOfInterest.ofJson?_represent store.tables base storable.1 storable.2
    rw [Change.revise, Change.revise_of_draft read]
    exact Change.idles_reviseFeature found
  | observation =>
    obtain ⟨stream, streamed, fits⟩ :=
      (reachable.typed fun _ isSound => isSound.distinct).results id entity found
    have isStorable : (Observation.result entity).IsStorable := storable.2
    have summarized := reachable.summarized fun _ isSound => isSound.distinct
    have read := Observation.ofJson?_represent store.tables base storable.1
      (ObservedValue.toJson_ne_null isStorable) readable
    rw [Change.revise, Change.revise_of_draft read]
    exact Change.idles_reviseObservation reachable.linked summarized found streamed
      (ObservedValue.result_toJson fits isStorable)
  | dataset | unitOfMeasurement | format => contradiction

end Store

namespace FirstObservation

theorem unit_without_symbol : ∃ (stream : Datastream) (unit : UnitOfMeasurement),
    store.tables.find? .datastream (environment.fresh 1) = some stream ∧
      store.tables.find? .unitOfMeasurement stream.unit = some unit ∧ unit.symbol = none := by
  have unnamed : ((store.tables.find? .datastream (environment.fresh 1)).bind fun stream =>
      (store.tables.find? .unitOfMeasurement (Datastream.unit stream)).map
        UnitOfMeasurement.symbol) = some none := by
    unfold store Store.change Change.start request
    simp only [Change.ofRequest, Change.create, Change.draft, read_body]
    decide +kernel
  obtain ⟨stream, found, unnamed⟩ := Option.bind_eq_some_iff.1 unnamed
  obtain ⟨unit, measured, unnamed⟩ := Option.map_eq_some_iff.1 unnamed
  exact ⟨stream, unit, found, measured, unnamed⟩

theorem readable_observation : ∃ observation : Observation,
    store.tables.find? .observation (environment.fresh 7) = some observation ∧
      ∀ instant ∈ EntityKind.observation.strictInstants observation, instant.InFourDigits := by
  have readable : (store.tables.find? .observation (environment.fresh 7)).map (fun row =>
      decide (∀ instant ∈ EntityKind.observation.strictInstants row, instant.InFourDigits)) =
        some true := by
    unfold store Store.change Change.start request
    simp only [Change.ofRequest, Change.create, Change.draft, read_body]
    decide +kernel
  obtain ⟨observation, found, readable⟩ := Option.map_eq_some_iff.1 readable
  exact ⟨observation, found, of_decide_eq_true readable⟩

theorem undrawn_unit : store.tables.contains .unitOfMeasurement (later.fresh 1) = false := by
  unfold store Store.change Change.start request
  simp only [Change.ofRequest, Change.create, Change.draft, read_body]
  decide +kernel

end FirstObservation

namespace Store

open FirstObservation in
/-- The datastream of the store gets a unit that was not there when it is repeated. -/
theorem repeated_datastream_adds_unit :
    store.Reachable ChangeRequest.IsSound ∧
      store.tables.contains .unitOfMeasurement (later.fresh 1) = false ∧
      ∃ (stream : Datastream) (after : Store),
        store.tables.find? .datastream (environment.fresh 1) = some stream ∧
        store.repetition later "" .datastream (environment.fresh 1) stream = (.ok none, after) ∧
        after.tables.contains .unitOfMeasurement (later.fresh 1) = true ∧
        after.tables ≠ store.tables := by
  have reached : store.Reachable ChangeRequest.IsSound := reachable isSound
  obtain ⟨stream, unit, found, measured, unnamed⟩ := unit_without_symbol
  obtain ⟨after, repeated, same⟩ := reached.repeats_unit later "" found measured unnamed
  have made := Tables.contains_put_self store.tables .unitOfMeasurement
    { unit with id := later.fresh 1 }
  have added := Tables.contains_put_of_contains made .datastream
    { stream with unit := later.fresh 1 }
  rw [← same] at added
  refine ⟨reached, undrawn_unit, stream, after, found, repeated, added, ?_⟩
  intro unchanged
  rw [unchanged] at added
  exact Bool.noConfusion (undrawn_unit.symm.trans added)

open FirstObservation in
/-- The one observation of the store may be repeated. -/
theorem reachable_repetition_first_observation :
    ∃ (observation : Observation) (after : Store),
      store.tables.find? .observation (environment.fresh 7) = some observation ∧
        store.repetition later "" .observation (environment.fresh 7) observation =
          (.ok none, after) ∧
        after.tables = store.tables := by
  obtain ⟨observation, found, readable⟩ := readable_observation
  obtain ⟨after, repeated, unchanged⟩ := (reachable_repetition (reachable isSound) later "").1
    .observation _ observation rfl found readable id
  exact ⟨observation, after, found, repeated, unchanged⟩

end Store

end SensorThings
