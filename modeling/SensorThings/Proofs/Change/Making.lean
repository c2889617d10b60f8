import SensorThings.Proofs.Change.Creation

/-!
Making drafts is a creation. Every operation that makes something, when it succeeds, leads from one
progress to another by the steps of a creation, and what it gives back is there afterwards.
-/
namespace SensorThings

/-- An operation made the bodies of an outline, and the entity it gives back is there. -/
structure Made (environment : Environment) (outline : Outline) (kind : EntityKind)
    (before : Progress) (id : EntityId) (after : Progress) : Prop where
  creation : Creation environment outline before after
  there : after.tables.contains kind id = true

namespace Made

variable {environment : Environment} {kind : EntityKind} {outline more : Outline}
  {before middle after : Progress} {id : EntityId}

theorem existing (there : before.tables.contains kind id = true) :
    Made environment .nil kind before id before :=
  ⟨.nil before, there⟩

theorem bare (kind : EntityKind) (given : Option EntityId) (entity : kind.Entity)
    (isBare : kind.IsBare entity) (identified : kind.idOf entity = id)
    (claimed : (Change.claim kind given).Returns environment before id middle)
    (unshared : ∀ id other, before.tables.find? kind id = some other →
      ¬kind.SharesKey entity other) :
    Made environment (.named kind given .nil .nil) kind before id (middle.save kind entity) := by
  subst identified
  constructor
  · exact .bare kind entity isBare claimed unshared
  · exact Progress.contains_save_self _ _ _

theorem andThen (made : Made environment outline kind before id middle)
    (creation : Creation environment more middle after) :
    Made environment (outline ++ more) kind before id after :=
  ⟨made.creation.append creation, creation.contains made.there⟩

end Made

namespace Tables

@[simp] theorem selects_pair (tables : Tables) (datastream feature : EntityId) (dataset : Dataset) :
    tables.selects .dataset (.both (.equal (.here "datastreamId") (.text datastream.text))
      (.equal (.here "featureId") (.text feature.text))) dataset = true ↔
      dataset.datastream = datastream ∧ dataset.feature = feature := by
  have truth : tables.selects .dataset (.both
      (.equal (.here "datastreamId") (.text datastream.text))
      (.equal (.here "featureId") (.text feature.text))) dataset =
      (Truth.and (some (compare dataset.datastream.text datastream.text == .eq))
        (Truth.and (some (compare dataset.feature.text feature.text == .eq)) (some true)) ==
          some true) := rfl
  rw [truth, EntityId.compare_text_eq, EntityId.compare_text_eq]
  by_cases first : dataset.datastream = datastream <;>
    by_cases second : dataset.feature = feature <;>
    simp [first, second, Truth.and]

@[simp] theorem selects_format (tables : Tables) (uri : String) (format : Format) :
    tables.selects .format (.equal (.here "format") (.text uri)) format = true ↔
      format.format = uri := by
  have truth : tables.selects .format (.equal (.here "format") (.text uri)) format =
      (some (compare format.format uri == .eq) == some true) := rfl
  rw [truth, Text.compare_beq_eq]
  simp

@[simp] theorem selects_symbol (tables : Tables) (symbol : String) (unit : UnitOfMeasurement) :
    tables.selects .unitOfMeasurement (.equal (.here "symbol") (.text symbol)) unit = true ↔
      unit.symbol = some symbol := by
  obtain ⟨id, name, own, definition⟩ := unit
  cases own with
  | none => exact ⟨nofun, nofun⟩
  | some own =>
    have truth : tables.selects .unitOfMeasurement (.equal (.here "symbol") (.text symbol))
        ⟨id, name, some own, definition⟩ = (some (compare own symbol == .eq) == some true) := rfl
    rw [truth, Text.compare_beq_eq]
    simp

theorem not_selects_of_findWhere? {tables : Tables} {kind : EntityKind} {predicate : Predicate}
    {id : EntityId} {entity : kind.Entity}
    (nothing : (tables.findWhere? kind predicate).map kind.idOf = none)
    (found : tables.find? kind id = some entity) : ¬tables.selects kind predicate entity = true :=
  List.find?_eq_none.1 (Option.map_eq_none_iff.1 nothing) entity
    (mem_entities_iff.2 (find?_idOf found))

theorem findWhere?_of_only {tables : Tables} {kind : EntityKind} {predicate : Predicate}
    {entity : kind.Entity}
    (there : tables.find? kind (kind.idOf entity) = some entity)
    (selected : tables.selects kind predicate entity = true)
    (only : ∀ id other, tables.find? kind id = some other →
      tables.selects kind predicate other = true → other = entity) :
    tables.findWhere? kind predicate = some entity := by
  cases found : tables.findWhere? kind predicate with
  | none =>
    have none := List.find?_eq_none.1 found entity (mem_entities_iff.2 there)
    exact absurd selected none
  | some other =>
    have member := mem_entities_iff.1 (List.mem_of_find?_eq_some found)
    rw [only _ other member (List.find?_some found)]

end Tables

namespace Change

variable {environment : Environment} {before after : Progress} {id : EntityId}

theorem Returns.unitOfSymbol? {symbol : Option String} {found : Option EntityId}
    (ran : (unitOfSymbol? symbol).Returns environment before found after) :
    before = after ∧
      (∀ id, found = some id → before.tables.contains .unitOfMeasurement id = true) ∧
      (found = none → ∀ text, symbol = some text → ∀ id (unit : UnitOfMeasurement),
        before.tables.find? .unitOfMeasurement id = some unit → unit.symbol ≠ some text) := by
  cases symbol with
  | none =>
    obtain ⟨rfl, rfl⟩ := returns_pure.1 ran
    exact ⟨rfl, fun _ => nofun, fun _ _ => nofun⟩
  | some symbol =>
    obtain ⟨selected, rfl⟩ := returns_idWhere?.1 ran
    refine ⟨rfl, ?_, ?_⟩
    · rintro id rfl
      exact Tables.contains_of_findWhere? selected
    · rintro rfl _ ⟨⟩ id unit here had
      exact Tables.not_selects_of_findWhere? selected here
        ((before.tables.selects_symbol symbol unit).2 had)

theorem Returns.unitFor {draft : UnitDraft}
    (ran : (unitFor draft).Returns environment before id after) :
    Made environment .nil .unitOfMeasurement before id after ∧
      ∀ {kind} place, kind ≠ .unitOfMeasurement →
        after.tables.find? kind place = before.tables.find? kind place := by
  unfold Change.unitFor at ran
  obtain ⟨found, middle, looked, ran⟩ := returns_bind.1 ran
  obtain ⟨rfl, there, unused⟩ := looked.unitOfSymbol?
  cases found with
  | some found =>
    obtain ⟨rfl, rfl⟩ := returns_pure.1 ran
    exact ⟨.existing (there found rfl), fun _ _ => rfl⟩
  | none =>
    simp only [returns_bind, returns_draw, returns_save, returns_pure] at ran
    obtain ⟨_, _, ⟨rfl, rfl⟩, _, _, rfl, rfl, rfl⟩ := ran
    refine ⟨.bare .unitOfMeasurement none _ trivial rfl (returns_draw.2 ⟨rfl, rfl⟩) ?_, ?_⟩
    · rintro id other here ⟨symbol, given, had⟩
      exact unused rfl symbol given id other here had
    intro kind place different
    simp [different]

theorem Returns.formatFor {type : ObservationType}
    (ran : (formatFor type).Returns environment before id after) :
    Creation environment .nil before after ∧ after.tables.FormatHolds type id ∧
      ∀ {kind} place, kind ≠ .format →
        after.tables.find? kind place = before.tables.find? kind place := by
  unfold Change.formatFor at ran
  obtain ⟨found, _, looked, ran⟩ := returns_bind.1 ran
  obtain ⟨selected, rfl⟩ := returns_idWhere?.1 looked
  cases found with
  | some found =>
    obtain ⟨rfl, rfl⟩ := returns_pure.1 ran
    obtain ⟨format, here, rfl⟩ := Option.map_eq_some_iff.1 selected
    have there := Tables.mem_entities_iff.1 (List.mem_of_find?_eq_some here)
    have holds := (before.tables.selects_format _ _).1 (List.find?_some here)
    exact ⟨.nil before, ⟨format, there, holds⟩, fun _ _ => rfl⟩
  | none =>
    simp only [returns_bind, returns_draw, returns_save, returns_pure] at ran
    obtain ⟨_, _, ⟨rfl, rfl⟩, _, _, rfl, rfl, rfl⟩ := ran
    have unshared : ∀ place (other : Format), before.tables.find? .format place = some other →
        ¬type.uri = other.format := fun place other here same =>
      Tables.not_selects_of_findWhere? selected here
        ((before.tables.selects_format _ _).2 same.symm)
    have made : Creation environment .nil before (before.draw.save .format
        { id := environment.fresh (before.drawn + 1), format := type.uri }) :=
      (Made.bare .format none _ trivial rfl (returns_draw.2 ⟨rfl, rfl⟩) unshared).creation
    refine ⟨made, ⟨{ id := environment.fresh (before.drawn + 1), format := type.uri }, ?_, rfl⟩, ?_⟩
    · rw [Progress.save_tables]
      exact Tables.find?_put_self _ _ rfl
    · intro kind place different
      simp [different]

theorem nodup_eraseDups (ids : List EntityId) : ids.eraseDups.Nodup := by
  induction length : ids.length using Nat.strongRecOn generalizing ids with
  | ind size ih =>
    cases ids with
    | nil => simp
    | cons id rest =>
      have smaller : (rest.filter fun other => !other == id).length < size := by
        have := List.length_filter_le (fun other => !other == id) rest
        simp only [List.length_cons] at length
        omega
      rw [List.eraseDups_cons, List.nodup_cons]
      exact ⟨by simp [List.mem_eraseDups], ih _ smaller _ rfl⟩

theorem Returns.datasetFor {outline : Outline} {origin : Progress} {stream : Datastream}
    {feature : EntityId} (ran : (datasetFor stream feature).Returns environment before id after)
    (streamed : origin.tables.find? .datastream stream.id = some stream)
    (made : Creation environment outline origin before)
    (featureThere : before.tables.contains .featureOfInterest feature = true) :
    Creation environment outline origin after ∧
      (∃ dataset : Dataset, after.tables.find? .dataset id = some dataset ∧
        dataset.datastream = stream.id ∧ dataset.feature = feature) ∧
      ∀ {kind} place, kind ≠ .dataset →
        after.tables.find? kind place = before.tables.find? kind place := by
  unfold Change.datasetFor at ran
  obtain ⟨found, _, looked, ran⟩ := returns_bind.1 ran
  obtain ⟨selected, rfl⟩ := returns_idWhere?.1 looked
  cases found with
  | some found =>
    obtain ⟨rfl, rfl⟩ := returns_pure.1 ran
    obtain ⟨dataset, first, rfl⟩ := Option.map_eq_some_iff.1 selected
    refine ⟨made, ⟨dataset, ?_, ?_⟩, fun _ _ => rfl⟩
    · exact Tables.mem_entities_iff.1 (List.mem_of_find?_eq_some first)
    · exact (before.tables.selects_pair _ _ _).1 (List.find?_some first)
  | none =>
    simp only [returns_bind, returns_draw, returns_save, returns_pure] at ran
    obtain ⟨_, _, ⟨rfl, rfl⟩, _, _, rfl, rfl, rfl⟩ := ran
    refine ⟨?_, ?_, ?_⟩
    · apply Creation.dataset stream _ streamed made ⟨rfl, rfl, rfl, rfl⟩ rfl ⟨rfl, rfl⟩ featureThere
      intro other dataset here paired
      exact Tables.not_selects_of_findWhere? selected here
        ((before.tables.selects_pair _ _ _).2 paired)
    · rw [Progress.save_tables]
      exact ⟨_, Tables.find?_put_self _ _ rfl, rfl, rfl⟩
    · intro kind place different
      simp [different]

theorem Returns.moveThing {locations : List EntityId}
    (ran : (moveThing id locations).Returns environment before () after)
    (distinct : locations.Nodup)
    (there : ∀ location ∈ locations, before.tables.contains .location location = true) :
    Creation environment .nil before after := by
  unfold Change.moveThing at ran
  simp only [returns_bind, returns_fetch .thing, returns_ite, returns_save, returns_draw,
    returns_now, returns_pure] at ran
  obtain ⟨thing, _, ⟨found, rfl⟩, ⟨-, -, rfl⟩ | ⟨-, -, _, rfl, ran⟩⟩ := ran
  · exact .nil before
  · have moved : Creation environment .nil before (before.save .thing { thing with locations }) :=
      .moved thing locations (Tables.find?_idOf found) distinct there
    obtain ⟨somewhere, recordId, middle, drawn, _, _, ⟨rfl, rfl⟩, recorded⟩ | ⟨-, -, rfl⟩ := ran
    · have claimed : (claim .historicalLocation none).Returns environment
          (before.save .thing { thing with locations }) recordId middle := returns_draw.2 drawn
      have record : Creation environment (.named .historicalLocation none .nil .nil)
          (before.save .thing { thing with locations }) after := by
        refine .recorded _ claimed (.nil middle) ?_ ?_ recorded
        · rw [claimed.claim_tables]
          exact Progress.contains_save (Tables.contains_of_find? found) _ _
        · obtain ⟨location, member⟩ := List.exists_mem_of_ne_nil _ (by simpa using somewhere)
          exact List.ne_nil_of_mem (IdSet.mem_ofIds_iff.2 member)
      exact moved.append record
    · exact moved

theorem Returns.settleThing {places : List EntityId}
    (ran : (settleThing id places).Returns environment before () after)
    (there : ∀ location ∈ places, before.tables.contains .location location = true) :
    Creation environment .nil before after := by
  unfold Change.settleThing at ran
  simp only [returns_ite, returns_pure] at ran
  obtain ⟨-, ran⟩ | ⟨-, -, rfl⟩ := ran
  · apply ran.moveThing (nodup_eraseDups places)
    intro location member
    exact there location (List.mem_eraseDups.1 member)
  · exact .nil before

/-! Entities without relations, and features. -/

theorem Returns.addThing {given : Option EntityId} {name description : Option String}
    {properties : Option Json}
    (ran : (addThing given name description properties).Returns environment before id after) :
    Made environment (.named .thing given .nil .nil) .thing before id after := by
  unfold Change.addThing at ran
  simp only [returns_bind, returns_require, returns_save, returns_pure] at ran
  obtain ⟨name, _, ⟨-, rfl⟩, description, _, ⟨-, rfl⟩, _, _, claimed, _, _, rfl, rfl, rfl⟩ := ran
  exact .bare .thing given _ rfl rfl claimed fun _ _ _ => id

theorem Returns.addLocation {given : Option EntityId}
    {name description encodingType : Option String} {location : Option SentGeometry}
    {properties : Option Json}
    (ran : (addLocation given name description encodingType location properties).Returns environment
      before id after) :
    Made environment (.named .location given .nil .nil) .location before id after := by
  unfold Change.addLocation at ran
  simp only [returns_bind, returns_require] at ran
  obtain ⟨name, _, ⟨-, rfl⟩, found, _, looked, ran⟩ := ran
  cases given with
  | none =>
    obtain ⟨selected, rfl⟩ := returns_idWhere?.1 looked
    cases found with
    | some found =>
      obtain ⟨rfl, rfl⟩ := returns_pure.1 ran
      exact .existing (Tables.contains_of_findWhere? selected)
    | none =>
      simp only [returns_bind, returns_require, returns_save, returns_pure] at ran
      obtain ⟨description, _, ⟨-, rfl⟩, encodingType, _, ⟨-, rfl⟩, sent, _, ⟨-, rfl⟩, _, _, claimed,
        _, _, rfl, rfl, rfl⟩ := ran
      exact .bare .location none _ rfl rfl claimed fun _ _ _ => id
  | some given =>
    obtain ⟨rfl, rfl⟩ := returns_pure.1 looked
    simp only [returns_bind, returns_require, returns_save, returns_pure] at ran
    obtain ⟨description, _, ⟨-, rfl⟩, encodingType, _, ⟨-, rfl⟩, sent, _, ⟨-, rfl⟩, _, _, claimed,
      _, _, rfl, rfl, rfl⟩ := ran
    exact .bare .location (some given) _ rfl rfl claimed fun _ _ _ => id

theorem Returns.addSensor {given : Option EntityId}
    {name description encodingType metadata : Option String} {properties : Option Json}
    (ran : (addSensor given name description encodingType metadata properties).Returns environment
      before id after) :
    Made environment (.named .sensor given .nil .nil) .sensor before id after := by
  unfold Change.addSensor at ran
  simp only [returns_bind, returns_require, returns_save, returns_pure] at ran
  obtain ⟨_, _, claimed, name, _, ⟨-, rfl⟩, description, _, ⟨-, rfl⟩, type, _, ⟨-, rfl⟩, metadata,
    _, ⟨-, rfl⟩, _, _, rfl, rfl, rfl⟩ := ran
  exact .bare .sensor given _ trivial rfl claimed fun _ _ _ => id

theorem Returns.addObservedProperty {given : Option EntityId}
    {name definition description : Option String} {properties : Option Json}
    (ran : (addObservedProperty given name definition description properties).Returns environment
      before id after) :
    Made environment (.named .observedProperty given .nil .nil) .observedProperty before id
      after := by
  unfold Change.addObservedProperty at ran
  simp only [returns_bind, returns_require] at ran
  obtain ⟨name, _, ⟨-, rfl⟩, definition, _, ⟨-, rfl⟩, description, _, ⟨-, rfl⟩, found, _, looked,
    ran⟩ := ran
  cases given with
  | none =>
    obtain ⟨selected, rfl⟩ := returns_idWhere?.1 looked
    cases found with
    | some found =>
      obtain ⟨rfl, rfl⟩ := returns_pure.1 ran
      exact .existing (Tables.contains_of_findWhere? selected)
    | none =>
      simp only [returns_bind, returns_save, returns_pure] at ran
      obtain ⟨_, _, claimed, _, _, rfl, rfl, rfl⟩ := ran
      exact .bare .observedProperty none _ trivial rfl claimed fun _ _ _ => id
  | some given =>
    obtain ⟨rfl, rfl⟩ := returns_pure.1 looked
    simp only [returns_bind, returns_save, returns_pure] at ran
    obtain ⟨_, _, claimed, _, _, rfl, rfl, rfl⟩ := ran
    exact .bare .observedProperty (some given) _ trivial rfl claimed fun _ _ _ => id

theorem Returns.featureRepeated? {given : Option EntityId} {geometry : Geometry}
    {description : String} {found : Option EntityId}
    (ran : (featureRepeated? given geometry description).Returns environment before found after) :
    before = after ∧ ∀ id, found = some id →
      given = none ∧ before.tables.contains .featureOfInterest id = true ∨
      given = some id ∧ ∃ feature : FeatureOfInterest,
        before.tables.find? .featureOfInterest id = some feature ∧
          feature.repeats geometry description = true := by
  unfold Change.featureRepeated? at ran
  cases given with
  | none =>
    obtain ⟨rfl, rfl⟩ := returns_idWhere?.1 ran
    exact ⟨rfl, fun id selected => .inl ⟨rfl, Tables.contains_of_findWhere? selected⟩⟩
  | some given =>
    simp only [returns_bind, returns_find? .featureOfInterest] at ran
    obtain ⟨row, _, ⟨here, rfl⟩, ran⟩ := ran
    cases row with
    | none =>
      obtain ⟨rfl, rfl⟩ := returns_pure.1 ran
      exact ⟨rfl, fun id selected => (Option.some_ne_none id selected.symm).elim⟩
    | some feature =>
      obtain ⟨rfl, rfl⟩ := returns_pure.1 ran
      refine ⟨rfl, fun id selected => .inr ?_⟩
      split at selected
      next repeats =>
        obtain rfl := Option.some.inj selected
        exact ⟨rfl, feature, here, repeats⟩
      next => contradiction

theorem Returns.addFeature {given : Option EntityId} {name description encodingType : Option String}
    {geometry : Option SentGeometry} {properties : Option Json}
    (ran : (addFeature given name description encodingType geometry properties).Returns environment
      before id after) :
    Made environment (.namedFeature given geometry description .nil) .featureOfInterest before id
      after := by
  unfold Change.addFeature at ran
  simp only [returns_bind, returns_require] at ran
  obtain ⟨name, _, ⟨-, rfl⟩, description, _, ⟨rfl, rfl⟩, type, _, ⟨-, rfl⟩, sent, _, ⟨rfl, rfl⟩,
    found, _, looked, ran⟩ := ran
  obtain ⟨rfl, repeated⟩ := looked.featureRepeated?
  cases found with
  | some found =>
    obtain ⟨rfl, rfl⟩ := returns_pure.1 ran
    obtain ⟨rfl, there⟩ | ⟨rfl, feature, here, repeats⟩ := repeated found rfl
    · exact .existing there
    · have body : (⟨found, some sent, some description⟩ : FeatureBody).Repeats feature :=
        ⟨sent, description, rfl, rfl, repeats⟩
      exact ⟨.repeated _ feature here body, Tables.contains_of_find? here⟩
  | none =>
    simp only [returns_bind, returns_save, returns_pure] at ran
    obtain ⟨_, _, claimed, _, _, rfl, rfl, rfl⟩ := ran
    constructor
    · exact .feature _ rfl claimed
    · exact Progress.contains_save_self _ _ _

theorem Returns.featureOfThing {thing : EntityId}
    (ran : (featureOfThing thing).Returns environment before id after) :
    Made environment .nil .featureOfInterest before id after := by
  unfold Change.featureOfThing at ran
  simp only [returns_bind, returns_fetch .thing] at ran
  obtain ⟨row, _, ⟨-, rfl⟩, ran⟩ := ran
  split at ran
  next => exact (returns_throw.1 ran).elim
  next place =>
    simp only [returns_bind, returns_fetch .location] at ran
    obtain ⟨location, _, ⟨here, rfl⟩, found, _, looked, ran⟩ := ran
    obtain ⟨selected, rfl⟩ := returns_idWhere?.1 looked
    cases found with
    | some found =>
      obtain ⟨rfl, rfl⟩ := returns_pure.1 ran
      exact .existing (Tables.contains_of_findWhere? selected)
    | none =>
      simp only [returns_bind, returns_save, returns_pure] at ran
      obtain ⟨_, _, chosen, _, _, rfl, rfl, rfl⟩ := ran
      have there : before.tables.contains .location location.id = true :=
        Tables.contains_of_find? (Tables.find?_idOf here)
      constructor
      · exact .derived location.id _ there rfl chosen
      · exact Progress.contains_save_self _ _ _

theorem Returns.derivedFeature {thing : EntityId}
    (ran : (derivedFeature thing).Returns environment before id after) :
    Made environment .nil .featureOfInterest before id after := by
  unfold Change.derivedFeature at ran
  simp only [returns_bind, returns_config, returns_ite, returns_missing] at ran
  obtain ⟨_, _, ⟨rfl, rfl⟩, ⟨-, ran⟩ | ⟨-, ⟨⟩⟩⟩ := ran
  exact ran.featureOfThing

/-! Datastreams, observations and historical locations, once what they refer to is there. -/

theorem Returns.addDatastream {name description : String} {unit : UnitDraft}
    {type : ObservationType} {properties : Option Json} {thing sensor property : EntityId}
    (ran : (addDatastream id name description unit type properties thing sensor property).Returns
      environment before () after)
    (thingThere : before.tables.contains .thing thing = true)
    (sensorThere : before.tables.contains .sensor sensor = true)
    (propertyThere : before.tables.contains .observedProperty property = true) :
    ∃ (datastream : Datastream) (last : Progress), datastream.id = id ∧
      Creation environment .nil before last ∧ last.tables.HoldsLinksOf datastream ∧
      datastream.IsNew last.tables ∧ last.save .datastream datastream = after := by
  unfold Change.addDatastream at ran
  simp only [returns_bind, returns_save] at ran
  obtain ⟨unit, _, unitRan, format, last, formatRan, rfl⟩ := ran
  obtain ⟨unitMade, -⟩ := unitRan.unitFor
  obtain ⟨formatMade, formatted, -⟩ := formatRan.formatFor
  have creation := unitMade.creation.append formatMade
  refine ⟨_, last, rfl, creation, ?_, ⟨⟨rfl, rfl⟩, formatted⟩, rfl⟩
  constructor
  · exact creation.contains thingThere
  · exact creation.contains sensorThere
  · exact creation.contains propertyThere
  · exact formatMade.contains unitMade.there
  · exact formatted.contains

theorem Returns.addObservation {outline : Outline} {origin : Progress}
    {phenomenonTime : Option TimeSpan} {resultTime : Option Instant}
    {validTime : Option Interval} {parameters : Option Json} {result : ObservedValue}
    {stream : Datastream} {feature : EntityId}
    (ran : (addObservation id phenomenonTime resultTime validTime parameters result stream
      feature).Returns environment before () after)
    (streamed : origin.tables.find? .datastream stream.id = some stream)
    (made : Creation environment outline origin before)
    (featureThere : before.tables.contains .featureOfInterest feature = true) :
    ∃ (observation : Observation) (datastream : Datastream) (dataset : Dataset) (last : Progress),
      observation.id = id ∧ observation.datastream = stream.id ∧
      observation.feature = feature ∧ observation.result = result ∧
      Creation environment outline origin last ∧
      last.tables.contains .featureOfInterest feature = true ∧
      last.tables.find? .datastream stream.id = some datastream ∧
      last.tables.find? .dataset observation.dataset = some dataset ∧
      (dataset.datastream = stream.id ∧ dataset.feature = feature) ∧
      last.addObservation observation datastream dataset = after := by
  unfold Change.addObservation Change.observationAdded at ran
  simp only [returns_bind, returns_now, returns_save, returns_fetch .datastream,
    returns_fetch .dataset] at ran
  obtain ⟨_, _, ⟨rfl, rfl⟩, group, last, grouped, _, _, rfl, datastream, _, ⟨found, rfl⟩, _, _, rfl,
    dataset, _, ⟨datasetFound, rfl⟩, rfl⟩ := ran
  obtain ⟨creation, ⟨pair, pairFound, paired⟩, others⟩ :=
    grouped.datasetFor streamed made featureThere
  have featureLater : last.tables.contains .featureOfInterest feature = true := by
    rwa [Tables.contains, others _ (by decide)]
  rw [Progress.find?_save_of_ne _ _ _ (by decide)] at found
  rw [Progress.find?_save_of_ne _ _ _ (by decide),
    Progress.find?_save_of_ne _ _ _ (by decide)] at datasetFound
  obtain rfl : pair = dataset := Option.some.inj (pairFound.symm.trans datasetFound)
  exact ⟨_, datastream, pair, last, rfl, rfl, rfl, rfl, creation, featureLater, found, datasetFound,
    paired, rfl⟩

theorem Returns.linkHistory {owner : HistoryOwner}
    (ran : (linkHistory id owner).Returns environment before () after) :
    Creation environment .nil before after := by
  cases owner with
  | thing thing => exact (returns_throw.1 ran).elim
  | location location => exact .extended id location ran

theorem Returns.adoptDatastream {owner : DatastreamOwner}
    (ran : (adoptDatastream owner id).Returns environment before () after)
    (there : before.tables.contains owner.key.kind owner.key.id = true) :
    Creation environment (.adopted owner.key.kind id .nil) before after := by
  unfold Change.adoptDatastream at ran
  simp only [returns_bind, returns_fetch .datastream, returns_save] at ran
  obtain ⟨datastream, _, ⟨found, rfl⟩, rfl⟩ := ran
  obtain rfl : datastream.id = id := Tables.idOf_of_find? found
  exact .adopted owner datastream found there

/-! Owners. A nested draft leaves out the body that its owner stands for. -/

/-- The owner, if there is one, is there. -/
def HoldsOwner (tables : Tables) (owner : Option Key) : Prop :=
  ∀ key, owner = some key → tables.contains key.kind key.id = true

theorem HoldsOwner.none (tables : Tables) : HoldsOwner tables none :=
  fun key same => absurd same.symm (Option.some_ne_none key)

theorem HoldsOwner.later {environment : Environment} {outline : Outline} {before after : Progress}
    {owner : Option Key} (there : HoldsOwner before.tables owner)
    (creation : Creation environment outline before after) : HoldsOwner after.tables owner :=
  fun key same => creation.contains (there key same)

/-- The owner of one kind, if the owner is of that kind. -/
def ownerOf (kind : EntityKind) (owner : Option Key) : Option EntityId :=
  match owner with
  | some key => if key.kind = kind then some key.id else none
  | none => none

theorem isSome_ownerOf (kind : EntityKind) (owner : Option Key) :
    (ownerOf kind owner).isSome = (owner.map Key.kind == some kind) := by
  cases owner with
  | none => rfl
  | some key => by_cases same : key.kind = kind <;> simp [ownerOf, same]

theorem HoldsOwner.contains {tables : Tables} {owner : Option Key}
    (there : HoldsOwner tables owner) {kind : EntityKind} {id : EntityId}
    (owned : ownerOf kind owner = some id) : tables.contains kind id = true := by
  cases owner with
  | none => contradiction
  | some key =>
    simp only [ownerOf, Option.ite_none_right_eq_some, Option.some.injEq] at owned
    obtain ⟨rfl, rfl⟩ := owned
    exact there key rfl


theorem DatastreamOwner.thing?_eq (owner : Option DatastreamOwner) :
    DatastreamOwner.thing? owner = ownerOf .thing (owner.map DatastreamOwner.key) := by
  rcases owner with _ | ⟨_ | _ | _⟩ <;> rfl

theorem DatastreamOwner.sensor?_eq (owner : Option DatastreamOwner) :
    DatastreamOwner.sensor? owner = ownerOf .sensor (owner.map DatastreamOwner.key) := by
  rcases owner with _ | ⟨_ | _ | _⟩ <;> rfl

theorem DatastreamOwner.observedProperty?_eq (owner : Option DatastreamOwner) :
    DatastreamOwner.observedProperty? owner =
      ownerOf .observedProperty (owner.map DatastreamOwner.key) := by
  rcases owner with _ | ⟨_ | _ | _⟩ <;> rfl

theorem ObservationOwner.datastream?_eq (owner : Option ObservationOwner) :
    ObservationOwner.datastream? owner = ownerOf .datastream (owner.map ObservationOwner.key) := by
  rcases owner with _ | ⟨_ | _⟩ <;> rfl

theorem ObservationOwner.feature?_eq (owner : Option ObservationOwner) :
    ObservationOwner.feature? owner =
      ownerOf .featureOfInterest (owner.map ObservationOwner.key) := by
  rcases owner with _ | ⟨_ | _⟩ <;> rfl

theorem HistoryOwner.thing?_eq (owner : Option HistoryOwner) :
    HistoryOwner.thing? owner = ownerOf .thing (owner.map HistoryOwner.key) := by
  rcases owner with _ | ⟨_ | _⟩ <;> rfl

end Change

end SensorThings
