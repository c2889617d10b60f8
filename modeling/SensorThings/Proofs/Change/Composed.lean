import SensorThings.Change.Creation

/-!
How changes are composed. Every operation is put together from nine primitive changes; so a property
that they have, and that lasts from one change to the next, is one of every operation.
-/
namespace SensorThings.Change

variable {α β : Type}

/-- A change that is put together from the primitive ones. -/
inductive Composed : {α : Type} → Change α → Prop
  | pure {α : Type} (value : α) : Composed (pure value : Change α)
  | throw {α : Type} (failure : Failure) : Composed (throw failure : Change α)
  | bind {α β : Type} {change : Change α} {next : α → Change β} (first : Composed change)
      (second : ∀ value, Composed (next value)) : Composed (change >>= next)
  | now : Composed now
  | config : Composed config
  | tables : Composed tables
  | draw : Composed draw
  | save (kind : EntityKind) (entity : kind.Entity) : Composed (save kind entity)
  | delete (kind : EntityKind) (id : EntityId) : Composed (delete kind id)

theorem composed_forM {items : List α} {action : α → Change Unit}
    (each : ∀ item, (action item).Composed) : (items.forM action).Composed := by
  induction items with
  | nil => exact .pure ()
  | cons item rest ih => exact (each item).bind fun _ => ih

theorem composed_mapM {items : List α} {action : α → Change β}
    (each : ∀ item, (action item).Composed) : (items.mapM action).Composed := by
  induction items with
  | nil => exact .pure []
  | cons item rest ih =>
    rw [List.mapM_cons]
    exact (each item).bind fun _ => ih.bind fun _ => .pure _

theorem composed_ite {condition : Prop} [Decidable condition] {left right : Change α}
    (whenTrue : left.Composed) (whenFalse : right.Composed) :
    (if condition then left else right).Composed := by
  split
  · exact whenTrue
  · exact whenFalse

/-! Checks and lookups. -/

theorem composed_ofExcept (result : Except Failure α) : (ofExcept result).Composed := by
  cases result with
  | ok value => exact .pure value
  | error failure => exact .throw failure

theorem composed_missing (kind : EntityKind) (property : String) :
    (missing kind property : Change α).Composed :=
  .throw _

theorem composed_require (kind : EntityKind) (property : String) (given : Option α) :
    (require kind property given).Composed := by
  cases given with
  | some value => exact .pure value
  | none => exact composed_missing kind property

theorem composed_requireThat (kind : EntityKind) (property : String) (given : Bool) :
    (requireThat kind property given).Composed :=
  composed_ite (.pure ()) (composed_missing kind property)

theorem composed_find? (kind : EntityKind) (id : EntityId) : (find? kind id).Composed :=
  Composed.tables.bind fun _ => .pure _

theorem composed_fetch (kind : EntityKind) (id : EntityId) : (fetch kind id).Composed :=
  Composed.tables.bind fun _ => composed_ofExcept _

theorem composed_existing (kind : EntityKind) (id : EntityId) : (existing kind id).Composed :=
  (composed_fetch kind id).bind fun _ => .pure id

theorem composed_idWhere? (kind : EntityKind) (predicate : Predicate) :
    (idWhere? kind predicate).Composed :=
  Composed.tables.bind fun _ => .pure _

theorem composed_idsWhere (kind : EntityKind) (keep : kind.Entity → Bool) :
    (idsWhere kind keep).Composed :=
  Composed.tables.bind fun _ => .pure _

theorem composed_claim (kind : EntityKind) (given : Option EntityId) :
    (claim kind given).Composed := by
  cases given with
  | none => exact .draw
  | some id => exact Composed.tables.bind fun _ => composed_ite (.throw _) (.pure id)

/-! Bounds, pointers and movements. -/

theorem composed_datasetFor (datastream : Datastream) (feature : EntityId) :
    (datasetFor datastream feature).Composed := by
  unfold datasetFor
  apply (composed_idWhere? _ _).bind
  intro found
  cases found with
  | some found => exact .pure found
  | none =>
    apply Composed.draw.bind
    intro id
    exact (Composed.save _ _).bind fun _ => .pure id

theorem composed_observationAdded (observation : Observation) :
    (observationAdded observation).Composed :=
  (composed_fetch _ _).bind fun _ => (Composed.save _ _).bind fun _ =>
    (composed_fetch _ _).bind fun _ => .save _ _

theorem composed_summarizeDataset (id : EntityId) : (summarizeDataset id).Composed := by
  unfold summarizeDataset
  apply (composed_find? _ _).bind
  intro found
  cases found with
  | none => exact .pure ()
  | some dataset => exact Composed.tables.bind fun _ => .save _ _

theorem composed_summarizeDatastream (id : EntityId) : (summarizeDatastream id).Composed := by
  unfold summarizeDatastream
  apply (composed_find? _ _).bind
  intro found
  cases found with
  | none => exact .pure ()
  | some datastream =>
    exact (composed_idsWhere _ _).bind fun _ => Composed.tables.bind fun _ => .save _ _

theorem composed_observationEdited (previous : EntityId) (observation : Observation) :
    (observationEdited previous observation).Composed := by
  unfold observationEdited summarizeBoth
  apply Composed.bind
  · exact (composed_summarizeDataset _).bind fun _ =>
      composed_ite (composed_summarizeDataset _) (.pure ())
  · exact fun _ => composed_summarizeDatastream _

theorem composed_backlink (historical location : EntityId) :
    (backlink historical location).Composed :=
  (composed_fetch _ _).bind fun _ => composed_ite (.save _ _) (.pure ())

theorem composed_record (historical : HistoricalLocation) : (record historical).Composed :=
  (Composed.save _ _).bind fun _ => composed_forM fun location => composed_backlink _ location

theorem composed_extendRecord (historical location : EntityId) :
    (extendRecord historical location).Composed :=
  (composed_fetch _ _).bind fun _ => (Composed.save _ _).bind fun _ => composed_backlink _ _

theorem composed_moveThing (id : EntityId) (locations : List EntityId) :
    (moveThing id locations).Composed := by
  unfold moveThing
  apply (composed_fetch _ _).bind
  intro thing
  apply composed_ite (.pure ())
  apply (Composed.save _ _).bind
  intro _
  apply composed_ite _ (.pure ())
  exact Composed.draw.bind fun _ => Composed.now.bind fun _ => composed_record _

/-! Making single entities. -/

theorem composed_unitOfSymbol? (symbol : Option String) : (unitOfSymbol? symbol).Composed := by
  cases symbol with
  | none => exact .pure none
  | some symbol => exact composed_idWhere? _ _

theorem composed_unitFor (draft : UnitDraft) : (unitFor draft).Composed := by
  unfold unitFor
  apply (composed_unitOfSymbol? _).bind
  intro found
  cases found with
  | some found => exact .pure found
  | none =>
    exact Composed.draw.bind fun id => (Composed.save _ _).bind fun _ => .pure id

theorem composed_formatFor (type : ObservationType) : (formatFor type).Composed := by
  unfold formatFor
  apply (composed_idWhere? _ _).bind
  intro found
  cases found with
  | some found => exact .pure found
  | none =>
    exact Composed.draw.bind fun id => (Composed.save _ _).bind fun _ => .pure id

theorem composed_featureId (location : EntityId) : (featureId location).Composed :=
  Composed.tables.bind fun _ => composed_ite .draw (.pure location)

theorem composed_featureOfThing (id : EntityId) : (featureOfThing id).Composed := by
  unfold featureOfThing
  apply (composed_fetch _ _).bind
  intro thing
  cases thing.currentLocation? with
  | none => exact .throw _
  | some location =>
    apply (composed_fetch _ _).bind
    intro found
    apply (composed_idWhere? _ _).bind
    intro found
    cases found with
    | some found => exact .pure found
    | none =>
      exact (composed_featureId _).bind fun id => (Composed.save _ _).bind fun _ => .pure id

theorem composed_derivedFeature (thing : EntityId) : (derivedFeature thing).Composed :=
  Composed.config.bind fun _ => composed_ite (composed_featureOfThing thing) (composed_missing _ _)

theorem composed_addThing (id : Option EntityId) (name description : Option String)
    (properties : Option Json) : (addThing id name description properties).Composed :=
  (composed_require _ _ name).bind fun _ => (composed_require _ _ description).bind fun _ =>
    (composed_claim _ id).bind fun id => (Composed.save _ _).bind fun _ => .pure id

theorem composed_settleThing (id : EntityId) (places : List EntityId) :
    (settleThing id places).Composed :=
  composed_ite (composed_moveThing _ _) (.pure ())

theorem composed_locationRepeated? (id : Option EntityId) (name : String) :
    (locationRepeated? id name).Composed := by
  cases id with
  | none => exact composed_idWhere? _ _
  | some id => exact .pure none

theorem composed_addLocation (id : Option EntityId)
    (name description encodingType : Option String) (location : Option SentGeometry)
    (properties : Option Json) :
    (addLocation id name description encodingType location properties).Composed := by
  unfold addLocation
  apply (composed_require _ _ name).bind
  intro name
  apply (composed_locationRepeated? _ _).bind
  intro found
  cases found with
  | some found => exact .pure found
  | none =>
    exact (composed_require _ _ description).bind fun _ =>
      (composed_require _ _ encodingType).bind fun _ =>
      (composed_require _ _ location).bind fun _ =>
      (composed_claim _ id).bind fun id => (Composed.save _ _).bind fun _ => .pure id

theorem composed_addSensor (id : Option EntityId)
    (name description encodingType metadata : Option String) (properties : Option Json) :
    (addSensor id name description encodingType metadata properties).Composed :=
  (composed_claim _ id).bind fun id => (composed_require _ _ name).bind fun _ =>
    (composed_require _ _ description).bind fun _ =>
    (composed_require _ _ encodingType).bind fun _ =>
    (composed_require _ _ metadata).bind fun _ => (Composed.save _ _).bind fun _ => .pure id

theorem composed_propertyRepeated? (id : Option EntityId) (definition : String) :
    (propertyRepeated? id definition).Composed := by
  cases id with
  | none => exact composed_idWhere? _ _
  | some id => exact .pure none

theorem composed_addObservedProperty (id : Option EntityId)
    (name definition description : Option String) (properties : Option Json) :
    (addObservedProperty id name definition description properties).Composed := by
  unfold addObservedProperty
  refine (composed_require _ _ name).bind fun name =>
    (composed_require _ _ definition).bind fun definition =>
    (composed_require _ _ description).bind fun description => ?_
  apply (composed_propertyRepeated? _ _).bind
  intro found
  cases found with
  | some found => exact .pure found
  | none =>
    exact (composed_claim _ id).bind fun id => (Composed.save _ _).bind fun _ => .pure id

theorem composed_featureRepeated? (id : Option EntityId) (geometry : Geometry)
    (description : String) : (featureRepeated? id geometry description).Composed := by
  cases id with
  | none => exact composed_idWhere? _ _
  | some id =>
    apply (composed_find? _ _).bind
    intro found
    cases found with
    | none => exact .pure none
    | some feature => exact .pure _

theorem composed_addFeature (id : Option EntityId)
    (name description encodingType : Option String) (feature : Option SentGeometry)
    (properties : Option Json) :
    (addFeature id name description encodingType feature properties).Composed := by
  unfold addFeature
  refine (composed_require _ _ name).bind fun name =>
    (composed_require _ _ description).bind fun description =>
    (composed_require _ _ encodingType).bind fun type =>
    (composed_require _ _ feature).bind fun sent => ?_
  apply (composed_featureRepeated? _ _ _).bind
  intro found
  cases found with
  | some found => exact .pure found
  | none =>
    exact (composed_claim _ id).bind fun id => (Composed.save _ _).bind fun _ => .pure id

theorem composed_addDatastream (id : EntityId) (name description : String) (unit : UnitDraft)
    (type : ObservationType) (properties : Option Json) (thing sensor property : EntityId) :
    (addDatastream id name description unit type properties thing sensor property).Composed :=
  (composed_unitFor unit).bind fun _ => (composed_formatFor type).bind fun _ => .save _ _

theorem composed_addObservation (id : EntityId) (phenomenonTime : Option TimeSpan)
    (resultTime : Option Instant) (validTime : Option Interval) (parameters : Option Json)
    (result : ObservedValue) (stream : Datastream) (feature : EntityId) :
    (addObservation id phenomenonTime resultTime validTime parameters result stream
      feature).Composed :=
  Composed.now.bind fun _ => (composed_datasetFor stream feature).bind fun _ =>
    (Composed.save _ _).bind fun _ => composed_observationAdded _

theorem composed_linkHistory (id : EntityId) (owner : HistoryOwner) :
    (linkHistory id owner).Composed := by
  cases owner with
  | thing thing => exact .throw _
  | location location => exact composed_extendRecord id location

theorem composed_adoptDatastream (owner : DatastreamOwner) (id : EntityId) :
    (adoptDatastream owner id).Composed :=
  (composed_fetch _ _).bind fun _ => .save _ _

end SensorThings.Change
