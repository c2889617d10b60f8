import SensorThings.Change.Request
import SensorThings.Proofs.Change.Preserving
import SensorThings.Proofs.Change.Summary
import SensorThings.Proofs.Draft.Sent
import SensorThings.Proofs.Model.Documents
import SensorThings.Proofs.Model.Results

/-!
Entities that a document can hold. Every operation writes only such entities, whatever drafts that
were sent it is given.
-/
namespace SensorThings

theorem ObservationType.isStorable_of_result {type : ObservationType} {raw : Json}
    {value : ObservedValue} (read : type.result raw = .ok value) (fits : raw.numbersFit = true) :
    value.IsStorable := by
  have given := result?_of_result read
  cases type with
  | measurement =>
    obtain ⟨number, rfl, source⟩ := ObservedValue.quantity?_eq_some given
    cases number with
    | none => trivial
    | some double =>
      obtain rfl | ⟨whole, rfl, rfl⟩ | finite := source double rfl
      · exact fits
      · obtain ⟨least, most⟩ := Json.numbersFit_int_iff.1 fits
        exact Binary64.isFinite_ofInt least most
      · exact finite
  | count =>
    obtain ⟨number, rfl, signed⟩ := ObservedValue.count?_eq_some given
    exact signed
  | truth =>
    obtain ⟨holds, rfl⟩ := ObservedValue.boolean?_eq_some given
    trivial
  | category | text | general =>
    obtain ⟨content, -, rfl⟩ := Option.map_eq_some_iff.1 given
    trivial

namespace Tables

/-- Documents can hold all entities. -/
def Storable (tables : Tables) : Prop :=
  ∀ kind id entity, tables.find? kind id = some entity → kind.IsStorable entity

theorem storable_empty : Storable {} := by
  intro kind id entity found
  cases kind <;> contradiction

theorem Storable.remove {tables : Tables} (storable : tables.Storable) (kind : EntityKind)
    (id : EntityId) : (tables.remove kind id).Storable := by
  intro other key row found
  by_cases same : other = kind
  · subst same
    rw [find?_remove] at found
    split at found
    next => contradiction
    next => exact storable other key row found
  · rw [find?_remove_of_ne _ _ _ same] at found
    exact storable other key row found

theorem Storable.of_mem_entities {tables : Tables} (storable : tables.Storable)
    (kind : EntityKind) {entity : kind.Entity} (member : entity ∈ tables.entities kind) :
    kind.IsStorable entity :=
  storable kind _ entity (mem_entities_iff.1 member)

theorem Storable.put {tables : Tables} (storable : tables.Storable) {kind : EntityKind}
    {entity : kind.Entity} (isStorable : kind.IsStorable entity) :
    (tables.put kind entity).Storable := by
  intro other id row found
  by_cases same : other = kind
  · subst same
    rw [find?_put] at found
    split at found
    next => exact Option.some.inj found ▸ isStorable
    next => exact storable other id row found
  · rw [find?_put_of_ne _ _ _ same] at found
    exact storable other id row found

end Tables

namespace Dataset

theorem isStorable_of_none {dataset : Dataset} (first : dataset.firstObservation = none)
    (last : dataset.lastObservation = none) : EntityKind.dataset.IsStorable dataset := by
  simp [EntityKind.IsStorable, first, last]

theorem isStorable_cover {dataset : Dataset} {observation : Observation}
    (storable : EntityKind.dataset.IsStorable dataset)
    (result : observation.result.IsStorable) :
    EntityKind.dataset.IsStorable (dataset.cover observation) := by
  constructor
  · intro pointer found
    simp only [cover, ObservationPointer.orEarlier] at found
    split at found
    · exact Option.some.inj found ▸ result
    · split at found
      · exact Option.some.inj found ▸ result
      · exact storable.1 pointer found
  · intro pointer found
    simp only [cover, ObservationPointer.orLater] at found
    split at found
    · exact Option.some.inj found ▸ result
    · split at found
      · exact Option.some.inj found ▸ result
      · exact storable.2 pointer found

theorem isStorable_summarize (dataset : Dataset) {observations : List Observation}
    (results : ∀ observation ∈ observations, observation.result.IsStorable) :
    EntityKind.dataset.IsStorable (dataset.summarize observations) := by
  have covered : ∀ start : Dataset, EntityKind.dataset.IsStorable start →
      EntityKind.dataset.IsStorable (observations.foldl cover start) := by
    induction observations with
    | nil => exact fun _ storable => storable
    | cons observation rest ih =>
      rw [List.forall_mem_cons] at results
      intro start storable
      rw [List.foldl_cons]
      exact ih results.2 _ (isStorable_cover storable results.1)
  exact covered _ (isStorable_of_none rfl rfl)

end Dataset

namespace Change

/-- An operation that succeeds on entities that documents can hold leaves such entities. -/
abbrev Stores {α : Type} (change : Change α) : Prop :=
  change.Preserves Tables.Storable fun _ => True

variable {α : Type}

theorem stores_pure (value : α) : (pure value : Change α).Stores := preserves_pure trivial

theorem stores_save (kind : EntityKind) {entity : kind.Entity}
    (isStorable : kind.IsStorable entity) : (save kind entity).Stores :=
  preserves_save fun _ storable => storable.put isStorable

theorem stores_fetch (kind : EntityKind) (id : EntityId) :
    (fetch kind id).Preserves Tables.Storable kind.IsStorable :=
  preserves_fetch fun _ storable => storable kind id

theorem stores_find? (kind : EntityKind) (id : EntityId) :
    (find? kind id).Preserves Tables.Storable
      fun found => ∀ row, found = some row → kind.IsStorable row :=
  preserves_find? fun _ storable => storable kind id

/-! Datasets, bounds and movements. -/

theorem stores_datasetFor (datastream : Datastream) (feature : EntityId) :
    (datasetFor datastream feature).Stores := by
  unfold datasetFor
  apply (preserves_idWhere? _ _).bind
  intro found _
  cases found with
  | some found => exact stores_pure _
  | none =>
    apply preserves_draw.bind
    intro id _
    apply Preserves.bind (stores_save .dataset (Dataset.isStorable_of_none rfl rfl))
    exact fun _ _ => stores_pure _

theorem stores_observationAdded {observation : Observation}
    (isStorable : observation.result.IsStorable) : (observationAdded observation).Stores := by
  unfold observationAdded
  refine (stores_fetch _ _).bind fun datastream kept => ?_
  refine Preserves.bind (stores_save .datastream kept) fun _ _ => ?_
  refine (stores_fetch _ _).bind fun dataset kept => ?_
  exact stores_save .dataset (Dataset.isStorable_cover kept isStorable)

theorem stores_summarizeDataset (id : EntityId) : (summarizeDataset id).Stores := by
  unfold summarizeDataset
  apply (stores_find? _ _).bind
  intro found _
  cases found with
  | none => exact stores_pure _
  | some dataset =>
    refine preserves_tables.bind fun tables storable => stores_save .dataset ?_
    apply Dataset.isStorable_summarize
    intro observation member
    have kept := storable.of_mem_entities .observation (List.mem_of_mem_filter member)
    exact kept.2

theorem stores_summarizeDatastream (id : EntityId) : (summarizeDatastream id).Stores := by
  unfold summarizeDatastream
  apply (stores_find? _ _).bind
  intro found kept
  cases found with
  | none => exact stores_pure _
  | some datastream =>
    refine (preserves_idsWhere _ _).bind fun datasets _ => preserves_tables.bind fun tables _ => ?_
    apply stores_save .datastream
    rw [Datastream.summarize_eq]
    exact kept datastream rfl

theorem stores_observationEdited (previousDataset : EntityId) (observation : Observation) :
    (observationEdited previousDataset observation).Stores := by
  have both : (summarizeBoth previousDataset observation.dataset).Stores :=
    (stores_summarizeDataset _).bind fun _ _ =>
      preserves_ite (stores_summarizeDataset _) (stores_pure _)
  exact both.bind fun _ _ => stores_summarizeDatastream _

theorem stores_backlink (historical location : EntityId) :
    (backlink historical location).Stores := by
  refine (stores_fetch _ _).bind fun found kept => ?_
  exact preserves_ite (stores_save .location kept) (stores_pure _)

theorem stores_record (historical : HistoricalLocation) : (record historical).Stores :=
  (stores_save .historicalLocation trivial).bind fun _ _ =>
    preserves_forM fun _ _ => stores_backlink _ _

theorem stores_extendRecord (historical location : EntityId) :
    (extendRecord historical location).Stores :=
  (stores_fetch _ _).bind fun _ _ => (stores_save .historicalLocation trivial).bind fun _ _ =>
    stores_backlink _ _

theorem stores_moveThing (id : EntityId) (locations : List EntityId) :
    (moveThing id locations).Stores := by
  refine (stores_fetch _ _).bind fun thing kept => ?_
  apply preserves_ite (stores_pure _)
  refine Preserves.bind (stores_save .thing kept) fun _ _ => ?_
  apply preserves_ite _ (stores_pure _)
  exact preserves_draw.bind fun id _ => preserves_now.bind fun now _ => stores_record _

/-! Single entities. -/

theorem stores_unitFor (draft : UnitDraft) : (unitFor draft).Stores := by
  have search : (unitOfSymbol? draft.symbol).Stores := by
    cases draft.symbol with
    | none => exact stores_pure _
    | some symbol => exact preserves_idWhere? _ _
  apply search.bind
  intro found _
  cases found with
  | some found => exact stores_pure _
  | none =>
    exact preserves_draw.bind fun id _ => (stores_save .unitOfMeasurement trivial).bind fun _ _ =>
      stores_pure _

theorem stores_formatFor (type : ObservationType) : (formatFor type).Stores := by
  unfold formatFor
  apply (preserves_idWhere? _ _).bind
  intro found _
  cases found with
  | some found => exact stores_pure _
  | none =>
    exact preserves_draw.bind fun id _ => (stores_save .format trivial).bind fun _ _ =>
      stores_pure _

theorem stores_featureOfThing (id : EntityId) : (featureOfThing id).Stores := by
  unfold featureOfThing
  apply (stores_fetch _ _).bind
  intro thing _
  cases thing.currentLocation? with
  | none => exact preserves_throw _
  | some locationId =>
    apply (stores_fetch _ _).bind
    intro location kept
    apply (preserves_idWhere? _ _).bind
    intro found _
    cases found with
    | some feature => exact stores_pure _
    | none =>
      exact (preserves_featureId _).bind fun id _ =>
        Preserves.bind (stores_save .featureOfInterest kept) fun _ _ => stores_pure _

theorem stores_derivedFeature (thing : EntityId) : (derivedFeature thing).Stores :=
  preserves_config.bind fun _ _ =>
    preserves_ite (stores_featureOfThing thing) (preserves_throw _)

theorem stores_addThing (id : Option EntityId) (name description : Option String)
    {properties : Option Json} (free : properties ≠ some .null) :
    (addThing id name description properties).Stores :=
  (preserves_member _ _ _).bind fun _ _ => (preserves_member _ _ _).bind fun _ _ =>
    (preserves_claim _ _).bind fun _ _ => Preserves.bind (stores_save .thing free) fun _ _ =>
    stores_pure _

theorem stores_settleThing (id : EntityId) (places : List EntityId) :
    (settleThing id places).Stores :=
  preserves_ite (stores_moveThing _ _) (stores_pure _)

theorem stores_addLocation (id : Option EntityId) (name description encodingType : Option String)
    {location : Option SentGeometry}
    (proper : ∀ sent, location = some sent → sent.geometry.IsProper)
    {properties : Option Json} (free : properties ≠ some .null) :
    (addLocation id name description encodingType location properties).Stores := by
  apply (preserves_member _ _ _).bind
  intro name _
  have search : (locationRepeated? id name).Stores := by
    cases id with
    | none => exact preserves_idWhere? _ _
    | some id => exact stores_pure _
  apply search.bind
  intro found _
  cases found with
  | some found => exact stores_pure _
  | none =>
    exact (preserves_member _ _ _).bind fun description _ =>
      (preserves_member _ _ _).bind fun encodingType _ =>
      (preserves_require proper).bind fun sent isProper => (preserves_claim _ _).bind fun id _ =>
      Preserves.bind (stores_save .location ⟨free, isProper⟩) fun _ _ => stores_pure _

theorem stores_addSensor (id : Option EntityId)
    (name description encodingType metadata : Option String) {properties : Option Json}
    (free : properties ≠ some .null) :
    (addSensor id name description encodingType metadata properties).Stores :=
  (preserves_claim _ _).bind fun _ _ => (preserves_member _ _ _).bind fun _ _ =>
    (preserves_member _ _ _).bind fun _ _ =>
    (preserves_member _ _ _).bind fun _ _ =>
    (preserves_member _ _ _).bind fun _ _ =>
    Preserves.bind (stores_save .sensor free) fun _ _ => stores_pure _

theorem stores_addObservedProperty (id : Option EntityId)
    (name definition description : Option String) {properties : Option Json}
    (free : properties ≠ some .null) :
    (addObservedProperty id name definition description properties).Stores := by
  apply (preserves_member _ _ _).bind
  intro name _
  apply (preserves_member _ _ _).bind
  intro definition _
  apply (preserves_member _ _ _).bind
  intro description _
  have search : (propertyRepeated? id definition).Stores := by
    cases id with
    | none => exact preserves_idWhere? _ _
    | some id => exact stores_pure _
  apply search.bind
  intro found _
  cases found with
  | some found => exact stores_pure _
  | none =>
    exact (preserves_claim _ _).bind fun id _ =>
      Preserves.bind (stores_save .observedProperty free) fun _ _ => stores_pure _

theorem stores_addFeature (id : Option EntityId) (name description encodingType : Option String)
    {feature : Option SentGeometry} (proper : ∀ sent, feature = some sent → sent.geometry.IsProper)
    {properties : Option Json} (free : properties ≠ some .null) :
    (addFeature id name description encodingType feature properties).Stores := by
  apply (preserves_member _ _ _).bind
  intro name _
  apply (preserves_member _ _ _).bind
  intro description _
  apply (preserves_member _ _ _).bind
  intro featureType _
  apply (preserves_require proper).bind
  intro sent isProper
  have search : (featureRepeated? id sent.geometry description).Stores := by
    cases id with
    | none => exact preserves_idWhere? _ _
    | some id =>
      apply (stores_find? .featureOfInterest id).bind
      intro found _
      cases found <;> exact stores_pure _
  apply search.bind
  intro found _
  cases found with
  | some found => exact stores_pure _
  | none =>
    exact (preserves_claim _ _).bind fun id _ =>
      Preserves.bind (stores_save .featureOfInterest ⟨free, isProper⟩) fun _ _ => stores_pure _

theorem stores_addDatastream (id : EntityId) (name description : String) (unit : UnitDraft)
    (observationType : ObservationType) {properties : Option Json} (free : properties ≠ some .null)
    (thing sensor observedProperty : EntityId) :
    (addDatastream id name description unit observationType properties thing sensor
      observedProperty).Stores :=
  (stores_unitFor unit).bind fun _ _ => (stores_formatFor observationType).bind fun _ _ =>
    stores_save .datastream free

theorem stores_addObservation (id : EntityId) (phenomenonTime : Option TimeSpan)
    (resultTime : Option Instant) (validTime : Option Interval) {parameters : Option Json}
    (free : parameters ≠ some .null) {result : ObservedValue} (isStorable : result.IsStorable)
    (stream : Datastream) (feature : EntityId) :
    (addObservation id phenomenonTime resultTime validTime parameters result stream
      feature).Stores :=
  preserves_now.bind fun _ _ => (stores_datasetFor stream feature).bind fun _ _ =>
    Preserves.bind (stores_save .observation ⟨free, isStorable⟩) fun _ _ =>
      stores_observationAdded isStorable

theorem stores_linkHistory (id : EntityId) (owner : HistoryOwner) :
    (linkHistory id owner).Stores := by
  cases owner with
  | thing thing => exact preserves_throw _
  | location location => exact stores_extendRecord _ _

theorem stores_adoptDatastream (owner : DatastreamOwner) (id : EntityId) :
    (adoptDatastream owner id).Stores := by
  apply (stores_fetch _ _).bind
  intro datastream kept
  apply stores_save .datastream
  cases owner <;> exact kept

end Change

end SensorThings
