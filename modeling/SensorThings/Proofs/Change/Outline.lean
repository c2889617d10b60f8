import SensorThings.Change.Request

/-!
Outlines of drafts. An outline keeps, of all that a draft makes, the bodies with an identifier of
their own, in the order in which the identifiers are claimed. Bodies that give way to the entity
they are nested in are not made, and are left out; so are references, but for those by which a
datastream gets another owner.
-/
namespace SensorThings

def DatastreamOwner.key : DatastreamOwner → Key
  | thing id => ⟨.thing, id⟩
  | sensor id => ⟨.sensor, id⟩
  | observedProperty id => ⟨.observedProperty, id⟩

def ObservationOwner.key : ObservationOwner → Key
  | datastream id => ⟨.datastream, id⟩
  | feature id => ⟨.featureOfInterest, id⟩

def HistoryOwner.key : HistoryOwner → Key
  | thing id => ⟨.thing, id⟩
  | location id => ⟨.location, id⟩

/-- A feature that a client sends under an identifier of its own. -/
structure FeatureBody where
  id : EntityId
  geometry : Option SentGeometry
  description : Option String

def FeatureBody.Repeats (body : FeatureBody) (feature : FeatureOfInterest) : Prop :=
  ∃ sent description, body.geometry = some sent ∧ body.description = some description ∧
    feature.repeats sent.geometry description = true

/-- The inner bodies of a body are made between the claim of its identifier and its own write. A
feature has none: it is written at once. -/
inductive Outline where
  | nil
  | body (kind : EntityKind) (id : EntityId) (inner rest : Outline)
  | feature (sent : FeatureBody) (rest : Outline)
  | adopted (owner : EntityKind) (datastream : EntityId) (rest : Outline)

namespace Outline

def append : Outline → Outline → Outline
  | nil, other => other
  | body kind id inner rest, other => body kind id inner (rest.append other)
  | feature sent rest, other => feature sent (rest.append other)
  | adopted owner datastream rest, other => adopted owner datastream (rest.append other)

instance : Append Outline := ⟨append⟩

@[simp] theorem nil_append (outline : Outline) : nil ++ outline = outline := rfl

@[simp] theorem body_append (kind : EntityKind) (id : EntityId) (inner rest outline : Outline) :
    body kind id inner rest ++ outline = body kind id inner (rest ++ outline) := rfl

@[simp] theorem feature_append (sent : FeatureBody) (rest outline : Outline) :
    feature sent rest ++ outline = feature sent (rest ++ outline) := rfl

@[simp] theorem adopted_append (owner : EntityKind) (datastream : EntityId)
    (rest outline : Outline) :
    adopted owner datastream rest ++ outline = adopted owner datastream (rest ++ outline) := rfl

@[simp] theorem append_nil (outline : Outline) : outline ++ nil = outline := by
  induction outline with
  | nil => rfl
  | body kind id inner rest _ ih => rw [body_append, ih]
  | feature sent rest ih => rw [feature_append, ih]
  | adopted owner datastream rest ih => rw [adopted_append, ih]

/-- A body without an identifier of its own leaves only what is nested in it. -/
def named (kind : EntityKind) (id : Option EntityId) (inner rest : Outline) : Outline :=
  match id with
  | some id => body kind id inner rest
  | none => inner ++ rest

def namedFeature (id : Option EntityId) (geometry : Option SentGeometry)
    (description : Option String) (rest : Outline) : Outline :=
  match id with
  | some id => feature ⟨id, geometry, description⟩ rest
  | none => rest

@[simp] theorem named_append (kind : EntityKind) (id : Option EntityId) (inner outline : Outline) :
    named kind id inner nil ++ outline = named kind id inner outline := by
  cases id with
  | none => rw [named, append_nil, named]
  | some id => rfl

@[simp] theorem namedFeature_append (id : Option EntityId) (geometry : Option SentGeometry)
    (description : Option String) (outline : Outline) :
    namedFeature id geometry description nil ++ outline =
      namedFeature id geometry description outline := by
  cases id <;> rfl

def unlessOwned (owned : Bool) (outline : Outline) : Outline :=
  if owned then nil else outline

def keys : Outline → List Key
  | nil => []
  | body kind id inner rest => ⟨kind, id⟩ :: (inner.keys ++ rest.keys)
  | feature sent rest => ⟨.featureOfInterest, sent.id⟩ :: rest.keys
  | adopted _ _ rest => rest.keys

def features : Outline → List FeatureBody
  | nil => []
  | body _ _ inner rest => inner.features ++ rest.features
  | feature sent rest => sent :: rest.features
  | adopted _ _ rest => rest.features

def adoptions (owner : EntityKind) : Outline → List EntityId
  | nil => []
  | body _ _ inner rest => inner.adoptions owner ++ rest.adoptions owner
  | feature _ rest => rest.adoptions owner
  | adopted kind datastream rest =>
    if kind = owner then datastream :: rest.adoptions owner else rest.adoptions owner

/-- Among the inner bodies of some body there is one of its own kind and identifier. -/
def Nests : Outline → Prop
  | nil => False
  | body kind id inner rest => ⟨kind, id⟩ ∈ inner.keys ∨ inner.Nests ∨ rest.Nests
  | feature _ rest => rest.Nests
  | adopted _ _ rest => rest.Nests

@[simp] theorem keys_append (first second : Outline) :
    (first ++ second).keys = first.keys ++ second.keys := by
  induction first with
  | nil => rfl
  | body kind id inner rest _ ih => simp [keys, ih]
  | feature sent rest ih => simp [keys, ih]
  | adopted owner datastream rest ih => simp [keys, ih]

@[simp] theorem features_append (first second : Outline) :
    (first ++ second).features = first.features ++ second.features := by
  induction first with
  | nil => rfl
  | body kind id inner rest _ ih => simp [features, ih]
  | feature sent rest ih => simp [features, ih]
  | adopted owner datastream rest ih => simp [features, ih]

@[simp] theorem adoptions_append (owner : EntityKind) (first second : Outline) :
    (first ++ second).adoptions owner = first.adoptions owner ++ second.adoptions owner := by
  induction first with
  | nil => rfl
  | body kind id inner rest _ ih => simp [adoptions, ih]
  | feature sent rest ih => simp [adoptions, ih]
  | adopted kind datastream rest ih => by_cases same : kind = owner <;> simp [adoptions, ih, same]

@[simp] theorem adoptions_named (owner kind : EntityKind) (id : Option EntityId) (inner : Outline) :
    (named kind id inner nil).adoptions owner = inner.adoptions owner := by
  cases id <;> simp [named, adoptions]

@[simp] theorem features_named (kind : EntityKind) (id : Option EntityId) (inner : Outline) :
    (named kind id inner nil).features = inner.features := by
  cases id <;> simp [named, features]

@[simp] theorem nests_append (first second : Outline) :
    (first ++ second).Nests ↔ first.Nests ∨ second.Nests := by
  induction first with
  | nil => simp [Nests]
  | body kind id inner rest _ ih => simp [Nests, ih, or_assoc]
  | feature sent rest ih => simp [Nests, ih]
  | adopted owner datastream rest ih => simp [Nests, ih]

mutual

def ofThing : Link ThingDraft → Outline
  | .reference _ => nil
  | .body draft => ofThingDraft draft

def ofThingDraft : ThingDraft → Outline
  | ⟨id, _, _, _, locations, datastreams, histories⟩ =>
    named .thing id nil (ofListedLocations locations ++
      (ofListedDatastreams .thing datastreams ++ ofListedHistories .thing histories))

def ofThing? : Option (Link ThingDraft) → Outline
  | none => nil
  | some link => ofThing link

def ofThings : List (Link ThingDraft) → Outline
  | [] => nil
  | link :: rest => ofThing link ++ ofThings rest

def ofListedThings : Option (List (Link ThingDraft)) → Outline
  | none => nil
  | some links => ofThings links

def ofLocation : Link LocationDraft → Outline
  | .reference _ => nil
  | .body draft => ofLocationDraft draft

def ofLocationDraft : LocationDraft → Outline
  | ⟨id, _, _, _, _, _, things, histories⟩ =>
    named .location id nil (ofListedThings things ++ ofListedHistories .location histories)

def ofLocations : List (Link LocationDraft) → Outline
  | [] => nil
  | link :: rest => ofLocation link ++ ofLocations rest

def ofListedLocations : Option (List (Link LocationDraft)) → Outline
  | none => nil
  | some links => ofLocations links

def ofHistory : Link HistoricalLocationDraft → Outline
  | .reference _ => nil
  | .body draft => ofHistoryDraft none draft

def ofHistoryDraft (owner : Option EntityKind) : HistoricalLocationDraft → Outline
  | ⟨id, _, thing, locations⟩ =>
    named .historicalLocation id
      ((ofThing? thing).unlessOwned (owner == some .thing) ++ ofListedLocations locations) nil

def ofHistories (owner : EntityKind) : List (Link HistoricalLocationDraft) → Outline
  | [] => nil
  | .reference _ :: rest => ofHistories owner rest
  | .body draft :: rest => ofHistoryDraft (some owner) draft ++ ofHistories owner rest

def ofListedHistories (owner : EntityKind) :
    Option (List (Link HistoricalLocationDraft)) → Outline
  | none => nil
  | some links => ofHistories owner links

def ofSensor : Link SensorDraft → Outline
  | .reference _ => nil
  | .body draft => ofSensorDraft draft

def ofSensorDraft : SensorDraft → Outline
  | ⟨id, _, _, _, _, _, datastreams⟩ =>
    named .sensor id nil (ofListedDatastreams .sensor datastreams)

def ofSensor? : Option (Link SensorDraft) → Outline
  | none => nil
  | some link => ofSensor link

def ofObservedProperty : Link ObservedPropertyDraft → Outline
  | .reference _ => nil
  | .body draft => ofObservedPropertyDraft draft

def ofObservedPropertyDraft : ObservedPropertyDraft → Outline
  | ⟨id, _, _, _, _, datastreams⟩ =>
    named .observedProperty id nil (ofListedDatastreams .observedProperty datastreams)

def ofObservedProperty? : Option (Link ObservedPropertyDraft) → Outline
  | none => nil
  | some link => ofObservedProperty link

def ofDatastream : Link DatastreamDraft → Outline
  | .reference _ => nil
  | .body draft => ofDatastreamDraft none draft

def ofDatastreamDraft (owner : Option EntityKind) : DatastreamDraft → Outline
  | ⟨id, _, _, _, _, _, thing, sensor, property, observations⟩ =>
    named .datastream id
      ((ofThing? thing).unlessOwned (owner == some .thing) ++
        ((ofSensor? sensor).unlessOwned (owner == some .sensor) ++
          (ofObservedProperty? property).unlessOwned (owner == some .observedProperty)))
      (ofListedObservations .datastream observations)

def ofDatastream? : Option (Link DatastreamDraft) → Outline
  | none => nil
  | some link => ofDatastream link

def ofDatastreams (owner : EntityKind) : List (Link DatastreamDraft) → Outline
  | [] => nil
  | .reference id :: rest => adopted owner id (ofDatastreams owner rest)
  | .body draft :: rest => ofDatastreamDraft (some owner) draft ++ ofDatastreams owner rest

def ofListedDatastreams (owner : EntityKind) : Option (List (Link DatastreamDraft)) → Outline
  | none => nil
  | some links => ofDatastreams owner links

def ofFeature : Link FeatureDraft → Outline
  | .reference _ => nil
  | .body draft => ofFeatureDraft draft

def ofFeatureDraft : FeatureDraft → Outline
  | ⟨id, _, description, _, geometry, _, observations⟩ =>
    namedFeature id geometry description (ofListedObservations .featureOfInterest observations)

def ofFeature? : Option (Link FeatureDraft) → Outline
  | none => nil
  | some link => ofFeature link

def ofObservation : Link ObservationDraft → Outline
  | .reference _ => nil
  | .body draft => ofObservationDraft none draft

def ofObservationDraft (owner : Option EntityKind) : ObservationDraft → Outline
  | ⟨id, _, _, _, _, _, datastream, about⟩ =>
    named .observation id
      ((ofDatastream? datastream).unlessOwned (owner == some .datastream) ++
        (ofFeature? about).unlessOwned (owner == some .featureOfInterest)) nil

def ofObservations (owner : EntityKind) : List (Link ObservationDraft) → Outline
  | [] => nil
  | .reference _ :: rest => ofObservations owner rest
  | .body draft :: rest => ofObservationDraft (some owner) draft ++ ofObservations owner rest

def ofListedObservations (owner : EntityKind) : Option (List (Link ObservationDraft)) → Outline
  | none => nil
  | some links => ofObservations owner links

end

/-- The outline of a body in JSON; what is not read as a draft makes nothing. -/
def ofJson (kind : EntityKind) (body : Json) : Outline :=
  match kind with
  | .thing => ((ThingDraft.ofJson? body).map fun draft => ofThing draft.link).getD nil
  | .location => ((LocationDraft.ofJson? body).map fun draft => ofLocation draft.link).getD nil
  | .historicalLocation =>
    ((HistoricalLocationDraft.ofJson? body).map fun draft => ofHistory draft.link).getD nil
  | .sensor => ((SensorDraft.ofJson? body).map fun draft => ofSensor draft.link).getD nil
  | .observedProperty =>
    ((ObservedPropertyDraft.ofJson? body).map fun draft => ofObservedProperty draft.link).getD nil
  | .datastream =>
    ((DatastreamDraft.ofJson? body).map fun draft => ofDatastream draft.link).getD nil
  | .featureOfInterest =>
    ((FeatureDraft.ofJson? body).map fun draft => ofFeature draft.link).getD nil
  | .observation =>
    ((ObservationDraft.ofJson? body).map fun draft => ofObservation draft.link).getD nil
  | .dataset => nil
  | .unitOfMeasurement => nil
  | .format => nil

end Outline

end SensorThings
