import SensorThings.Proofs.Change.Derivation
import SensorThings.Proofs.Change.Plain
import SensorThings.Proofs.Change.Provision
import SensorThings.Proofs.Change.Repetition

/-!
Bodies without an identifier that stand for what is there. A location is found by its name, an
observed property by its definition, and a feature by its geometry and its description; what is not
found is added, and found from then on.
-/
namespace SensorThings

namespace Tables

variable (tables : Tables)

@[simp] theorem selects_name (name : String) (location : Location) :
    tables.selects .location (.equal (.here "name") (.text name)) location = true ↔
      location.name = name := by
  have truth : tables.selects .location (.equal (.here "name") (.text name)) location =
      (some (compare location.name name == .eq) == some true) := rfl
  rw [truth, Text.compare_beq_eq]
  simp

@[simp] theorem selects_definition (definition : String) (property : ObservedProperty) :
    tables.selects .observedProperty (.equal (.here "definition") (.text definition)) property =
        true ↔ property.definition = definition := by
  have truth : tables.selects .observedProperty (.equal (.here "definition") (.text definition))
      property = (some (compare property.definition definition == .eq) == some true) := rfl
  rw [truth, Text.compare_beq_eq]
  simp

end Tables

/-! Which entities a draft without an identifier stands for. -/

def LocationDraft.Matches (draft : LocationDraft) (location : Location) : Prop :=
  draft.name = some location.name

def ObservedPropertyDraft.Matches (draft : ObservedPropertyDraft) (property : ObservedProperty) :
    Prop :=
  draft.definition = some property.definition

def FeatureDraft.Matches (draft : FeatureDraft) (feature : FeatureOfInterest) : Prop :=
  ∃ sent, draft.feature = some sent ∧ feature.feature.same sent.geometry = true ∧
    draft.description = some feature.description

/-- The first entity that suits is used, and nothing changes; where none suits, just one is added,
which suits. -/
inductive Tables.Shares (before : Tables) (kind : EntityKind) (suits : kind.Entity → Prop)
    (id : EntityId) (after : Tables) : Prop where
  | used (first : before.IsFirst kind suits id) (unchanged : after = before)
  | added (absent : ∀ other row, before.find? kind other = some row → ¬suits row)
      (row : kind.Entity) (identified : kind.idOf row = id) (isSuited : suits row)
      (free : before.find? kind id = none) (put : after = before.put kind row)

theorem Tables.Shares.isFirst {before after : Tables} {kind : EntityKind}
    {suits : kind.Entity → Prop} {id : EntityId} (shares : before.Shares kind suits id after) :
    after.IsFirst kind suits id := by
  cases shares with
  | used first unchanged => exact unchanged ▸ first
  | added absent row identified isSuited free put =>
    have provides : before.Provides kind suits (fun _ => row) id after := .made absent free put
    exact provides.isFirst identified isSuited

namespace Change

variable {environment later : Environment} {before middle after : Progress} {id : EntityId}

/-- A change gives the first entity that suits, or adds one; and wherever one is the first, the
change gives it and idles, if it ever succeeds. -/
structure Reuses (change : Change EntityId) (kind : EntityKind) (suits : kind.Entity → Prop) :
    Prop where
  shares : ∀ ⦃environment before id after⦄, change.Returns environment before id after →
    environment.Fresh [] before → before.tables.Shares kind suits id after.tables
  repeats : ∀ ⦃environment before id after⦄, change.Returns environment before id after →
    ∀ ⦃later middle place⦄, middle.tables.IsFirst kind suits place →
      change.Idles later middle place

variable {kind : EntityKind} {suits : kind.Entity → Prop}

theorem reuses_require {α : Type} {owner : EntityKind} {name : String} {given : Option α}
    {next : α → Change EntityId}
    (reuses : ∀ value, given = some value → (next value).Reuses kind suits) :
    (require owner name given >>= next).Reuses kind suits where
  shares := by
    intro environment before id after ran fresh
    obtain ⟨value, _, required, ran⟩ := returns_bind.1 ran
    obtain ⟨isGiven, rfl⟩ := returns_require.1 required
    exact (reuses value isGiven).shares ran fresh
  repeats := by
    intro environment before id after ran later middle place first
    obtain ⟨value, _, required, ran⟩ := returns_bind.1 ran
    obtain ⟨isGiven, rfl⟩ := returns_require.1 required
    exact .of_reads value (returns_require.2 ⟨isGiven, rfl⟩)
      ((reuses value isGiven).repeats ran first)

theorem reuses_idWhere? {predicate : Predicate} {next : Option EntityId → Change EntityId}
    (selects : ∀ (tables : Tables) row, tables.selects kind predicate row = true ↔ suits row)
    (found : ∀ id, next (some id) = pure id)
    (missing : ∀ ⦃environment before id after⦄,
      (next none).Returns environment before id after → environment.Fresh [] before →
      ∃ row, kind.idOf row = id ∧ suits row ∧ before.tables.find? kind id = none ∧
        after.tables = before.tables.put kind row) :
    (idWhere? kind predicate >>= next).Reuses kind suits where
  shares := by
    intro environment before id after ran fresh
    obtain ⟨there, _, looked, ran⟩ := returns_bind.1 ran
    obtain ⟨selected, rfl⟩ := returns_idWhere?.1 looked
    cases there with
    | some there =>
      rw [found] at ran
      obtain ⟨rfl, rfl⟩ := returns_pure.1 ran
      exact .used (Tables.isFirst_of_findWhere? (selects _) selected) rfl
    | none =>
      obtain ⟨row, identified, isSuited, free, put⟩ := missing ran fresh
      refine .added (fun other row found isSuited => ?_) row identified isSuited free put
      exact Tables.not_selects_of_findWhere? selected found ((selects _ row).2 isSuited)
  repeats := by
    intro environment before id after _ later middle place first
    refine .of_reads (some place) (returns_idWhere?.2 ⟨first.findWhere? (selects _), rfl⟩) ?_
    rw [found]
    exact idles_pure place

theorem exists_of_save {row : kind.Entity}
    (claimed : (claim kind none).Returns environment before id middle)
    (saved : middle.save kind row = after) (identified : kind.idOf row = id)
    (isSuited : suits row) (fresh : environment.Fresh [] before) :
    ∃ row, kind.idOf row = id ∧ suits row ∧ before.tables.find? kind id = none ∧
      after.tables = before.tables.put kind row := by
  refine ⟨row, identified, isSuited, fresh.free_of_claim claimed, ?_⟩
  rw [← saved, claimed.claim_save_tables]

theorem reuses_addLocation (draft : LocationDraft) :
    (addLocation none draft.name draft.description draft.encodingType draft.location
      draft.properties).Reuses .location draft.Matches := by
  refine reuses_require fun name named => ?_
  refine reuses_idWhere? (fun tables row => ?_) (fun _ => rfl) ?_
  · rw [tables.selects_name, LocationDraft.Matches, named, Option.some.injEq]
    exact eq_comm
  · intro environment before id after ran fresh
    simp only [returns_bind, returns_require, returns_save, returns_pure] at ran
    obtain ⟨description, _, ⟨-, rfl⟩, type, _, ⟨-, rfl⟩, sent, _, ⟨-, rfl⟩, _, _, claimed, _, _,
      saved, rfl, rfl⟩ := ran
    exact exists_of_save claimed saved rfl named fresh

theorem reuses_addObservedProperty (draft : ObservedPropertyDraft) :
    (addObservedProperty none draft.name draft.definition draft.description
      draft.properties).Reuses .observedProperty draft.Matches := by
  refine reuses_require fun name _ => reuses_require fun definition defined =>
    reuses_require fun description _ => ?_
  refine reuses_idWhere? (fun tables row => ?_) (fun _ => rfl) ?_
  · rw [tables.selects_definition, ObservedPropertyDraft.Matches, defined, Option.some.injEq]
    exact eq_comm
  · intro environment before id after ran fresh
    simp only [returns_bind, returns_save, returns_pure] at ran
    obtain ⟨_, _, claimed, _, _, saved, rfl, rfl⟩ := ran
    exact exists_of_save claimed saved rfl defined fresh

theorem reuses_addFeature {draft : FeatureDraft}
    (proper : ∀ sent, draft.feature = some sent → sent.geometry.IsProper) :
    (addFeature none draft.name draft.description draft.encodingType draft.feature
      draft.properties).Reuses .featureOfInterest draft.Matches := by
  refine reuses_require fun name _ => reuses_require fun description described =>
    reuses_require fun type _ => reuses_require fun sent given => ?_
  refine reuses_idWhere? (fun tables row => ?_) (fun _ => rfl) ?_
  · rw [tables.selects_like, FeatureDraft.Matches, described, given]
    constructor
    · rintro ⟨same, rfl⟩
      exact ⟨sent, rfl, same, rfl⟩
    · rintro ⟨_, ⟨⟩, same, ⟨⟩⟩
      exact ⟨same, rfl⟩
  · intro environment before id after ran fresh
    simp only [returns_bind, returns_save, returns_pure] at ran
    obtain ⟨_, _, claimed, _, _, saved, rfl, rfl⟩ := ran
    exact exists_of_save claimed saved rfl
      ⟨sent, given, (proper sent given).same_self, described⟩ fresh

end Change

/-- A body for a location, an observed property or a feature that gives neither an identifier nor
nested bodies stands for the entities that its draft matches. -/
inductive Json.StandsFor (body : Json) : (kind : EntityKind) → (kind.Entity → Prop) → Prop where
  | location {draft : LocationDraft} (read : LocationDraft.ofJson? body = some draft)
      (unnamed : draft.id = none) (things : draft.things.getD [] = [])
      (histories : draft.historicalLocations.getD [] = []) :
      StandsFor body .location draft.Matches
  | observedProperty {draft : ObservedPropertyDraft}
      (read : ObservedPropertyDraft.ofJson? body = some draft) (unnamed : draft.id = none)
      (datastreams : draft.datastreams.getD [] = []) :
      StandsFor body .observedProperty draft.Matches
  | feature {draft : FeatureDraft} (read : FeatureDraft.ofJson? body = some draft)
      (unnamed : draft.id = none) (observations : draft.observations.getD [] = []) :
      StandsFor body .featureOfInterest draft.Matches

theorem Json.StandsFor.reuses {body : Json} {kind : EntityKind} {suits : kind.Entity → Prop}
    (stands : body.StandsFor kind suits) (fits : body.numbersFit = true) :
    (Change.create kind body).Reuses kind suits := by
  cases stands with
  | @location draft read unnamed things histories =>
    have whole : draft.link = .body draft := by rw [LocationDraft.link, unnamed, Link.make]
    rw [Change.create, Change.revise_of_draft read, whole, Change.createLocation,
      Change.insertLocation_eq things histories, unnamed]
    exact Change.reuses_addLocation draft
  | @observedProperty draft read unnamed datastreams =>
    have whole : draft.link = .body draft := by
      rw [ObservedPropertyDraft.link, unnamed, Link.make]
    rw [Change.create, Change.revise_of_draft read, whole, Change.createObservedProperty,
      Change.insertObservedProperty_eq datastreams, unnamed]
    exact Change.reuses_addObservedProperty draft
  | @feature draft read unnamed observations =>
    have sent : Sent FeatureDraft.ofJson? draft := ⟨body, fits, read⟩
    have whole : draft.link = .body draft := by rw [FeatureDraft.link, unnamed, Link.make]
    rw [Change.create, Change.revise_of_draft read, whole, Change.createFeature,
      Change.insertFeature_eq observations, unnamed]
    exact Change.reuses_addFeature sent.feature.2.1

namespace Store

/-- A body that stands for what is there gives the first entity that suits, and changes nothing;
else it adds just one. Whenever it is sent again, it gives the same one, and changes nothing. -/
theorem create_shares {store after : Store} {environment : Environment} {kind : EntityKind}
    {body : Json} {suits : kind.Entity → Prop} {id : EntityId}
    (fresh : environment.Fresh (ChangeRequest.create kind body).keys (.start store.tables))
    (fits : body.numbersFit = true) (stands : body.StandsFor kind suits)
    (succeeded : store.change environment (Change.ofRequest (.create kind body)) =
      (.ok (some id), after)) :
    store.tables.Shares kind suits id after.tables ∧
      ∀ later, ∃ last,
        after.change later (Change.ofRequest (.create kind body)) = (.ok (some id), last) ∧
          last.tables = after.tables := by
  have reuses := stands.reuses fits
  obtain ⟨done, ran, tables⟩ := returns_of_change succeeded
  obtain ⟨_, created, ⟨⟩⟩ := Change.returns_ofRequest_create.1 ran
  have shares := reuses.shares created (fresh.mono (by simp))
  rw [tables]
  refine ⟨shares, fun later => ?_⟩
  have first : (Progress.start after.tables).tables.IsFirst kind suits id :=
    tables.symm ▸ shares.isFirst
  have idles : (Change.ofRequest (.create kind body)).Idles later (.start after.tables) (some id) :=
    (reuses.repeats created first).bind fun _ _ => Change.idles_pure (some id)
  obtain ⟨last, again, unchanged⟩ := idles
  obtain ⟨succeeds, result⟩ := change_of_returns again
  exact ⟨_, Prod.ext succeeds rfl, result.trans (unchanged.trans tables)⟩

end Store

namespace FirstObservation

def propertyDraft : ObservedPropertyDraft :=
  ⟨none, some "n", some "u", some "d", none, none⟩

theorem stands_property : propertyBody.StandsFor .observedProperty propertyDraft.Matches :=
  .observedProperty read_property rfl rfl

theorem succeeds_property :
    (store.change later (Change.ofRequest (.create .observedProperty propertyBody))).1 =
      .ok (some (environment.fresh 4)) := by
  unfold store Store.change Change.start request
  simp only [Change.ofRequest, Change.create, Change.draft, read_body, read_property]
  rfl

theorem fresh_property : later.Fresh (ChangeRequest.create .observedProperty propertyBody).keys
    (.start store.tables) := by
  have nothing : (ChangeRequest.create .observedProperty propertyBody).keys = [] := by
    simp only [ChangeRequest.keys, Outline.ofJson, read_property]
    rfl
  rw [nothing]
  exact later_fresh unstarred

end FirstObservation

namespace Store

open FirstObservation in
/-- The observed property of the first observation is given for its body, however often. -/
theorem create_shares_first_property : ∃ after : Store,
    store.change later (Change.ofRequest (.create .observedProperty propertyBody)) =
        (.ok (some (environment.fresh 4)), after) ∧
      store.tables.Shares .observedProperty propertyDraft.Matches (environment.fresh 4)
        after.tables ∧
      ∃ last, after.change later (Change.ofRequest (.create .observedProperty propertyBody)) =
          (.ok (some (environment.fresh 4)), last) ∧ last.tables = after.tables := by
  have succeeded : store.change later
      (Change.ofRequest (.create .observedProperty propertyBody)) =
        (.ok (some (environment.fresh 4)), _) := Prod.ext succeeds_property rfl
  obtain ⟨shares, repeats⟩ :=
    create_shares fresh_property (by decide) stands_property succeeded
  exact ⟨_, succeeded, shares, repeats later⟩

end Store

end SensorThings
