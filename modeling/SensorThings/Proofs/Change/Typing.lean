import SensorThings.Proofs.Change.Reachable
import SensorThings.Proofs.Model.Results

/-!
Types of observations. A result fits the type that its datastream has now, and the format of a
datastream holds the URI of that type: results are read with the type of the datastream, and the
type changes only while nothing is observed.
-/
namespace SensorThings

/-- A datastream keeps its type, and with it the format. -/
structure Datastream.SameType (old new : Datastream) : Prop where
  observationType : new.observationType = old.observationType
  format : new.format = old.format

theorem Datastream.SameType.refl (datastream : Datastream) : datastream.SameType datastream :=
  ⟨rfl, rfl⟩

namespace Tables

def ResultFits (tables : Tables) (observation : Observation) : Prop :=
  ∃ stream : Datastream, tables.find? .datastream observation.datastream = some stream ∧
    stream.observationType.Fits observation.result

/-- Results fit the types of datastreams, and formats hold the URIs of these types. -/
structure Typed (tables : Tables) : Prop where
  results : ∀ id observation, tables.find? .observation id = some observation →
    tables.ResultFits observation
  formats : ∀ id (stream : Datastream), tables.find? .datastream id = some stream →
    tables.FormatHolds stream.observationType stream.format

def IsTyping (kind : EntityKind) : Prop :=
  kind = .observation ∨ kind = .datastream ∨ kind = .format

/-- Datastreams and formats stay and keep their types, and so do results that fit. -/
structure KeepsTypes (before after : Tables) : Prop where
  streams : ∀ id (old : Datastream), before.find? .datastream id = some old →
    ∃ new : Datastream, after.find? .datastream id = some new ∧ old.SameType new
  formats : ∀ id format, before.find? .format id = some format →
    after.find? .format id = some format
  typed : before.Typed → after.Typed

theorem typed_empty : Typed {} :=
  ⟨fun _ _ => nofun, fun _ _ => nofun⟩

namespace KeepsTypes

variable {before middle after tables : Tables}

theorem trans (left : before.KeepsTypes middle) (right : middle.KeepsTypes after) :
    before.KeepsTypes after where
  streams := by
    intro id old found
    obtain ⟨new, here, same⟩ := left.streams id old found
    obtain ⟨last, there, sameLater⟩ := right.streams id new here
    exact ⟨last, there, sameLater.observationType.trans same.observationType,
      sameLater.format.trans same.format⟩
  formats := fun id format found => right.formats id format (left.formats id format found)
  typed := fun typed => right.typed (left.typed typed)

theorem of_rows
    (streams : ∀ id (old : Datastream), before.find? .datastream id = some old →
      ∃ new : Datastream, after.find? .datastream id = some new ∧ old.SameType new)
    (formats : ∀ id format, before.find? .format id = some format →
      after.find? .format id = some format)
    (observations : ∀ id observation, after.find? .observation id = some observation →
      before.find? .observation id = some observation ∨
        (before.Typed → before.ResultFits observation))
    (datastreams : ∀ id (stream : Datastream), after.find? .datastream id = some stream →
      (∃ old, before.find? .datastream id = some old ∧ old.SameType stream) ∨
        before.FormatHolds stream.observationType stream.format) : before.KeepsTypes after where
  streams := streams
  formats := formats
  typed := by
    intro typed
    constructor
    · intro id observation found
      have fits : before.ResultFits observation := by
        obtain same | fits := observations id observation found
        · exact typed.results id observation same
        · exact fits typed
      obtain ⟨old, oldFound, result⟩ := fits
      obtain ⟨new, newFound, same⟩ := streams _ old oldFound
      exact ⟨new, newFound, same.observationType ▸ result⟩
    · intro id stream found
      have holds : before.FormatHolds stream.observationType stream.format := by
        obtain ⟨old, oldFound, same⟩ | holds := datastreams id stream found
        · rw [same.observationType, same.format]
          exact typed.formats id old oldFound
        · exact holds
      obtain ⟨format, formatFound, uri⟩ := holds
      exact ⟨format, formats _ format formatFound, uri⟩

theorem frame (same : ∀ {kind} id, IsTyping kind → after.find? kind id = before.find? kind id) :
    before.KeepsTypes after := by
  have observations := fun id => same id (.inl rfl)
  have datastreams := fun id => same id (.inr (.inl rfl))
  have formats := fun id => same id (.inr (.inr rfl))
  apply of_rows
  · exact fun id old found => ⟨old, (datastreams id).trans found, .refl old⟩
  · exact fun id format found => (formats id).trans found
  · exact fun id observation found => .inl ((observations id).symm.trans found)
  · exact fun id stream found => .inl ⟨stream, (datastreams id).symm.trans found, .refl stream⟩

theorem refl (tables : Tables) : tables.KeepsTypes tables :=
  frame fun _ _ => rfl

theorem put (kind : EntityKind) (entity : kind.Entity) (plain : ¬IsTyping kind) :
    tables.KeepsTypes (tables.put kind entity) :=
  frame (find?_put_of_not plain tables entity)

theorem put_format {format : Format} (free : tables.find? .format format.id = none) :
    tables.KeepsTypes (tables.put .format format) := by
  have others : ∀ {kind} id, kind ≠ .format →
      (tables.put .format format).find? kind id = tables.find? kind id :=
    fun id different => find?_put_of_ne _ _ _ different
  apply of_rows
  · exact fun id old found => ⟨old, (others id (by decide)).trans found, .refl old⟩
  · exact fun id row found => find?_put_of_free free found
  · exact fun id observation found => .inl ((others id (by decide)).symm.trans found)
  · exact fun id stream found => .inl ⟨stream, (others id (by decide)).symm.trans found, .refl _⟩

theorem put_observation {observation : Observation}
    (fits : tables.Typed → tables.ResultFits observation) :
    tables.KeepsTypes (tables.put .observation observation) := by
  have others : ∀ {kind} id, kind ≠ .observation →
      (tables.put .observation observation).find? kind id = tables.find? kind id :=
    fun id different => find?_put_of_ne _ _ _ different
  apply of_rows
  · exact fun id old found => ⟨old, (others id (by decide)).trans found, .refl old⟩
  · exact fun id format found => (others id (by decide)).trans found
  · intro id row found
    rw [find?_put] at found
    split at found
    next => exact .inr (Option.some.inj found ▸ fits)
    next => exact .inl found
  · exact fun id stream found => .inl ⟨stream, (others id (by decide)).symm.trans found, .refl _⟩

theorem put_datastream {stream : Datastream}
    (same : ∀ old, tables.find? .datastream stream.id = some old → Datastream.SameType old stream)
    (holds : tables.contains .datastream stream.id = false →
      tables.FormatHolds stream.observationType stream.format) :
    tables.KeepsTypes (tables.put .datastream stream) := by
  have others : ∀ {kind} id, kind ≠ .datastream →
      (tables.put .datastream stream).find? kind id = tables.find? kind id :=
    fun id different => find?_put_of_ne _ _ _ different
  apply of_rows
  · intro id old found
    rw [find?_put]
    split
    next here =>
      obtain rfl : stream.id = id := here
      exact ⟨stream, rfl, same old found⟩
    next => exact ⟨old, found, .refl old⟩
  · exact fun id format found => (others id (by decide)).trans found
  · exact fun id observation found => .inl ((others id (by decide)).symm.trans found)
  · intro id row found
    rw [find?_put] at found
    split at found
    next here =>
      obtain rfl : stream.id = id := here
      obtain rfl := Option.some.inj found
      cases there : tables.find? .datastream stream.id with
      | none => exact .inr (holds (by rw [contains, there]; rfl))
      | some old => exact .inl ⟨old, rfl, same old there⟩
    next => exact .inl ⟨row, found, .refl row⟩

theorem put_same {id : EntityId} {old new : Datastream}
    (found : tables.find? .datastream id = some old) (identified : new.id = old.id)
    (same : old.SameType new) : tables.KeepsTypes (tables.put .datastream new) := by
  have oldFound : tables.find? .datastream new.id = some old := by
    rw [identified]
    exact find?_idOf found
  apply put_datastream
  · intro row rowFound
    rw [oldFound] at rowFound
    exact Option.some.inj rowFound ▸ same
  · intro missing
    rw [contains_of_find? oldFound] at missing
    contradiction

end KeepsTypes

end Tables

theorem Lists.keepsTypes {historical : HistoricalLocation} {locations : List EntityId}
    {before after : Progress}
    (lists : Lists historical.id locations (before.save .historicalLocation historical) after) :
    before.tables.KeepsTypes after.tables := by
  apply Tables.KeepsTypes.frame
  intro kind id typing
  rw [lists.updates.others, Progress.find?_save_of_ne]
  all_goals
    rintro rfl
    simp [Tables.IsTyping] at typing

theorem Updates.keepsTypes {kind : EntityKind} {f : kind.Entity → kind.Entity}
    {ids : List EntityId} {before after : Progress} (updates : Updates kind f ids before after)
    (plain : ¬Tables.IsTyping kind) : before.tables.KeepsTypes after.tables := by
  apply Tables.KeepsTypes.frame
  intro other id typing
  apply updates.others
  rintro rfl
  exact plain typing

theorem Tables.sameType_rebounded (tables : Tables) (datastream : Datastream) :
    datastream.SameType (tables.rebounded datastream) := by
  rw [rebounded, Datastream.summarize_eq]
  exact ⟨rfl, rfl⟩

theorem Updates.rebounded_keepsTypes {tables : Tables} {ids : List EntityId}
    {before after : Progress} (updates : Updates .datastream tables.rebounded ids before after) :
    before.tables.KeepsTypes after.tables := by
  have same : ∀ id (row : Datastream),
      row.SameType (if id ∈ ids then tables.rebounded row else row) := by
    intro id row
    split
    · exact tables.sameType_rebounded row
    · exact .refl row
  apply Tables.KeepsTypes.of_rows
  · intro id old found
    exact ⟨_, by rw [updates.find?, found, Option.map_some], same id old⟩
  · exact fun id format found => (updates.others id (by decide)).trans found
  · exact fun id observation found => .inl ((updates.others id (by decide)).symm.trans found)
  · intro id stream found
    rw [updates.find?] at found
    obtain ⟨old, oldFound, rfl⟩ := Option.map_eq_some_iff.1 found
    exact .inl ⟨old, oldFound, same id old⟩

section Creations

variable {environment : Environment} {outline : Outline} {before after : Progress}

theorem Progress.addObservation_keepsTypes {progress : Progress} {observation : Observation}
    {datastream : Datastream} {dataset : Dataset}
    (found : progress.tables.find? .datastream observation.datastream = some datastream)
    (fits : progress.tables.ResultFits observation) :
    progress.tables.KeepsTypes
      (progress.addObservation observation datastream dataset).tables := by
  unfold addObservation
  simp only [save_tables]
  have written : progress.tables.KeepsTypes (progress.tables.put .observation observation) :=
    .put_observation fun _ => fits
  have there : (progress.tables.put .observation observation).find? .datastream
      observation.datastream = some datastream :=
    (Tables.find?_put_of_ne _ _ _ (by decide)).trans found
  have covered : (progress.tables.put .observation observation).KeepsTypes
      ((progress.tables.put .observation observation).put .datastream
        (datastream.cover observation)) := .put_same there rfl ⟨rfl, rfl⟩
  exact (written.trans covered).trans (.put .dataset _ (by simp [Tables.IsTyping]))

theorem Creation.keepsTypes (creation : Creation environment outline before after)
    (fresh : environment.Fresh outline.keys before) (distinct : outline.keys.Nodup) :
    before.tables.KeepsTypes after.tables := by
  induction creation with
  | nil => exact .refl _
  | append left _ ihLeft ihRight =>
    rw [Outline.keys_append, List.nodup_append] at distinct
    exact (ihLeft fresh.left distinct.1).trans (ihRight (fresh.right left) distinct.2.1)
  | bare kind entity isBare claimed =>
    rw [claimed.claim_save_tables]
    cases kind
    case format => exact .put_format (fresh.free_of_claim claimed)
    case datastream => exact isBare.elim
    case observation => exact isBare.elim
    all_goals exact .put _ entity (by simp [Tables.IsTyping])
  | feature feature _ claimed =>
    rw [claimed.claim_save_tables]
    exact .put .featureOfInterest feature (by simp [Tables.IsTyping])
  | repeated => exact .refl _
  | derived location feature _ _ chosen =>
    rw [chosen.featureId_save_tables]
    exact .put .featureOfInterest feature (by simp [Tables.IsTyping])
  | adopted owner datastream found =>
    rw [Progress.save_tables]
    cases owner <;> exact .put_same found rfl ⟨rfl, rfl⟩
  | moved thing locations =>
    rw [Progress.save_tables]
    exact .put .thing _ (by simp [Tables.IsTyping])
  | recorded historical claimed _ _ _ ran ih =>
    rw [← claimed.claim_tables]
    exact (ih (fresh.claim claimed) (Outline.nodup_inner distinct)).trans ran.record.keepsTypes
  | extended historical location ran =>
    obtain ⟨found, -, lists⟩ := ran.extendRecord
    exact lists.keepsTypes
  | datastream datastream claimed made _ isNew ih =>
    have free := made.claimed_stays_free claimed fresh distinct (by decide)
    rw [← claimed.claim_tables, Progress.save_tables]
    apply (ih (fresh.claim claimed) (Outline.nodup_inner distinct)).trans
    apply Tables.KeepsTypes.put_datastream
    · intro old found
      rw [free] at found
      contradiction
    · exact fun _ => isNew.formatted
  | dataset stream dataset _ _ _ _ _ _ _ ih =>
    simpa using (ih fresh distinct).trans (.put .dataset dataset (by simp [Tables.IsTyping]))
  | observation observation stream datastream dataset raw claimed left streamed typed right _
      datastreamFound _ _ ihLeft ihRight =>
    rw [← claimed.claim_tables]
    have inside := fresh.claim claimed
    have distinctInside := Outline.nodup_inner distinct
    rw [Outline.keys_append, List.nodup_append] at distinctInside
    have first := ihLeft inside.left distinctInside.1
    have second := ihRight (inside.right left) distinctInside.2.1
    obtain ⟨later, laterFound, same⟩ := second.streams _ stream streamed
    have fits := ObservationType.fits_of_result typed
    rw [← same.observationType] at fits
    exact (first.trans second).trans
      (Progress.addObservation_keepsTypes datastreamFound ⟨later, laterFound, fits⟩)

end Creations

section Revisions

variable {environment : Environment} {before after : Progress}

theorem Tables.Typed.put_unobserved {tables : Tables} (typed : tables.Typed)
    {stream : Datastream}
    (unobserved : ∀ id (observation : Observation),
      tables.find? .observation id = some observation → observation.datastream ≠ stream.id)
    (holds : tables.FormatHolds stream.observationType stream.format) :
    (tables.put .datastream stream).Typed where
  results := by
    intro id observation found
    rw [find?_put_of_ne _ _ _ (by decide)] at found
    obtain ⟨old, oldFound, fits⟩ := typed.results id observation found
    refine ⟨old, ?_, fits⟩
    rw [find?_put]
    exact (if_neg (unobserved id observation found).symm).trans oldFound
  formats := by
    have formats : ∀ {type id}, tables.FormatHolds type id →
        (tables.put .datastream stream).FormatHolds type id := by
      rintro type id ⟨format, found, uri⟩
      exact ⟨format, (find?_put_of_ne _ _ _ (by decide)).trans found, uri⟩
    intro id row found
    rw [find?_put] at found
    split at found
    next => exact formats (Option.some.inj found ▸ holds)
    next => exact formats (typed.formats id row found)

theorem Edits.typed {kind : EntityKind} (edits : Edits environment kind before after)
    (fresh : environment.Fresh [] before) (typed : before.tables.Typed) : after.tables.Typed := by
  obtain ⟨old, new, supplied, found, identified, retains, -, retypes, followed⟩ := edits
  have freshThen : environment.Fresh [] _ := supplied.fresh fresh
  have typedThen := (supplied.keepsTypes fresh .nil).typed typed
  apply (followed.keepsTypes (freshThen.resave found identified) .nil).typed
  rw [Progress.save_tables]
  cases kind
  case datastream =>
    have sameId : Datastream.id new = Datastream.id old := identified
    obtain ⟨type, format⟩ | ⟨holds, unobserved⟩ := retypes
    · exact (Tables.KeepsTypes.put_same found identified ⟨type, format⟩).typed typedThen
    · exact typedThen.put_unobserved (sameId ▸ unobserved) holds
  case observation => exact retains.elim
  case format => exact retains.elim
  all_goals exact (Tables.KeepsTypes.put _ new (by simp [Tables.IsTyping])).typed typedThen

theorem EditsObservation.typed (edits : EditsObservation environment before after)
    (fresh : environment.Fresh [] before) (typed : before.tables.Typed) : after.tables.Typed := by
  obtain @⟨first, middle, id, old, new, stream, found, streamFound, refocuses, result, repoints,
    rebounds⟩ := edits
  have typedThen := (refocuses.supplied.keepsTypes fresh .nil).typed typed
  have fits : first.tables.ResultFits new := by
    rw [Tables.ResultFits, refocuses.same.2, refocuses.others _ (by decide)]
    rcases result with same | ⟨raw, read⟩
    · rw [same]
      exact typed.results id old found
    · exact ⟨stream, streamFound, ObservationType.fits_of_result read⟩
  have written : first.tables.KeepsTypes (first.save .observation new).tables := by
    rw [Progress.save_tables]
    exact .put_observation fun _ => fits
  have repointed := written.trans (repoints.keepsTypes (by simp [Tables.IsTyping]))
  exact (repointed.trans rebounds.rebounded_keepsTypes).typed typedThen

theorem Revision.typed {kind : EntityKind} (revision : Revision environment before after kind)
    (fresh : environment.Fresh [] before) (typed : before.tables.Typed) : after.tables.Typed := by
  cases revision with
  | entity edits => exact edits.typed fresh typed
  | observation edits => exact edits.typed fresh typed

end Revisions

section Removals

/-- Observations, datastreams and formats are rows from before, with the types from before. -/
structure Tables.Inherits (before after : Tables) : Prop where
  observations : ∀ id row, after.find? .observation id = some row →
    before.find? .observation id = some row
  streams : ∀ id row, after.find? .datastream id = some row →
    ∃ old, before.find? .datastream id = some old ∧ Datastream.SameType old row
  formats : ∀ id row, after.find? .format id = some row → before.find? .format id = some row

namespace Tables.Inherits

variable {before middle after : Tables}

theorem trans (left : before.Inherits middle) (right : middle.Inherits after) :
    before.Inherits after where
  observations := fun id row found => left.observations id row (right.observations id row found)
  streams := by
    intro id row found
    obtain ⟨old, oldFound, same⟩ := right.streams id row found
    obtain ⟨first, firstFound, sameBefore⟩ := left.streams id old oldFound
    exact ⟨first, firstFound, same.observationType.trans sameBefore.observationType,
      same.format.trans sameBefore.format⟩
  formats := fun id row found => left.formats id row (right.formats id row found)

theorem of_subset (subset : ∀ kind id row, IsTyping kind → after.find? kind id = some row →
    before.find? kind id = some row) : before.Inherits after where
  observations := fun id row => subset .observation id row (.inl rfl)
  streams := fun id row found =>
    ⟨row, subset .datastream id row (.inr (.inl rfl)) found, .refl row⟩
  formats := fun id row => subset .format id row (.inr (.inr rfl))

/-- What an observation or a datastream refers to is still there, so it is as it was. -/
theorem typed (inherits : before.Inherits after) (linked : after.Linked) (typed : before.Typed) :
    after.Typed where
  results := by
    intro id observation found
    obtain ⟨old, oldFound, fits⟩ :=
      typed.results id observation (inherits.observations id observation found)
    have there := (linked .observation id observation found).datastream
    obtain ⟨stream, streamFound⟩ := contains_iff.1 there
    obtain ⟨before, beforeFound, same⟩ := inherits.streams _ stream streamFound
    obtain rfl := Option.some.inj (oldFound.symm.trans beforeFound)
    exact ⟨stream, streamFound, same.observationType ▸ fits⟩
  formats := by
    intro id stream found
    obtain ⟨old, oldFound, same⟩ := inherits.streams id stream found
    obtain ⟨format, formatFound, uri⟩ := typed.formats id old oldFound
    obtain ⟨row, rowFound⟩ := contains_iff.1 (linked .datastream id stream found).format
    have rowBefore := inherits.formats _ row rowFound
    rw [same.format] at rowBefore
    obtain rfl := Option.some.inj (formatFound.symm.trans rowBefore)
    exact ⟨format, rowFound, same.observationType ▸ uri⟩

end Tables.Inherits

variable {id : EntityId} {before after : Progress}

theorem Drops.inherits {keys : List Key} (drops : Drops keys before after) :
    before.tables.Inherits after.tables :=
  .of_subset fun kind id row _ found => ((drops kind id row).1 found).1

theorem Forgets.inherits {ids : List EntityId} (forgets : Forgets ids before after) :
    before.tables.Inherits after.tables := by
  apply Tables.Inherits.of_subset
  intro kind id row typing found
  rwa [forgets.others] at found
  all_goals
    rintro rfl
    simp [Tables.IsTyping] at typing

theorem Departs.inherits {location : Location} (departs : Departs id location before after) :
    before.tables.Inherits after.tables := by
  apply Tables.Inherits.of_subset
  intro kind place row typing found
  rwa [departs.others] at found
  all_goals
    rintro rfl
    simp [Tables.IsTyping] at typing

theorem Updates.repointed_inherits {tables : Tables} {ids : List EntityId}
    (updates : Updates .dataset tables.repointed ids before after) :
    before.tables.Inherits after.tables := by
  apply Tables.Inherits.of_subset
  intro kind place row typing found
  rwa [updates.others] at found
  rintro rfl
  simp [Tables.IsTyping] at typing

theorem Updates.rebounded_inherits {tables : Tables} {ids : List EntityId}
    (updates : Updates .datastream tables.rebounded ids before after) :
    before.tables.Inherits after.tables where
  observations := fun id row found => (updates.others id (by decide)).symm.trans found
  streams := by
    intro id row found
    rw [updates.find?] at found
    obtain ⟨old, oldFound, rfl⟩ := Option.map_eq_some_iff.1 found
    refine ⟨old, oldFound, ?_⟩
    split
    · exact tables.sameType_rebounded old
    · exact .refl old
  formats := fun id row found => (updates.others id (by decide)).symm.trans found

theorem Removal.inherits {kind : EntityKind} (removal : Removal id before after kind) :
    before.tables.Inherits after.tables := by
  cases removal with
  | thing disowns forgets drops =>
    exact (disowns.drops.inherits.trans forgets.inherits).trans drops.inherits
  | location departs => exact departs.inherits
  | historicalLocation forgets => exact forgets.inherits
  | sensor disowns drops => exact disowns.drops.inherits.trans drops.inherits
  | observedProperty disowns drops => exact disowns.drops.inherits.trans drops.inherits
  | datastream drops => exact drops.inherits
  | feature drops covered rebounds => exact drops.inherits.trans rebounds.rebounded_inherits
  | observation observation found drops repoints rebounds =>
    exact (drops.inherits.trans repoints.repointed_inherits).trans rebounds.rebounded_inherits

end Removals

theorem Alteration.typed {environment : Environment} {before after : Progress}
    {request : ChangeRequest} (alteration : Alteration environment before after request)
    (fresh : environment.Fresh request.keys before) (distinct : request.keys.Nodup)
    (linked : before.tables.Linked) (typed : before.tables.Typed) : after.tables.Typed := by
  cases alteration with
  | created creation => exact (creation.keepsTypes fresh distinct).typed typed
  | revised revision => exact revision.typed fresh typed
  | removed removal => exact removal.inherits.typed (removal.linked linked) typed

end SensorThings
