import SensorThings.Proofs.Change.Reachable

/-!
What datasets are grouped by. A dataset is made with the sensor and the observed property of its
datastream, and keeps them for good; so it follows the datastream as long as nothing reassigns that.
Two things do: a sensor or an observed property that is created and lists the datastream, and a body
that is written over another of the same identifier.
-/
namespace SensorThings

/-- A datastream gets another owner of a kind, or is sent twice. -/
def Outline.Reassigns (outline : Outline) (owner : EntityKind) (datastream : EntityId) : Prop :=
  datastream ∈ outline.adoptions owner ∨ 1 < outline.keys.count ⟨.datastream, datastream⟩

def ChangeRequest.Reassigns : ChangeRequest → EntityKind → EntityId → Prop
  | create kind body, owner, datastream => (Outline.ofJson kind body).Reassigns owner datastream
  | _, _, _ => False

/-- Datasets that agree in all that they are made with for their datastream. -/
structure Dataset.SameGroup (old new : Dataset) : Prop where
  datastream : new.datastream = old.datastream
  offering : new.offering = old.offering
  procedure : new.procedure = old.procedure
  phenomenon : new.phenomenon = old.phenomenon

/-- A dataset has its datastream for its offering, and names what the datastream has, as far as the
owners of the datastream are steady. -/
structure Dataset.Follows (steady : EntityKind → EntityId → Prop) (dataset : Dataset)
    (stream : Datastream) : Prop where
  offering : dataset.offering = dataset.datastream
  procedure : steady .sensor stream.id → dataset.procedure = stream.sensor
  phenomenon : steady .observedProperty stream.id → dataset.phenomenon = stream.observedProperty

namespace EntityKind

variable {steady : EntityKind → EntityId → Prop}

def IsGrouping (kind : EntityKind) : Prop :=
  kind = .dataset ∨ kind = .datastream

instance (kind : EntityKind) : Decidable kind.IsGrouping :=
  inferInstanceAs (Decidable (kind = .dataset ∨ kind = .datastream))

/-- What groups keep of an entity: all that a dataset was made with, and the steady owners of a
datastream. -/
def KeepsGroup (steady : EntityKind → EntityId → Prop) :
    (kind : EntityKind) → kind.Entity → kind.Entity → Prop
  | dataset, old, new => Dataset.SameGroup old new
  | datastream, old, new =>
    (steady .sensor (Datastream.id old) → Datastream.sensor new = Datastream.sensor old) ∧
      (steady .observedProperty (Datastream.id old) →
        Datastream.observedProperty new = Datastream.observedProperty old)
  | _, _, _ => True

theorem KeepsGroup.refl {kind : EntityKind} (entity : kind.Entity) :
    kind.KeepsGroup steady entity entity := by
  cases kind
  case dataset => exact ⟨rfl, rfl, rfl, rfl⟩
  case datastream => exact ⟨fun _ => rfl, fun _ => rfl⟩
  all_goals trivial

theorem KeepsGroup.trans {kind : EntityKind} {first second third : kind.Entity}
    (identified : kind.idOf second = kind.idOf first)
    (left : kind.KeepsGroup steady first second) (right : kind.KeepsGroup steady second third) :
    kind.KeepsGroup steady first third := by
  cases kind
  case dataset =>
    exact ⟨right.datastream.trans left.datastream, right.offering.trans left.offering,
      right.procedure.trans left.procedure, right.phenomenon.trans left.phenomenon⟩
  case datastream =>
    have same : Datastream.id second = Datastream.id first := identified
    rw [KeepsGroup, same] at right
    exact ⟨fun holds => (right.1 holds).trans (left.1 holds),
      fun holds => (right.2 holds).trans (left.2 holds)⟩
  all_goals trivial

end EntityKind

namespace Tables

variable {steady : EntityKind → EntityId → Prop} {before middle after tables : Tables}

def Grouped (steady : EntityKind → EntityId → Prop) (tables : Tables) : Prop :=
  ∀ id (dataset : Dataset) stream, tables.find? .dataset id = some dataset →
    tables.find? .datastream dataset.datastream = some stream → dataset.Follows steady stream

def Agrees (steady : EntityKind → EntityId → Prop) (before after : Tables) : Prop :=
  ∀ kind id (old new : EntityKind.Entity kind), before.find? kind id = some old →
    after.find? kind id = some new → kind.KeepsGroup steady old new

def Descends (steady : EntityKind → EntityId → Prop) (before after : Tables) : Prop :=
  ∀ kind id (new : EntityKind.Entity kind), kind.IsGrouping → after.find? kind id = some new →
    ∃ old, before.find? kind id = some old ∧ kind.KeepsGroup steady old new

theorem grouped_empty : Grouped steady {} :=
  fun _ _ _ => nofun

theorem Agrees.trans (left : before.Agrees steady middle) (right : middle.Agrees steady after)
    (between : ∀ kind id, before.contains kind id = true → middle.contains kind id = true) :
    before.Agrees steady after := by
  intro kind id old new found later
  obtain ⟨row, rowFound⟩ := contains_iff.1 (between kind id (contains_of_find? found))
  exact .trans ((idOf_of_find? rowFound).trans (idOf_of_find? found).symm)
    (left kind id old row found rowFound) (right kind id row new rowFound later)

theorem Agrees.put_free (agrees : before.Agrees steady middle) {kind : EntityKind}
    {entity : kind.Entity} (free : before.find? kind (kind.idOf entity) = none) :
    before.Agrees steady (middle.put kind entity) := by
  intro other id old new found later
  by_cases same : other = kind
  · subst same
    rw [find?_put] at later
    split at later
    next here =>
      rw [← here, free] at found
      contradiction
    next => exact agrees _ id old new found later
  · rw [find?_put_of_ne _ _ _ same] at later
    exact agrees other id old new found later

namespace Descends

theorem of_eq (same : ∀ kind id, EntityKind.IsGrouping kind →
    after.find? kind id = before.find? kind id) : before.Descends steady after :=
  fun kind id new grouping found => ⟨new, (same kind id grouping).symm.trans found, .refl new⟩

theorem refl (tables : Tables) : tables.Descends steady tables :=
  of_eq fun _ _ _ => rfl

theorem trans (left : before.Descends steady middle) (right : middle.Descends steady after) :
    before.Descends steady after := by
  intro kind id new grouping found
  obtain ⟨row, rowFound, second⟩ := right kind id new grouping found
  obtain ⟨old, oldFound, first⟩ := left kind id row grouping rowFound
  exact ⟨old, oldFound,
    .trans ((idOf_of_find? rowFound).trans (idOf_of_find? oldFound).symm) first second⟩

theorem agrees (descends : before.Descends steady after) : before.Agrees steady after := by
  intro kind id old new found later
  by_cases grouping : kind.IsGrouping
  · obtain ⟨row, rowFound, keeps⟩ := descends kind id new grouping later
    rw [found] at rowFound
    obtain rfl := Option.some.inj rowFound
    exact keeps
  · cases kind
    case dataset => exact absurd (.inl rfl) grouping
    case datastream => exact absurd (.inr rfl) grouping
    all_goals trivial

theorem put {kind : EntityKind} {id : EntityId} {old : kind.Entity} (new : kind.Entity)
    (found : tables.find? kind id = some old) (identified : kind.idOf new = kind.idOf old)
    (keeps : kind.KeepsGroup steady old new) : tables.Descends steady (tables.put kind new) := by
  intro other place row grouping later
  by_cases same : other = kind
  · subst same
    rw [find?_put, identified, idOf_of_find? found] at later
    split at later
    next here =>
      obtain rfl := Option.some.inj later
      exact ⟨old, here ▸ found, keeps⟩
    next => exact ⟨row, later, .refl row⟩
  · rw [find?_put_of_ne _ _ _ same] at later
    exact ⟨row, later, .refl row⟩

theorem put_other (kind : EntityKind) (other : ¬kind.IsGrouping) (entity : kind.Entity) :
    tables.Descends steady (tables.put kind entity) :=
  of_eq fun _ => find?_put_of_not other tables entity

end Descends

theorem Grouped.later (grouped : before.Grouped steady) (descends : before.Descends steady after) :
    after.Grouped steady := by
  intro id dataset stream found streamFound
  obtain ⟨old, oldFound, group⟩ := descends .dataset id dataset (.inl rfl) found
  obtain ⟨oldStream, oldStreamFound, sensor, property⟩ :=
    descends .datastream _ stream (.inr rfl) streamFound
  have sameId : oldStream.id = stream.id :=
    (idOf_of_find? oldStreamFound).trans (idOf_of_find? streamFound).symm
  rw [group.datastream] at oldStreamFound
  obtain ⟨offering, procedure, phenomenon⟩ := grouped id old oldStream oldFound oldStreamFound
  rw [sameId] at sensor property procedure phenomenon
  constructor
  case offering => rw [group.offering, offering, group.datastream]
  case procedure => exact fun holds => by rw [group.procedure, procedure holds, sensor holds]
  case phenomenon => exact fun holds => by rw [group.phenomenon, phenomenon holds, property holds]

theorem Grouped.put_dataset (grouped : tables.Grouped steady) {dataset : Dataset}
    (follows : ∀ stream, tables.find? .datastream dataset.datastream = some stream →
      dataset.Follows steady stream) : (tables.put .dataset dataset).Grouped steady := by
  intro id row stream found streamFound
  rw [find?_put_of_ne _ _ _ (by decide)] at streamFound
  rw [find?_put] at found
  split at found
  next =>
    obtain rfl := Option.some.inj found
    exact follows stream streamFound
  next => exact grouped id row stream found streamFound

theorem Grouped.put_datastream (grouped : tables.Grouped steady) (linked : tables.Linked)
    {datastream : Datastream} (free : ∀ owner, steady owner datastream.id →
      tables.find? .datastream datastream.id = none) :
    (tables.put .datastream datastream).Grouped steady := by
  intro id dataset stream found streamFound
  rw [find?_put_of_ne _ _ _ (by decide)] at found
  obtain ⟨old, oldFound⟩ := contains_iff.1 (linked .dataset id dataset found).1
  have follows := grouped id dataset old found oldFound
  rw [find?_put] at streamFound
  split at streamFound
  next here =>
    obtain rfl := Option.some.inj streamFound
    have notSteady : ∀ owner, ¬steady owner datastream.id := by
      intro owner holds
      rw [← here, show EntityKind.datastream.idOf datastream = datastream.id from rfl,
        free owner holds] at oldFound
      contradiction
    exact ⟨follows.offering, fun holds => absurd holds (notSteady _),
      fun holds => absurd holds (notSteady _)⟩
  next => exact grouped id dataset stream found streamFound

/-- A run leaves the groups of before as they are, and what datasets it makes follow their
datastreams. -/
structure Regroups (steady : EntityKind → EntityId → Prop) (before after : Tables) : Prop where
  agrees : before.Agrees steady after
  grouped : before.Linked → before.Grouped steady → after.Grouped steady

theorem Regroups.of_descends (descends : before.Descends steady after) :
    before.Regroups steady after :=
  ⟨descends.agrees, fun _ grouped => grouped.later descends⟩

theorem Regroups.refl (tables : Tables) : tables.Regroups steady tables :=
  .of_descends (.refl tables)

theorem Regroups.trans (left : before.Regroups steady middle)
    (right : middle.Regroups steady after)
    (between : ∀ kind id, before.contains kind id = true → middle.contains kind id = true)
    (linked : before.Linked → middle.Linked) : before.Regroups steady after where
  agrees := left.agrees.trans right.agrees between
  grouped := fun links grouped => right.grouped (linked links) (left.grouped links grouped)

end Tables

theorem Updates.descends {steady : EntityKind → EntityId → Prop} {kind : EntityKind}
    {f : kind.Entity → kind.Entity} {ids : List EntityId} {before after : Progress}
    (updates : Updates kind f ids before after)
    (keeps : ∀ row, kind.KeepsGroup steady row (f row)) :
    before.tables.Descends steady after.tables := by
  intro other id new grouping found
  by_cases same : other = kind
  · subst same
    rw [updates.find?, Option.map_eq_some_iff] at found
    obtain ⟨old, oldFound, rfl⟩ := found
    refine ⟨old, oldFound, ?_⟩
    split
    · exact keeps old
    · exact .refl old
  · exact ⟨new, (updates.others id same).symm.trans found, .refl new⟩

namespace Outline

def Respects (outline : Outline) (steady : EntityKind → EntityId → Prop) : Prop :=
  ∀ owner datastream, steady owner datastream → ¬outline.Reassigns owner datastream

namespace Respects

variable {steady : EntityKind → EntityId → Prop} {first second nested : Outline}

theorem left (respects : (first ++ second).Respects steady) : first.Respects steady := by
  intro owner datastream holds reassigns
  apply respects owner datastream holds
  rw [Reassigns, adoptions_append, keys_append, List.count_append]
  exact reassigns.imp (List.mem_append_left _) fun twice => Nat.lt_add_right _ twice

theorem right (respects : (first ++ second).Respects steady) : second.Respects steady := by
  intro owner datastream holds reassigns
  apply respects owner datastream holds
  rw [Reassigns, adoptions_append, keys_append, List.count_append]
  exact reassigns.imp (List.mem_append_right _) fun twice => Nat.lt_add_left _ twice

theorem inside {kind : EntityKind} {given : Option EntityId}
    (respects : (named kind given nested nil).Respects steady) : nested.Respects steady := by
  intro owner datastream holds reassigns
  apply respects owner datastream holds
  rw [Reassigns, adoptions_named]
  refine reassigns.imp id fun twice => ?_
  cases given with
  | none => simpa [named] using twice
  | some id =>
    rw [named, keys, keys, List.append_nil, List.count_cons]
    exact Nat.lt_add_right _ twice

theorem not_mem {id : EntityId} {owner : EntityKind}
    (respects : (named .datastream (some id) nested nil).Respects steady)
    (holds : steady owner id) : ⟨.datastream, id⟩ ∉ nested.keys := by
  intro member
  apply respects owner id holds
  right
  rw [named, keys, keys, List.append_nil, List.count_cons_self]
  exact Nat.succ_lt_succ (List.count_pos_iff.2 member)

end Respects

end Outline

namespace Creation

variable {environment : Environment} {steady : EntityKind → EntityId → Prop} {outline : Outline}
  {before after : Progress}

theorem descends_addObservation {progress : Progress} {observation : Observation}
    {datastream : Datastream} {dataset : Dataset}
    (datastreamFound : progress.tables.find? .datastream observation.datastream = some datastream)
    (datasetFound : progress.tables.find? .dataset observation.dataset = some dataset) :
    progress.tables.Descends steady
      (progress.addObservation observation datastream dataset).tables := by
  have streamThen : (progress.tables.put .observation observation).find? .datastream
      observation.datastream = some datastream := by
    rw [Tables.find?_put_of_ne _ _ _ (by decide), datastreamFound]
  have datasetThen : ((progress.tables.put .observation observation).put .datastream
      (datastream.cover observation)).find? .dataset observation.dataset = some dataset := by
    rw [Tables.find?_put_of_ne _ _ _ (by decide), Tables.find?_put_of_ne _ _ _ (by decide),
      datasetFound]
  have written : progress.tables.Descends steady (progress.tables.put .observation observation) :=
    .put_other .observation (by decide) observation
  have covered := written.trans
    (.put (datastream.cover observation) streamThen rfl ⟨fun _ => rfl, fun _ => rfl⟩)
  unfold Progress.addObservation
  simp only [Progress.save_tables]
  exact covered.trans (.put (dataset.cover observation) datasetThen rfl ⟨rfl, rfl, rfl, rfl⟩)

theorem descends_record {historical : HistoricalLocation} {locations : List EntityId}
    (lists : Lists historical.id locations (before.save .historicalLocation historical) after) :
    before.tables.Descends steady after.tables := by
  refine .of_eq fun kind id grouping => ?_
  rw [lists.updates.others id, Progress.find?_save_of_ne]
  all_goals
    rintro rfl
    exact absurd grouping (by decide)

theorem descends_adopt {progress : Progress} {owner : DatastreamOwner} {datastream : Datastream}
    (respects : (Outline.adopted owner.key.kind datastream.id .nil).Respects steady)
    (found : progress.tables.find? .datastream datastream.id = some datastream) :
    progress.tables.Descends steady
      (progress.save .datastream (owner.adopt datastream)).tables := by
  have reassigned : ¬steady owner.key.kind datastream.id := by
    intro holds
    apply respects _ _ holds
    simp [Outline.Reassigns, Outline.adoptions]
  rw [Progress.save_tables]
  cases owner with
  | thing id => exact .put _ found rfl ⟨fun _ => rfl, fun _ => rfl⟩
  | sensor id => exact .put _ found rfl ⟨fun holds => absurd holds reassigned, fun _ => rfl⟩
  | observedProperty id =>
    exact .put _ found rfl ⟨fun _ => rfl, fun holds => absurd holds reassigned⟩

theorem regroups (creation : Creation environment outline before after)
    (fresh : environment.Fresh outline.keys before) (respects : outline.Respects steady) :
    before.tables.Regroups steady after.tables := by
  induction creation with
  | nil => exact .refl _
  | append left right ihLeft ihRight =>
    exact (ihLeft fresh.left respects.left).trans (ihRight (fresh.right left) respects.right)
      (fun _ _ => left.contains) (left.linked fresh.left)
  | bare kind entity isBare claimed =>
    rw [claimed.claim_save_tables]
    refine .of_descends (.put_other kind ?_ entity)
    rintro (rfl | rfl) <;> exact isBare
  | feature feature _ claimed =>
    rw [claimed.claim_save_tables]
    exact .of_descends (.put_other .featureOfInterest (by decide) feature)
  | repeated => exact .refl _
  | derived location feature _ _ chosen =>
    rw [chosen.featureId_save_tables]
    exact .of_descends (.put_other .featureOfInterest (by decide) feature)
  | adopted owner datastream found => exact .of_descends (descends_adopt respects found)
  | moved thing locations =>
    rw [Progress.save_tables]
    exact .of_descends (.put_other .thing (by decide) _)
  | recorded historical claimed made _ _ ran ih =>
    rw [← claimed.claim_tables]
    have inside := fresh.claim claimed
    exact (ih inside respects.inside).trans (.of_descends (descends_record ran.record))
      (fun _ _ => made.contains) (made.linked inside)
  | extended historical location ran =>
    obtain ⟨found, -, lists⟩ := ran.extendRecord
    exact .of_descends (descends_record lists)
  | datastream datastream claimed made _ _ ih =>
    have free := fresh.free_of_claim claimed
    have inside := fresh.claim claimed
    rw [← claimed.claim_tables] at free ⊢
    rw [Progress.save_tables]
    obtain ⟨agrees, grouped⟩ := ih inside respects.inside
    refine ⟨agrees.put_free free, fun linked before => ?_⟩
    refine (grouped linked before).put_datastream (made.linked inside linked) fun owner holds => ?_
    refine made.claimed_stays_free_of_not_mem claimed fresh (fun sent => ?_) (by decide)
    subst sent
    exact respects.not_mem holds
  | @dataset _ before middle stream dataset found made madeFor drawn _ _ _ ih =>
    rw [Progress.save_tables, Progress.draw_tables]
    have free := fresh.free_after made .dataset
    rw [← drawn] at free
    obtain ⟨agrees, grouped⟩ := ih fresh respects
    refine ⟨agrees.put_free (made.free_before free), fun linked before => ?_⟩
    refine (grouped linked before).put_dataset fun row rowFound => ?_
    rw [madeFor.datastream] at rowFound
    have same : row.id = stream.id := Tables.idOf_of_find? rowFound
    obtain ⟨sensor, property⟩ := agrees .datastream _ stream row found rowFound
    rw [← same] at sensor property
    constructor
    case offering => rw [madeFor.offering, madeFor.datastream]
    case procedure => exact fun holds => by rw [madeFor.procedure, sensor holds]
    case phenomenon => exact fun holds => by rw [madeFor.phenomenon, property holds]
  | observation observation stream datastream dataset raw claimed left _ _ right _ datastreamFound
      datasetFound _ ihLeft ihRight =>
    rw [← claimed.claim_tables]
    have inside := fresh.claim claimed
    have both := (ihLeft inside.left respects.inside.left).trans
      (ihRight (inside.right left) respects.inside.right) (fun _ _ => left.contains)
      (left.linked inside.left)
    exact both.trans (.of_descends (descends_addObservation datastreamFound datasetFound))
      (fun _ _ there => right.contains (left.contains there))
      fun linked => right.linked (inside.right left) (left.linked inside.left linked)

end Creation

section Changes

variable {environment : Environment} {steady : EntityKind → EntityId → Prop}
  {before after : Progress}

@[simp] theorem Outline.respects_nil : Outline.nil.Respects steady := by
  intro owner datastream _ reassigns
  simp [Outline.Reassigns, Outline.adoptions, Outline.keys] at reassigns

theorem EntityKind.Retains.keepsGroup {kind : EntityKind} {old new : kind.Entity}
    (retains : kind.Retains old new) : kind.KeepsGroup steady old new := by
  cases kind
  case dataset => exact retains.elim
  case datastream => exact ⟨fun _ => retains.1.2.1, fun _ => retains.1.2.2⟩
  all_goals trivial

theorem Edits.regroups {kind : EntityKind} (edits : Edits environment kind before after)
    (fresh : environment.Fresh [] before) : before.tables.Regroups steady after.tables := by
  obtain @⟨middle, _, old, new, supplied, found, identified, retains, links, -, followed⟩ := edits
  have freshThen : environment.Fresh [] middle := supplied.fresh fresh
  have first : before.tables.Regroups steady middle.tables :=
    supplied.regroups fresh Outline.respects_nil
  have second : middle.tables.Regroups steady (middle.save kind new).tables := by
    rw [Progress.save_tables]
    exact .of_descends (.put new found identified retains.keepsGroup)
  have third : (middle.save kind new).tables.Regroups steady after.tables :=
    followed.regroups (freshThen.resave found identified) Outline.respects_nil
  have linkedThen (linked : before.tables.Linked) : middle.tables.Linked :=
    supplied.linked fresh linked
  refine (first.trans second (fun _ _ => supplied.contains) linkedThen).trans third ?_ ?_
  · exact fun _ _ there => Progress.contains_save (supplied.contains there) _ _
  · intro linked
    rw [Progress.save_tables]
    exact retains.linked found identified links (linkedThen linked)

theorem Tables.descends_rebounded {tables : Tables} {ids : List EntityId}
    (updates : Updates .datastream tables.rebounded ids before after) :
    before.tables.Descends steady after.tables := by
  refine updates.descends fun row => ?_
  rw [Tables.rebounded, Datastream.summarize_eq]
  exact ⟨fun _ => rfl, fun _ => rfl⟩

theorem Tables.descends_repointed {tables : Tables} {ids : List EntityId}
    (updates : Updates .dataset tables.repointed ids before after) :
    before.tables.Descends steady after.tables := by
  refine updates.descends fun row => ?_
  rw [Tables.repointed, Dataset.summarize_eq]
  exact ⟨rfl, rfl, rfl, rfl⟩

theorem EditsObservation.regroups (edits : EditsObservation environment before after)
    (fresh : environment.Fresh [] before) : before.tables.Regroups steady after.tables := by
  obtain @⟨first, middle, _, old, new, stream, found, streamFound, refocuses, typed, repoints,
    rebounds⟩ := edits
  have supplied : before.tables.Regroups steady first.tables :=
    refocuses.supplied.regroups fresh Outline.respects_nil
  have written : first.tables.Descends steady (first.save .observation new).tables := by
    rw [Progress.save_tables]
    exact .put_other .observation (by decide) new
  have summed := (written.trans (Tables.descends_repointed repoints)).trans
    (Tables.descends_rebounded rebounds)
  exact supplied.trans (.of_descends summed) (fun _ _ => refocuses.supplied.contains)
    (refocuses.supplied.linked fresh)

theorem Revision.regroups {kind : EntityKind} (revision : Revision environment before after kind)
    (fresh : environment.Fresh [] before) : before.tables.Regroups steady after.tables := by
  cases revision with
  | entity edits => exact edits.regroups fresh
  | observation edits => exact edits.regroups fresh

theorem Drops.descends {keys : List Key} (drops : Drops keys before after) :
    before.tables.Descends steady after.tables :=
  fun kind id new _ found => ⟨new, ((drops kind id new).1 found).1, .refl new⟩

theorem Forgets.descends {ids : List EntityId} (forgets : Forgets ids before after) :
    before.tables.Descends steady after.tables := by
  refine .of_eq fun kind id grouping => forgets.others id ?_ ?_
  all_goals
    rintro rfl
    exact absurd grouping (by decide)

theorem Departs.descends {id : EntityId} {location : Location}
    (departs : Departs id location before after) :
    before.tables.Descends steady after.tables := by
  refine .of_eq fun kind id grouping => departs.others id ?_ ?_ ?_
  all_goals
    rintro rfl
    exact absurd grouping (by decide)

theorem Removal.descends {id : EntityId} {kind : EntityKind}
    (removal : Removal id before after kind) : before.tables.Descends steady after.tables := by
  cases removal with
  | thing disowns forgets drops =>
    exact (disowns.drops.descends.trans forgets.descends).trans drops.descends
  | location departs => exact departs.descends
  | historicalLocation forgets => exact forgets.descends
  | sensor disowns drops => exact disowns.drops.descends.trans drops.descends
  | observedProperty disowns drops => exact disowns.drops.descends.trans drops.descends
  | datastream drops => exact drops.descends
  | feature drops _ rebounds => exact drops.descends.trans (Tables.descends_rebounded rebounds)
  | observation _ _ drops repoints rebounds =>
    exact (drops.descends.trans (Tables.descends_repointed repoints)).trans
      (Tables.descends_rebounded rebounds)

theorem Alteration.regroups {request : ChangeRequest}
    (alteration : Alteration environment before after request)
    (fresh : environment.Fresh request.keys before)
    (respects : ∀ owner datastream, steady owner datastream →
      ¬request.Reassigns owner datastream) : before.tables.Regroups steady after.tables := by
  cases alteration with
  | created creation => exact creation.regroups fresh respects
  | revised revision => exact revision.regroups fresh
  | removed removal => exact .of_descends removal.descends

end Changes

namespace Store

/-- In every store that is reached, each dataset has its datastream for its offering. It names the
sensor of the datastream for its procedure unless a request reassigned the sensor, and the observed
property for its phenomenon unless one reassigned that: no request rewrites what a dataset was made
with. -/
theorem reachable_groups {allowed : ChangeRequest → Prop} {store : Store}
    (reachable : store.Reachable allowed) :
    (∀ id (dataset : Dataset), store.tables.find? .dataset id = some dataset →
      dataset.offering = dataset.datastream ∧
        ∃ stream : Datastream,
          store.tables.find? .datastream dataset.datastream = some stream ∧
          ((∀ request, allowed request → ¬request.Reassigns .sensor stream.id) →
            dataset.procedure = stream.sensor) ∧
          ((∀ request, allowed request → ¬request.Reassigns .observedProperty stream.id) →
            dataset.phenomenon = stream.observedProperty)) ∧
    ∀ environment (request : ChangeRequest), environment.Fresh request.keys (.start store.tables) →
      ∀ id (old new : Dataset), store.tables.find? .dataset id = some old →
        (store.change environment (Change.ofRequest request)).2.tables.find? .dataset id =
          some new → old.SameGroup new := by
  have linked : store.tables.Linked := reachable.linked
  constructor
  · intro id dataset found
    have grouped : store.tables.Grouped fun owner datastream =>
        ∀ request, allowed request → ¬request.Reassigns owner datastream :=
      reachable.tables_induction Tables.grouped_empty
        fun _ request _ _ isAllowed fresh linked grouped alteration =>
          (alteration.regroups fresh fun _ _ steady => steady request isAllowed).grouped linked
            grouped
    obtain ⟨stream, streamFound⟩ := Tables.contains_iff.1 (linked .dataset id dataset found).1
    have follows := grouped id dataset stream found streamFound
    exact ⟨follows.offering, stream, streamFound, follows.procedure, follows.phenomenon⟩
  · intro environment request fresh id old new found later
    cases outcome : (store.change environment (Change.ofRequest request)).1 with
    | error failure =>
      rw [change_of_error (Change.records_ofRequest request) outcome, found] at later
      rw [Option.some.inj later]
      exact ⟨rfl, rfl, rfl, rfl⟩
    | ok value =>
      obtain ⟨after, ran, result⟩ := change_ok outcome
      rw [result] at later
      have regroups : store.tables.Regroups (fun _ _ => False) after.tables :=
        (ran.ofRequest linked).regroups fresh fun _ _ => False.elim
      exact regroups.agrees .dataset id old new found later

end Store

/-! A request whose second datastream has a sensor that takes over the first one. -/
namespace TakenDatastream

open FirstObservation

def streamBody (members : List (String × Json)) : Json :=
  described ([("unitOfMeasurement", .object []),
    ("observationType", .string ObservationType.text.uri), ("ObservedProperty", propertyBody)] ++
      members)

def takenBody : Json :=
  streamBody [("@iot.id", .string "d"), ("Sensor", sensorBody),
    ("Observations", .array [observationBody])]

def reference : Json :=
  .object [("@iot.id", .string "d")]

def takingSensorBody : Json :=
  described [("encodingType", .string "e"), ("metadata", .string "m"),
    ("Datastreams", .array [reference])]

def takingBody : Json :=
  streamBody [("Sensor", takingSensorBody)]

def body : Json :=
  described [("Datastreams", .array [takenBody, takingBody])]

def streamDraft (id : Option EntityId) (datastreams : Option (List (Link DatastreamDraft)))
    (observations : Option (List (Link ObservationDraft))) : DatastreamDraft :=
  ⟨id, some "n", some "d", some ⟨none, none, none⟩, some ObservationType.text.uri, none, none,
    some (.body ⟨none, some "n", some "d", some "e", some "m", none, datastreams⟩),
    some (.body ⟨none, some "n", some "u", some "d", none, none⟩), observations⟩

def draft : ThingDraft :=
  ⟨none, some "n", some "d", none, none,
    some [.body (streamDraft (some ⟨"d"⟩) none (some [.body observationDraft])),
      .body (streamDraft none (some [.reference ⟨"d"⟩]) none)], none⟩

theorem read_reference : DatastreamDraft.ofJson? reference = some (.ofId ⟨"d"⟩) := by
  rw [DatastreamDraft.ofJson?]
  rfl

theorem read_taking_sensor : SensorDraft.ofJson? takingSensorBody =
    some ⟨none, some "n", some "d", some "e", some "m", none, some [.reference ⟨"d"⟩]⟩ := by
  have streams : takingSensorBody.inners? SensorDraft.names "Datastreams" =
      some (some [⟨reference, by decide⟩]) :=
    rfl
  rw [SensorDraft.ofJson?, streams]
  simp only [Option.bind_eq_bind, Option.bind_some, Option.mapM_some, List.mapM_cons,
    List.mapM_nil, read_reference]
  rfl

theorem read_taken : DatastreamDraft.ofJson? takenBody =
    some (streamDraft (some ⟨"d"⟩) none (some [.body observationDraft])) := by
  have sensor : takenBody.inner? DatastreamDraft.names "Sensor" =
      some ⟨sensorBody, by decide⟩ := rfl
  have property : takenBody.inner? DatastreamDraft.names "ObservedProperty" =
      some ⟨propertyBody, by decide⟩ := rfl
  have observations : takenBody.inners? DatastreamDraft.names "Observations" =
      some (some [⟨observationBody, by decide⟩]) := rfl
  rw [DatastreamDraft.ofJson?, sensor, property, observations]
  simp only [Option.bind_eq_bind, Option.bind_some, Option.mapM_some, List.mapM_cons,
    List.mapM_nil, read_sensor, read_property, read_observation]
  rfl

theorem read_taking : DatastreamDraft.ofJson? takingBody =
    some (streamDraft none (some [.reference ⟨"d"⟩]) none) := by
  have sensor : takingBody.inner? DatastreamDraft.names "Sensor" =
      some ⟨takingSensorBody, by decide⟩ := rfl
  have property : takingBody.inner? DatastreamDraft.names "ObservedProperty" =
      some ⟨propertyBody, by decide⟩ := rfl
  rw [DatastreamDraft.ofJson?, sensor, property]
  simp only [Option.mapM_some, read_taking_sensor, read_property]
  rfl

theorem read_body : ThingDraft.ofJson? body = some draft := by
  have streams : body.inners? ThingDraft.names "Datastreams" =
      some (some [⟨takenBody, by decide⟩, ⟨takingBody, by decide⟩]) := rfl
  rw [ThingDraft.ofJson?, streams]
  simp only [Option.bind_eq_bind, Option.bind_some, Option.mapM_some, List.mapM_cons,
    List.mapM_nil, read_taken, read_taking]
  rfl

def request : ChangeRequest :=
  .create .thing body

def store : Store :=
  (Store.change ⟨{}, 0⟩ environment (Change.ofRequest request)).2

theorem outline_body : Outline.ofJson .thing body =
    .body .datastream ⟨"d"⟩ .nil (.adopted .sensor ⟨"d"⟩ .nil) := by
  simp only [Outline.ofJson, read_body]
  rfl

theorem keys_request : request.keys = [⟨.datastream, ⟨"d"⟩⟩] := by
  simp only [request, ChangeRequest.keys, outline_body]
  rfl

theorem reachable {allowed : ChangeRequest → Prop} (isAllowed : allowed request) :
    store.Reachable allowed := by
  refine .change environment request .empty isAllowed (fresh_empty ?_)
  rw [keys_request, List.forall_mem_singleton]
  intro number same
  have texts : List.replicate number '+' = ['d'] := by
    simpa [environment] using congrArg (fun id => id.text.toList) same
  have member : 'd' ∈ List.replicate number '+' := by simp [texts]
  exact absurd (List.eq_of_mem_replicate member) (by decide)

theorem dataset_row : (store.tables.find? .dataset (environment.fresh 8)).map
    (fun dataset : Dataset => (dataset.datastream, dataset.procedure)) =
      some (⟨"d"⟩, environment.fresh 2) := by
  unfold store Store.change Change.start request
  simp only [Change.ofRequest, Change.create, Change.draft, read_body]
  decide +kernel

theorem datastream_row : (store.tables.find? .datastream ⟨"d"⟩).map
    (fun stream : Datastream => stream.sensor) = some (environment.fresh 10) := by
  unfold store Store.change Change.start request
  simp only [Change.ofRequest, Change.create, Change.draft, read_body]
  decide +kernel

end TakenDatastream

namespace Store

open TakenDatastream in
/-- The dataset of a datastream that another sensor took over still names the first sensor. -/
theorem reachable_groups_taken_datastream :
    ∃ (dataset : Dataset) (stream : Datastream),
      store.tables.find? .dataset (FirstObservation.environment.fresh 8) = some dataset ∧
      store.tables.find? .datastream dataset.datastream = some stream ∧
      dataset.offering = dataset.datastream ∧ dataset.phenomenon = stream.observedProperty ∧
      dataset.procedure ≠ stream.sensor := by
  obtain ⟨dataset, found, row⟩ := Option.map_eq_some_iff.1 dataset_row
  obtain ⟨stream, streamFound, sensor⟩ := Option.map_eq_some_iff.1 datastream_row
  obtain ⟨datastream, procedure⟩ := Prod.mk.inj row
  have reached : store.Reachable fun other => other = request := reachable rfl
  obtain ⟨offering, other, otherFound, -, phenomenon⟩ :=
    (reachable_groups reached).1 _ dataset found
  rw [datastream, streamFound] at otherFound
  obtain rfl := Option.some.inj otherFound
  refine ⟨dataset, stream, found, by rw [datastream, streamFound], offering, ?_, ?_⟩
  · apply phenomenon
    rintro other rfl reassigns
    have streamId : stream.id = ⟨"d"⟩ := Tables.idOf_of_find? streamFound
    simp [request, ChangeRequest.Reassigns, outline_body, Outline.Reassigns, Outline.adoptions,
      Outline.keys, streamId] at reassigns
  · rw [procedure, sensor]
    decide

end Store

end SensorThings
