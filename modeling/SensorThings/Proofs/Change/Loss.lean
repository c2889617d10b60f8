import SensorThings.Proofs.Change.Dependents
import SensorThings.Proofs.Change.Success

/-!
What a removal leaves. All that goes with the removed entity is gone; the rest remains, and of it
changes only what would otherwise name something gone or count an observation that is gone.
-/
namespace SensorThings

namespace EntityKind

/-- Entities that agree in all but what a summary finds anew. -/
def SameButSummary : (kind : EntityKind) → kind.Entity → kind.Entity → Prop
  | datastream, row, new => ∀ tables : Tables, tables.rebounded new = tables.rebounded row
  | dataset, row, new => ∀ tables : Tables, tables.repointed new = tables.repointed row
  | _, row, new => new = row

theorem SameButSummary.refl {kind : EntityKind} (row : kind.Entity) :
    kind.SameButSummary row row := by
  cases kind
  case datastream => exact fun _ => rfl
  case dataset => exact fun _ => rfl
  all_goals rfl

/-- What becomes of an entity that stays when another is removed. It leaves a location that goes,
forgets the historical locations that go, and has bounds and pointers for the observations that
are left. -/
def RemainsAs : (kind : EntityKind) → (root : Key) → (before after : Tables) →
    kind.Entity → kind.Entity → Prop
  | thing, root, _, _, row, new =>
    new = if root.kind = .location then Thing.leaving root.id row else row
  | location, root, before, _, row, new => ∃ withdrawn : List EntityId,
    (∀ id, id ∈ withdrawn ↔ before.Withdrawn root (Location.id row) id) ∧
      new = Location.forgetting withdrawn row
  | historicalLocation, root, _, _, row, new =>
    new = if root.kind = .location then
      ({ row with locations := (HistoricalLocation.locations row).erase root.id } :
        HistoricalLocation) else row
  | datastream, _, _, after, row, new => new = after.rebounded row
  | dataset, _, _, after, row, new => new = after.repointed row
  | _, _, _, _, row, new => new = row

end EntityKind

/-- The entities that go with a removed one are gone, and the others remain. -/
structure Tables.Loses (root : Key) (before after : Tables) : Prop where
  gone : ∀ {kind : EntityKind} {id : EntityId} {row : kind.Entity},
    before.find? kind id = some row → before.GoesWith root kind row → after.find? kind id = none
  kept : ∀ {kind : EntityKind} {id : EntityId} {row : kind.Entity},
    before.find? kind id = some row → ¬before.GoesWith root kind row →
      ∃ new, after.find? kind id = some new ∧ kind.RemainsAs root before after row new
  absent : ∀ {kind : EntityKind} {id : EntityId}, before.find? kind id = none →
    after.find? kind id = none

namespace Tables.Loses

variable {root : Key} {before after : Tables}

theorem of_rows (calm : root.kind ≠ .location) (linked : after.Linked)
    (summarized : after.Summarized)
    (gone : ∀ {kind : EntityKind} {id : EntityId} {row : kind.Entity}, kind ≠ .location →
      before.find? kind id = some row → before.GoesWith root kind row → after.find? kind id = none)
    (kept : ∀ {kind : EntityKind} {id : EntityId} {row : kind.Entity}, kind ≠ .location →
      before.find? kind id = some row → ¬before.GoesWith root kind row →
        ∃ new, after.find? kind id = some new ∧ kind.SameButSummary row new)
    (absent : ∀ {kind : EntityKind} {id : EntityId}, kind ≠ .location →
      before.find? kind id = none → after.find? kind id = none)
    (locations : before.Withdraws root after) : before.Loses root after where
  gone := by
    intro kind id row found goes
    by_cases place : kind = .location
    · subst place
      cases (goesWith_iff_of_alone (by simp)).1 goes
      exact absurd rfl calm
    · exact gone place found goes
  kept := by
    intro kind id row found stays
    by_cases place : kind = .location
    · subst place
      obtain ⟨withdrawn, members, later⟩ := locations id
      have same : Location.id row = id := idOf_of_find? found
      refine ⟨_, by rw [later, found, Option.map_some], withdrawn, ?_, rfl⟩
      rwa [same]
    · obtain ⟨new, newFound, same⟩ := kept place found stays
      refine ⟨new, newFound, ?_⟩
      cases kind
      case location => exact absurd rfl place
      case thing => rwa [EntityKind.RemainsAs, if_neg calm]
      case historicalLocation => rwa [EntityKind.RemainsAs, if_neg calm]
      case datastream =>
        rw [EntityKind.RemainsAs, ← same after]
        exact ((summarized.bounds id new newFound).rebounded_eq linked).symm
      case dataset =>
        rw [EntityKind.RemainsAs, ← same after]
        exact ((summarized.pointers id new newFound).repointed_eq).symm
      all_goals exact same
  absent := by
    intro kind id missing
    by_cases place : kind = .location
    · subst place
      obtain ⟨withdrawn, -, later⟩ := locations id
      rw [later, missing, Option.map_none]
    · exact absent place missing

theorem of_survivors (calm : root.kind ≠ .location) (linked : after.Linked)
    (summarized : after.Summarized)
    (rows : ∀ {kind : EntityKind} {id : EntityId} {row : kind.Entity}, kind ≠ .location →
      (after.find? kind id = some row ↔
        before.find? kind id = some row ∧ ¬before.GoesWith root kind row))
    (locations : before.Withdraws root after) : before.Loses root after := by
  refine of_rows calm linked summarized ?_ ?_ ?_ locations
  · intro kind id row place found goes
    rw [Option.eq_none_iff_forall_ne_some]
    intro new later
    obtain ⟨foundNew, stays⟩ := (rows place).1 later
    rw [found] at foundNew
    exact stays (Option.some.inj foundNew ▸ goes)
  · exact fun place found stays => ⟨_, (rows place).2 ⟨found, stays⟩, .refl _⟩
  · intro kind id place missing
    rw [Option.eq_none_iff_forall_ne_some]
    intro new later
    rw [((rows place).1 later).1] at missing
    contradiction

end Tables.Loses

theorem Tables.rebounded_of_rebounded (tables others : Tables) (datastream : Datastream) :
    tables.rebounded (others.rebounded datastream) = tables.rebounded datastream := by
  simp only [rebounded, Datastream.summarize_eq]

theorem Tables.repointed_of_repointed (tables others : Tables) (dataset : Dataset) :
    tables.repointed (others.repointed dataset) = tables.repointed dataset := by
  simp only [repointed, Dataset.summarize_eq]

namespace EntityKind.SameButSummary

theorem trans {kind : EntityKind} {first second third : kind.Entity}
    (left : kind.SameButSummary first second) (right : kind.SameButSummary second third) :
    kind.SameButSummary first third := by
  cases kind
  case datastream => exact fun tables => (right tables).trans (left tables)
  case dataset => exact fun tables => (right tables).trans (left tables)
  all_goals exact Eq.trans right left

end EntityKind.SameButSummary

namespace Updates

variable {updated : EntityKind} {f : updated.Entity → updated.Entity} {ids : List EntityId}
  {before after : Progress} {kind : EntityKind} {id : EntityId} {row : kind.Entity}

theorem absent (updates : Updates updated f ids before after)
    (missing : before.tables.find? kind id = none) : after.tables.find? kind id = none := by
  by_cases same : kind = updated
  · subst same
    rw [updates.find?, missing, Option.map_none]
  · rw [updates.others id same, missing]

theorem kept (updates : Updates updated f ids before after)
    (summary : ∀ row, updated.SameButSummary row (f row))
    (found : before.tables.find? kind id = some row) :
    ∃ new, after.tables.find? kind id = some new ∧ kind.SameButSummary row new := by
  by_cases same : kind = updated
  · subst same
    rw [updates.find?, found, Option.map_some]
    refine ⟨_, rfl, ?_⟩
    split
    · exact summary row
    · exact .refl row
  · exact ⟨row, (updates.others id same).trans found, .refl row⟩

end Updates

namespace Drops

variable {keys : List Key} {before after : Progress} {kind : EntityKind} {id : EntityId}
  {row : kind.Entity}

theorem absent (drops : Drops keys before after) (missing : before.tables.find? kind id = none) :
    after.tables.find? kind id = none := by
  cases later : after.tables.find? kind id with
  | none => rfl
  | some new =>
    rw [((drops ..).1 later).1] at missing
    contradiction

theorem find?_eq (drops : Drops keys before after)
    (independent : ∀ row, before.tables.find? kind id = some row →
      ∀ key ∈ keys, ¬kind.DependsOn row key) :
    after.tables.find? kind id = before.tables.find? kind id := by
  ext row
  rw [drops]
  exact ⟨And.left, fun found => ⟨found, independent row found⟩⟩

theorem gone (drops : Drops keys before after) (found : before.tables.find? kind id = some row)
    (depends : ∃ key ∈ keys, kind.DependsOn row key) : after.tables.find? kind id = none := by
  cases later : after.tables.find? kind id with
  | none => rfl
  | some new =>
    obtain ⟨foundNew, independent⟩ := (drops ..).1 later
    rw [found] at foundNew
    obtain rfl := Option.some.inj foundNew
    obtain ⟨key, member, dependsOn⟩ := depends
    exact absurd dependsOn (independent key member)

end Drops

theorem exists_mem_streams_iff {streams : List EntityId} {root : Key} {p : Key → Prop} :
    (∃ key ∈ streams.map (Key.mk .datastream) ++ [root], p key) ↔
      (∃ stream ∈ streams, p ⟨.datastream, stream⟩) ∨ p root := by
  constructor
  · rintro ⟨key, member, holds⟩
    rcases List.mem_append.1 member with inStreams | last
    · obtain ⟨stream, streamMember, rfl⟩ := List.mem_map.1 inStreams
      exact .inl ⟨stream, streamMember, holds⟩
    · rw [List.mem_singleton.1 last] at holds
      exact .inr holds
  · rintro (⟨stream, member, holds⟩ | holds)
    · exact ⟨_, List.mem_append_left _ (List.mem_map_of_mem member), holds⟩
    · exact ⟨root, List.mem_concat_self, holds⟩

theorem Departs.records_of_linked {id : EntityId} {location : Location} {before after : Progress}
    (departs : Departs id location before after) (linked : before.tables.Linked)
    (place : EntityId) : after.tables.find? .historicalLocation place =
      (before.tables.find? .historicalLocation place).bind (HistoricalLocation.leaving id) := by
  rw [departs.records]
  refine Option.bind_congr fun row found => ?_
  obtain ⟨-, somewhere, listed⟩ := linked .historicalLocation place row found
  split
  next => rfl
  next unlisted =>
    refine (HistoricalLocation.leaving_of_not_mem somewhere fun member => unlisted ?_).symm
    obtain ⟨other, otherFound, lists⟩ := listed id member
    rw [departs.found] at otherFound
    rw [Option.some.inj otherFound, ← Tables.idOf_of_find? found]
    exact lists

namespace Removal

variable {id : EntityId} {before middle after : Progress}

theorem loses_of_drops {root : Key} {keys : List Key} (drops : Drops keys before after)
    (goes : ∀ {kind : EntityKind} {id : EntityId} {row : kind.Entity},
      before.tables.find? kind id = some row →
        (before.tables.GoesWith root kind row ↔ ∃ key ∈ keys, kind.DependsOn row key))
    (calm : root.kind ≠ .location)
    (settled : ∀ location historical, ¬before.tables.Withdrawn root location historical)
    (linked : after.tables.Linked) (summarized : after.tables.Summarized) :
    before.tables.Loses root after.tables := by
  have rows : ∀ {kind : EntityKind} {id : EntityId} {row : kind.Entity},
      after.tables.find? kind id = some row ↔
        before.tables.find? kind id = some row ∧ ¬before.tables.GoesWith root kind row := by
    intro kind id row
    rw [drops]
    refine and_congr_right fun found => ?_
    rw [goes found, not_exists]
    exact forall_congr' fun key => not_and.symm
  refine .of_survivors calm linked summarized (fun _ => rows) fun id => ⟨[], ?_, ?_⟩
  · simpa using settled id
  · ext row
    rw [rows, Option.map_eq_some_iff]
    have alone : ∀ {row : Location}, ¬before.tables.GoesWith root .location row := by
      intro row goesWith
      rw [Tables.goesWith_iff_of_alone (by simp)] at goesWith
      exact calm (congrArg Key.kind goesWith)
    exact ⟨fun ⟨found, _⟩ => ⟨row, found, rfl⟩, fun ⟨_, found, same⟩ => same ▸ ⟨found, alone⟩⟩

theorem loses_of_tool {owner : Key} {ids : List EntityId}
    (tool : owner.kind = .sensor ∨ owner.kind = .observedProperty)
    (disowns : Disowns owner ids before middle) (drops : Drops [owner] middle after)
    (linkedBefore : before.tables.Linked) (linked : after.tables.Linked)
    (summarized : after.tables.Summarized) : before.tables.Loses owner after.tables := by
  have plain : owner.kind ≠ .thing ∧ owner.kind ≠ .location ∧
      owner.kind ≠ .historicalLocation := by
    rcases tool with kind | kind <;> rw [kind] <;> decide
  refine loses_of_drops (disowns.drops.append drops) (fun found => ?_) plain.2.1
    (Tables.not_withdrawn plain) linked summarized
  rw [Tables.goesWith_iff_of_streams linkedBefore (.inr tool) disowns.members found,
    exists_mem_streams_iff]

theorem loses_of_datastream (drops : Drops [⟨.datastream, id⟩] before after)
    (linkedBefore : before.tables.Linked) (linked : after.tables.Linked)
    (summarized : after.tables.Summarized) :
    before.tables.Loses ⟨.datastream, id⟩ after.tables := by
  refine loses_of_drops drops (fun found => ?_) (by simp) (Tables.not_withdrawn (by simp)) linked
    summarized
  rw [Tables.goesWith_iff_dependsOn linkedBefore (.inl rfl) found]
  simp

theorem loses_of_summaries {root : Key} {last : Progress} {groups streams : List EntityId}
    (owner : root.kind = .featureOfInterest ∨ root.kind = .observation)
    (drops : Drops [root] before middle)
    (repoints : Updates .dataset middle.tables.repointed groups middle last)
    (rebounds : Updates .datastream last.tables.rebounded streams last after)
    (linkedBefore : before.tables.Linked) (linked : after.tables.Linked)
    (summarized : after.tables.Summarized) : before.tables.Loses root after.tables := by
  have plain : root.kind ≠ .thing ∧ root.kind ≠ .location ∧ root.kind ≠ .historicalLocation := by
    rcases owner with kind | kind <;> rw [kind] <;> decide
  have goes : ∀ {kind : EntityKind} {id : EntityId} {row : kind.Entity},
      before.tables.find? kind id = some row →
        (before.tables.GoesWith root kind row ↔ kind.DependsOn row root) :=
    Tables.goesWith_iff_dependsOn linkedBefore (.inr owner)
  have stays : ∀ {kind : EntityKind} {id : EntityId} {row : kind.Entity},
      before.tables.find? kind id = some row → ¬before.tables.GoesWith root kind row →
        middle.tables.find? kind id = some row := by
    intro kind id row found stays
    rw [goes found] at stays
    exact (drops ..).2 ⟨found, by simpa using stays⟩
  refine .of_rows plain.2.1 linked summarized ?_ ?_ ?_ fun id => ⟨[], ?_, ?_⟩
  · intro kind id row _ found goesWith
    have dropped := drops.gone found ⟨root, List.mem_singleton_self _, (goes found).1 goesWith⟩
    exact rebounds.absent (repoints.absent dropped)
  · intro kind id row _ found remains
    obtain ⟨new, newFound, left⟩ := repoints.kept
      (fun row tables => tables.repointed_of_repointed _ row) (stays found remains)
    obtain ⟨latest, latestFound, right⟩ := rebounds.kept
      (fun row tables => tables.rebounded_of_rebounded _ row) newFound
    exact ⟨latest, latestFound, left.trans right⟩
  · exact fun _ missing => rebounds.absent (repoints.absent (drops.absent missing))
  · simpa using Tables.not_withdrawn plain id
  · rw [rebounds.others id (by decide), repoints.others id (by decide)]
    cases found : before.tables.find? .location id with
    | none => exact drops.absent found
    | some row =>
      apply stays found
      rw [Tables.goesWith_iff_of_alone (by simp)]
      rintro rfl
      exact plain.2.1 rfl

theorem loses_of_historicalLocation (forgets : Forgets [id] before after)
    (linked : after.tables.Linked) (summarized : after.tables.Summarized) :
    before.tables.Loses ⟨.historicalLocation, id⟩ after.tables := by
  have records : ∀ {row : HistoricalLocation},
      before.tables.GoesWith ⟨.historicalLocation, id⟩ .historicalLocation row ↔ id = row.id := by
    simp [Tables.goesWith_historicalLocation_iff]
  have others : ∀ {kind : EntityKind} {row : kind.Entity}, kind ≠ .historicalLocation →
      ¬before.tables.GoesWith ⟨.historicalLocation, id⟩ kind row := by
    intro kind row different goes
    rcases Tables.eq_or_eq_of_goesWith (.inr rfl) goes with same | same
    · exact different (Key.mk.inj same).1.symm
    · exact different same
  refine .of_survivors (by simp) linked summarized ?_ fun place => ⟨_, fun historical => ?_,
    forgets.locations place⟩
  · intro kind place row notLocation
    by_cases record : kind = .historicalLocation
    · subst record
      rw [forgets.records, records]
      split
      next here =>
        refine ⟨nofun, fun ⟨found, different⟩ => absurd ?_ different⟩
        rw [← List.mem_singleton.1 here]
        exact (Tables.idOf_of_find? found).symm
      next elsewhere =>
        refine ⟨fun found => ⟨found, fun same => elsewhere ?_⟩, And.left⟩
        rw [List.mem_singleton, same]
        exact (Tables.idOf_of_find? found).symm
    · rw [forgets.others place record notLocation]
      exact ⟨fun found => ⟨found, others record⟩, And.left⟩
  · rw [List.mem_filter, List.mem_singleton, Tables.records, Option.any_eq_true]
    constructor
    · rintro ⟨rfl, row, found, listed⟩
      refine ⟨row, found, records.2 (Tables.idOf_of_find? found).symm, IdSet.contains_iff.1 listed⟩
    · rintro ⟨row, found, goes, listed⟩
      refine ⟨?_, row, found, IdSet.contains_iff.2 listed⟩
      rw [records.1 goes]
      exact (Tables.idOf_of_find? found).symm

theorem loses_of_thing {ids : List EntityId} {first second : Progress}
    (disowns : Disowns ⟨.thing, id⟩ ids before first)
    (forgets : Forgets (first.tables.idsWhere .historicalLocation fun historical =>
      HistoricalLocation.thing historical == id) first second)
    (drops : Drops [⟨.thing, id⟩] second after) (linkedBefore : before.tables.Linked)
    (linked : after.tables.Linked) (summarized : after.tables.Summarized) :
    before.tables.Loses ⟨.thing, id⟩ after.tables := by
  have aside : ∀ {kind : EntityKind} place, kind = .location ∨ kind = .historicalLocation →
      first.tables.find? kind place = before.tables.find? kind place := by
    intro kind place either
    refine disowns.drops.find?_eq fun row _ key member => ?_
    obtain ⟨stream, -, rfl⟩ := List.mem_map.1 member
    rcases either with rfl | rfl <;> simp [EntityKind.DependsOn, EntityKind.references]
  have members : ∀ historical, historical ∈ (first.tables.idsWhere .historicalLocation fun row =>
      HistoricalLocation.thing row == id) ↔
        ∃ row : HistoricalLocation, before.tables.find? .historicalLocation historical = some row ∧
          row.thing = id := by
    intro historical
    rw [Tables.mem_idsWhere_iff, aside historical (.inr rfl)]
    simp only [beq_iff_eq]
  -- Historical locations of the thing are gone before it is; so they need not be told apart here.
  have between : ∀ {kind : EntityKind} {place : EntityId} {row : kind.Entity}, kind ≠ .location →
      (after.tables.find? kind place = some row ↔
        first.tables.find? kind place = some row ∧ ¬kind.DependsOn row ⟨.thing, id⟩) := by
    intro kind place row notLocation
    rw [drops, List.forall_mem_singleton]
    refine and_congr_left fun independent => ?_
    by_cases record : kind = .historicalLocation
    · subst record
      rw [forgets.records]
      split
      next member =>
        obtain ⟨gone, found, same⟩ := (members place).1 member
        rw [aside place (.inr rfl), found]
        refine iff_of_false (Option.some_ne_none row).symm fun again => independent (.inr ?_)
        rw [← Option.some.inj again]
        simp [EntityKind.references, same]
      next => rfl
    · rw [forgets.others place record notLocation]
  refine .of_survivors (by simp) linked summarized ?_ fun place =>
    ⟨(first.tables.idsWhere .historicalLocation fun historical =>
      HistoricalLocation.thing historical == id).filter (first.tables.records place),
      fun historical => ?_, ?_⟩
  · intro kind place row notLocation
    rw [between notLocation, disowns.drops, and_assoc]
    refine and_congr_right fun found => ?_
    rw [Tables.goesWith_iff_of_streams linkedBefore (.inl rfl) disowns.members found]
    simp [not_or]
  · rw [List.mem_filter, members, Tables.records, aside historical (.inr rfl), Option.any_eq_true]
    constructor
    · rintro ⟨⟨row, found, same⟩, other, otherFound, listed⟩
      rw [found] at otherFound
      obtain rfl := Option.some.inj otherFound
      exact ⟨row, found, .ofThing row (by rw [same]), IdSet.contains_iff.1 listed⟩
    · rintro ⟨row, found, goes, listed⟩
      have same : HistoricalLocation.thing row = id := by
        simpa [eq_comm] using Tables.goesWith_historicalLocation_iff.1 goes
      exact ⟨⟨row, found, same⟩, row, found, IdSet.contains_iff.2 listed⟩
  · rw [drops.find?_eq, forgets.locations, aside place (.inl rfl)]
    simp [EntityKind.DependsOn, EntityKind.references]

theorem loses_of_location {location : Location} (departs : Departs id location before after)
    (linkedBefore : before.tables.Linked) (linked : after.tables.Linked)
    (summarized : after.tables.Summarized) :
    before.tables.Loses ⟨.location, id⟩ after.tables where
  gone := by
    intro kind place row found goes
    rcases Tables.eq_or_eq_of_goesWith (.inl rfl) goes with same | rfl
    · obtain ⟨rfl, rfl⟩ := Key.mk.inj same
      rw [departs.locations, if_pos (Tables.idOf_of_find? found).symm]
    · have only : row.locations.items = [id] := by
        simpa [eq_comm] using Tables.goesWith_historicalLocation_iff.1 goes
      rw [departs.records_of_linked linkedBefore, found, Option.bind_some,
        HistoricalLocation.leaving_eq_none_iff (by simp [only])]
      exact only
  kept := by
    intro kind place row found stays
    cases kind
    case location =>
      have different : place ≠ id := by
        rintro rfl
        exact stays (.itself .location row (by rw [Tables.idOf_of_find? found]))
      refine ⟨row, by rw [departs.locations, if_neg different, found], [], fun record => ?_, rfl⟩
      refine iff_of_false List.not_mem_nil fun ⟨other, _, goes, listed⟩ => different ?_
      have only : other.locations.items = [id] := by
        simpa [eq_comm] using Tables.goesWith_historicalLocation_iff.1 goes
      rw [only, List.mem_singleton] at listed
      exact (Tables.idOf_of_find? found).symm.trans listed
    case thing =>
      exact ⟨_, by rw [departs.things, found, Option.map_some], (if_pos rfl).symm⟩
    case historicalLocation =>
      obtain ⟨-, somewhere, -⟩ := linkedBefore .historicalLocation place row found
      rw [departs.records_of_linked linkedBefore, found, Option.bind_some]
      cases left : HistoricalLocation.leaving id row with
      | none =>
        have only := (HistoricalLocation.leaving_eq_none_iff somewhere).1 left
        exact absurd (.nowhere row id rfl only) stays
      | some new => exact ⟨new, rfl, (HistoricalLocation.eq_of_leaving left).1⟩
    case datastream =>
      have unchanged := (departs.others place (by decide) (by decide) (by decide)).trans found
      exact ⟨row, unchanged, ((summarized.bounds place row unchanged).rebounded_eq linked).symm⟩
    case dataset =>
      have unchanged := (departs.others place (by decide) (by decide) (by decide)).trans found
      exact ⟨row, unchanged, (summarized.pointers place row unchanged).repointed_eq.symm⟩
    all_goals
      exact ⟨row, (departs.others place (by decide) (by decide) (by decide)).trans found, rfl⟩
  absent := by
    intro kind place missing
    cases kind
    case location => rw [departs.locations, missing, ite_self]
    case thing => rw [departs.things, missing, Option.map_none]
    case historicalLocation => rw [departs.records, missing, Option.bind_none]
    all_goals rw [departs.others place (by decide) (by decide) (by decide), missing]

theorem loses {kind : EntityKind} (removal : Removal id before after kind)
    (linked : before.tables.Linked) (summarized : before.tables.Summarized) :
    before.tables.Loses ⟨kind, id⟩ after.tables := by
  have linkedThen := removal.linked linked
  have summarizedThen := removal.summarized linked summarized
  cases removal with
  | thing disowns forgets drops =>
    exact loses_of_thing disowns forgets drops linked linkedThen summarizedThen
  | location departs => exact loses_of_location departs linked linkedThen summarizedThen
  | historicalLocation forgets =>
    exact loses_of_historicalLocation forgets linkedThen summarizedThen
  | sensor disowns drops =>
    exact loses_of_tool (.inl rfl) disowns drops linked linkedThen summarizedThen
  | observedProperty disowns drops =>
    exact loses_of_tool (.inr rfl) disowns drops linked linkedThen summarizedThen
  | datastream drops => exact loses_of_datastream drops linked linkedThen summarizedThen
  | feature drops _ rebounds =>
    exact loses_of_summaries (.inl rfl) drops (.nil _) rebounds linked linkedThen summarizedThen
  | observation _ _ drops repoints rebounds =>
    exact loses_of_summaries (.inr rfl) drops repoints rebounds linked linkedThen summarizedThen

end Removal

namespace Store

/-- In every store that is reached by requests whose bodies differ in their keys, a removal finds
nothing only where nothing is. Otherwise the entity and what depends on it are gone, and the other
entities remain as they were, but for links to what is gone and for summaries of what is left. -/
theorem reachable_removals {store : Store}
    (reachable : store.Reachable fun request => request.keys.Nodup) (environment : Environment)
    {kind : EntityKind} (isPublic : kind.isPublic = true) (id : EntityId) :
    let removed := store.change environment (Change.ofRequest (.remove kind id))
    (removed.1 = .error (.notFound kind id) ↔ store.tables.find? kind id = none) ∧
    (store.tables.find? kind id = none → removed.2 = store) ∧
    ∀ row, store.tables.find? kind id = some row →
      removed.1 = .ok none ∧ store.tables.Loses ⟨kind, id⟩ removed.2.tables := by
  have linked : store.tables.Linked := reachable.linked
  have summarized : store.tables.Summarized :=
    reachable.tables_induction Tables.summarized_empty
      fun _ _ _ _ distinct fresh linked summarized alteration =>
        alteration.summarized fresh distinct linked summarized
  have finds : ∀ row, store.tables.find? kind id = some row →
      (store.change environment (Change.ofRequest (.remove kind id))).1 = .ok none ∧
        store.tables.Loses ⟨kind, id⟩
          (store.change environment (Change.ofRequest (.remove kind id))).2.tables := by
    intro row found
    have succeeds : (Change.remove kind id).Succeeds environment (.start store.tables) :=
      Change.succeeds_remove isPublic (Tables.contains_of_find? found) linked
    obtain ⟨_, after, removed⟩ := succeeds
    have ran : (Change.ofRequest (.remove kind id)).Returns environment (.start store.tables) none
        after := Change.returns_bind.2 ⟨(), after, removed, Change.returns_pure.2 ⟨rfl, rfl⟩⟩
    obtain ⟨succeeded, result⟩ := change_of_returns ran
    rw [result]
    exact ⟨succeeded, (Change.Returns.remove removed linked).loses linked summarized⟩
  have misses : store.tables.find? kind id = none →
      (store.change environment (Change.ofRequest (.remove kind id))).1 =
        .error (.notFound kind id) := by
    intro absent
    have failed : Change.ofRequest (.remove kind id) environment ⟨.start store.tables, 0⟩ =
        .error (.notFound kind id) ⟨.start store.tables, 0⟩ :=
      Change.bind_of_error (Change.remove_of_absent isPublic absent)
    rw [Store.change, Change.start, failed]
  refine ⟨⟨fun failed => ?_, misses⟩, fun absent => ?_, finds⟩
  · cases found : store.tables.find? kind id with
    | none => rfl
    | some row =>
      rw [(finds row found).1] at failed
      contradiction
  · exact change_of_error (Change.records_ofRequest (.remove kind id)) (misses absent)

open FirstObservation in
/-- The first observation can be removed. -/
theorem reachable_removals_first_observation :
    let removed := store.change environment
      (Change.ofRequest (.remove .observation (environment.fresh 7)))
    ∃ row, store.tables.find? .observation (environment.fresh 7) = some row ∧
      removed.1 = .ok none ∧
        store.tables.Loses ⟨.observation, environment.fresh 7⟩ removed.2.tables := by
  have distinct : request.keys.Nodup := by
    rw [keys_request]
    exact .nil
  obtain ⟨row, found⟩ := Tables.contains_iff.1 observed
  have removals := reachable_removals (reachable distinct) environment
    (show EntityKind.observation.isPublic = true by decide) (environment.fresh 7)
  exact ⟨row, found, removals.2.2 row found⟩

end Store

end SensorThings
