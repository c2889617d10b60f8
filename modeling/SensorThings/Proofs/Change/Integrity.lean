import SensorThings.Proofs.Change.Freshness
import SensorThings.Proofs.Change.Removal
import SensorThings.Proofs.Change.Revision

/-!
Every change keeps all links. What a new entity refers to is made or found before it is written, an
entity that is written again keeps what others rely on, and what goes is referred to by nothing that
stays.
-/
namespace SensorThings

theorem Updates.growth {kind : EntityKind} {f : kind.Entity → kind.Entity} {ids : List EntityId}
    {before after : Progress} (updates : Updates kind f ids before after)
    (keeps : ∀ row, kind.Keeps row (f row)) : before.tables.Extends after.tables := by
  rintro ⟨other, id⟩ old found
  by_cases same : other = kind
  · subst same
    refine ⟨if id ∈ ids then f old else old, by rw [updates.find?, found, Option.map_some], ?_⟩
    split
    · exact keeps old
    · exact .refl old
  · exact ⟨old, (updates.others id same).trans found, .refl old⟩

theorem Updates.linked {kind : EntityKind} {f : kind.Entity → kind.Entity} {ids : List EntityId}
    {before after : Progress} (updates : Updates kind f ids before after)
    (linked : before.tables.Linked) (keeps : ∀ row, kind.Keeps row (f row))
    (holds : ∀ row, kind.LinksHold before.tables row → kind.LinksHold before.tables (f row)) :
    after.tables.Linked := by
  have growth := updates.growth keeps
  apply linked.later growth
  intro other id row found
  by_cases same : other = kind
  · subst same
    rw [updates.find?] at found
    obtain ⟨old, oldFound, rfl⟩ := Option.map_eq_some_iff.1 found
    have links := linked other id old oldFound
    right
    apply growth.linksHold
    split
    · exact holds old links
    · exact links
  · rw [updates.others id same] at found
    exact .inl found

theorem Updates.rebounded_linked {tables : Tables} {ids : List EntityId} {before after : Progress}
    (updates : Updates .datastream tables.rebounded ids before after)
    (linked : before.tables.Linked) : after.tables.Linked := by
  apply updates.linked linked (fun _ => trivial)
  rintro row ⟨thing, sensor, property, unit, format⟩
  rw [Tables.rebounded, Datastream.summarize_eq]
  exact ⟨thing, sensor, property, unit, format⟩

theorem Updates.repointed_linked {tables : Tables} {ids : List EntityId} {before after : Progress}
    (updates : Updates .dataset tables.repointed ids before after)
    (linked : before.tables.Linked) : after.tables.Linked := by
  apply updates.linked linked
  · intro row
    rw [Tables.repointed, Dataset.summarize_eq]
    exact ⟨rfl, rfl⟩
  · intro row holds
    rw [Tables.repointed, Dataset.summarize_eq]
    exact holds

namespace Lists

variable {historical : HistoricalLocation} {locations : List EntityId} {before after : Progress}

theorem growth
    (lists : Lists historical.id locations (before.save .historicalLocation historical) after) :
    before.tables.Extends after.tables := by
  have saved : before.tables.Extends (before.save .historicalLocation historical).tables := by
    rw [Progress.save_tables]
    exact .put fun _ _ => trivial
  apply saved.trans
  apply lists.updates.growth
  exact fun row id member => IdSet.mem_insert_iff.2 (.inr member)

theorem listed
    (lists : Lists historical.id locations (before.save .historicalLocation historical) after)
    {id : EntityId} (member : id ∈ locations ∨ ∃ location : Location,
      before.tables.find? .location id = some location ∧
        historical.id ∈ location.historicalLocations.items) :
    ∃ location : Location, after.tables.find? .location id = some location ∧
      historical.id ∈ location.historicalLocations.items := by
  rcases member with now | ⟨location, found, already⟩
  · obtain ⟨location, found⟩ := Tables.contains_iff.1 (lists.there id now)
    refine ⟨Location.listing historical.id location, ?_, IdSet.mem_insert_iff.2 (.inl rfl)⟩
    rw [lists.updates.find?, found, Option.map_some, if_pos now]
  · obtain ⟨row, here, kept⟩ := lists.growth ⟨.location, id⟩ location found
    exact ⟨row, here, kept _ already⟩

/-- A record is written before its locations list it, so its links hold only at the end. -/
theorem linked
    (lists : Lists historical.id locations (before.save .historicalLocation historical) after)
    (linked : before.tables.Linked)
    (thing : before.tables.contains .thing historical.thing = true)
    (somewhere : historical.locations.items ≠ [])
    (places : ∀ id ∈ historical.locations.items, id ∈ locations ∨ ∃ location : Location,
      before.tables.find? .location id = some location ∧
        historical.id ∈ location.historicalLocations.items) :
    after.tables.Linked := by
  apply linked.later lists.growth
  intro kind id entity found
  by_cases place : kind = .location
  · subst place
    exact .inr trivial
  rw [lists.updates.others id place, Progress.save_tables] at found
  by_cases record : kind = .historicalLocation
  · subst record
    rw [Tables.find?_put] at found
    split at found
    next =>
      obtain rfl := Option.some.inj found
      exact .inr ⟨(lists.growth ⟨.thing, _⟩).contains thing, somewhere,
        fun id member => lists.listed (places id member)⟩
    next => exact .inl found
  · rw [Tables.find?_put_of_ne _ _ _ record] at found
    exact .inl found

end Lists

namespace Creation

variable {environment : Environment} {outline : Outline} {before after : Progress}

theorem addObservation_growth {progress : Progress} {observation : Observation}
    {datastream : Datastream} {dataset : Dataset}
    (found : progress.tables.find? .dataset observation.dataset = some dataset) :
    progress.tables.Extends (progress.addObservation observation datastream dataset).tables := by
  unfold Progress.addObservation
  simp only [Progress.save_tables]
  have first : progress.tables.Extends (progress.tables.put .observation observation) :=
    .put fun _ _ => trivial
  have second : (progress.tables.put .observation observation).Extends
      ((progress.tables.put .observation observation).put .datastream
        (datastream.cover observation)) := .put fun _ _ => trivial
  refine first.trans (second.trans (.put ?_))
  intro old here
  rw [Tables.find?_put_of_ne _ _ _ (by decide), Tables.find?_put_of_ne _ _ _ (by decide)] at here
  have same := Tables.find?_idOf found
  obtain rfl : dataset = old := Option.some.inj (same.symm.trans here)
  exact ⟨rfl, rfl⟩

theorem growth (creation : Creation environment outline before after)
    (fresh : environment.Fresh outline.keys before) : before.tables.Extends after.tables := by
  induction creation with
  | nil => exact .refl _
  | append left _ ihLeft ihRight => exact (ihLeft fresh.left).trans (ihRight (fresh.right left))
  | bare kind entity _ claimed =>
    rw [claimed.claim_save_tables]
    exact .put_free (fresh.free_of_claim claimed)
  | feature feature _ claimed =>
    rw [claimed.claim_save_tables]
    exact .put fun _ _ => trivial
  | repeated => exact .refl _
  | derived location feature _ _ chosen =>
    rw [chosen.featureId_save_tables]
    exact .put fun _ _ => trivial
  | adopted =>
    rw [Progress.save_tables]
    exact .put fun _ _ => trivial
  | moved =>
    rw [Progress.save_tables]
    exact .put fun _ _ => trivial
  | recorded historical claimed _ _ _ ran ih =>
    rw [← claimed.claim_tables]
    exact (ih (fresh.claim claimed)).trans ran.record.growth
  | extended historical location ran =>
    obtain ⟨found, here, lists⟩ := ran.extendRecord
    exact lists.growth
  | datastream datastream claimed _ _ _ ih =>
    rw [← claimed.claim_tables]
    apply (ih (fresh.claim claimed)).trans
    rw [Progress.save_tables]
    exact .put fun _ _ => trivial
  | dataset stream dataset _ made _ drawn _ _ _ ih =>
    rw [Progress.save_tables, Progress.draw_tables]
    have free := fresh.free_after made .dataset
    rw [← drawn] at free
    exact (ih fresh).trans (.put_free free)
  | observation observation stream datastream dataset raw claimed left _ _ _ _ _ datasetFound _
      ihLeft ihRight =>
    rw [← claimed.claim_tables]
    have inside := fresh.claim claimed
    exact ((ihLeft inside.left).trans (ihRight (inside.right left))).trans
      (addObservation_growth datasetFound)

theorem addObservation_linked {progress : Progress} {observation : Observation}
    {datastream : Datastream} {dataset : Dataset} (linked : progress.tables.Linked)
    (feature : progress.tables.contains .featureOfInterest observation.feature = true)
    (datastreamFound : progress.tables.find? .datastream observation.datastream = some datastream)
    (datasetFound : progress.tables.find? .dataset observation.dataset = some dataset)
    (paired : dataset.datastream = observation.datastream ∧
      dataset.feature = observation.feature) :
    (progress.addObservation observation datastream dataset).tables.Linked := by
  have group : EntityKind.observation.LinksHold progress.tables observation :=
    ⟨Tables.contains_of_find? datastreamFound, feature, dataset, datasetFound, paired⟩
  have stream : EntityKind.datastream.LinksHold progress.tables (datastream.cover observation) := by
    obtain ⟨thing, sensor, property, unit, format⟩ := linked .datastream _ _ datastreamFound
    exact ⟨thing, sensor, property, unit, format⟩
  have pair : EntityKind.dataset.LinksHold progress.tables dataset :=
    linked .dataset _ _ datasetFound
  have first : progress.tables.Extends (progress.tables.put .observation observation) :=
    .put fun _ _ => trivial
  have second : (progress.tables.put .observation observation).Extends
      ((progress.tables.put .observation observation).put .datastream
        (datastream.cover observation)) := .put fun _ _ => trivial
  unfold Progress.addObservation
  simp only [Progress.save_tables]
  have written : (progress.tables.put .observation observation).Linked :=
    linked.put (fun _ _ => trivial) group
  have covered : ((progress.tables.put .observation observation).put .datastream
      (datastream.cover observation)).Linked :=
    written.put (fun _ _ => trivial) (first.linksHold stream)
  refine covered.put ?_ ((first.trans second).linksHold pair)
  intro old here
  rw [Tables.find?_put_of_ne _ _ _ (by decide), Tables.find?_put_of_ne _ _ _ (by decide)] at here
  have same := Tables.find?_idOf datasetFound
  obtain rfl : dataset = old := Option.some.inj (same.symm.trans here)
  exact ⟨rfl, rfl⟩

theorem linked (creation : Creation environment outline before after)
    (fresh : environment.Fresh outline.keys before) (linked : before.tables.Linked) :
    after.tables.Linked := by
  induction creation with
  | nil => exact linked
  | append left _ ihLeft ihRight => exact ihRight (fresh.right left) (ihLeft fresh.left linked)
  | bare kind entity isBare claimed =>
    rw [claimed.claim_save_tables]
    apply linked.put_free (fresh.free_of_claim claimed)
    cases kind
    case thing => simp [EntityKind.LinksHold, show Thing.locations entity = [] from isBare]
    all_goals trivial
  | feature feature _ claimed =>
    rw [claimed.claim_save_tables]
    exact linked.put (fun _ _ => trivial) trivial
  | repeated => exact linked
  | derived location feature _ _ chosen =>
    rw [chosen.featureId_save_tables]
    exact linked.put (fun _ _ => trivial) trivial
  | @adopted progress owner datastream found there =>
    rw [Progress.save_tables]
    obtain ⟨thing, sensor, property, unit, format⟩ := linked .datastream _ datastream found
    have links : EntityKind.datastream.LinksHold progress.tables (owner.adopt datastream) := by
      cases owner
      case thing => exact ⟨there, sensor, property, unit, format⟩
      case sensor => exact ⟨thing, there, property, unit, format⟩
      case observedProperty => exact ⟨thing, sensor, there, unit, format⟩
    exact linked.put (fun _ _ => trivial) links
  | moved thing locations _ distinct there =>
    rw [Progress.save_tables]
    exact linked.put (fun _ _ => trivial) ⟨distinct, there⟩
  | recorded historical claimed _ thing somewhere ran ih =>
    rw [← claimed.claim_tables] at linked
    exact ran.record.linked (ih (fresh.claim claimed) linked) thing somewhere
      fun _ member => .inl member
  | extended historical location ran =>
    obtain ⟨found, here, lists⟩ := ran.extendRecord
    obtain ⟨thing, -, listed⟩ := linked .historicalLocation _ found here
    refine lists.linked linked thing ?_ ?_
    · exact List.ne_nil_of_mem (IdSet.mem_insert_iff.2 (.inl rfl))
    · intro id member
      rcases IdSet.mem_insert_iff.1 member with rfl | before
      · exact .inl List.mem_cons_self
      · exact .inr (listed id before)
  | datastream datastream claimed _ links _ ih =>
    rw [← claimed.claim_tables] at linked
    rw [Progress.save_tables]
    exact (ih (fresh.claim claimed) linked).put (fun _ _ => trivial) links
  | dataset stream dataset found made madeFor drawn _ feature _ ih =>
    rw [Progress.save_tables, Progress.draw_tables]
    have free := fresh.free_after made .dataset
    rw [← drawn] at free
    refine (ih fresh linked).put_free free ⟨?_, feature⟩
    rw [madeFor.datastream]
    exact made.contains (Tables.contains_of_find? found)
  | observation observation stream datastream dataset raw claimed left _ _ right feature
      datastreamFound datasetFound paired ihLeft ihRight =>
    rw [← claimed.claim_tables] at linked
    have inside := fresh.claim claimed
    have linked := ihRight (inside.right left) (ihLeft inside.left linked)
    exact addObservation_linked linked feature datastreamFound datasetFound paired

end Creation

section Revisions

variable {environment : Environment} {before after : Progress}

theorem Environment.Fresh.resave {keys : List Key} {kind : EntityKind} {id : EntityId}
    {old new : kind.Entity} (fresh : environment.Fresh keys before)
    (found : before.tables.find? kind id = some old) (identified : kind.idOf new = kind.idOf old) :
    environment.Fresh keys (before.save kind new) where
  distinct := fresh.distinct
  unsent := fresh.unsent
  unused := by
    intro number later other
    rw [← Bool.not_eq_true, Progress.save_tables, Tables.contains_put_iff, identified]
    rintro (⟨rfl, same⟩ | there)
    · have there := Tables.contains_of_find? (Tables.find?_idOf found)
      rw [same, fresh.unused number later other] at there
      contradiction
    · rw [fresh.unused number later other] at there
      contradiction

theorem EntityKind.Retains.keeps {kind : EntityKind} {old new : kind.Entity}
    (retains : kind.Retains old new) : kind.Keeps old new := by
  cases kind
  case location =>
    intro id member
    rw [show Location.historicalLocations new = Location.historicalLocations old from retains]
    exact member
  case dataset => exact retains.elim
  all_goals trivial

theorem EntityKind.Retains.linked {tables : Tables} {kind : EntityKind} {id : EntityId}
    {old new : kind.Entity} (retains : kind.Retains old new)
    (found : tables.find? kind id = some old) (identified : kind.idOf new = kind.idOf old)
    (links : kind.LinksHold tables old → kind.LinksHold tables new) (linked : tables.Linked) :
    (tables.put kind new).Linked := by
  apply linked.put _ (links (linked kind id old found))
  intro row rowFound
  rw [identified, Tables.find?_idOf found] at rowFound
  obtain rfl := Option.some.inj rowFound
  exact retains.keeps

theorem Edits.linked {kind : EntityKind} (edits : Edits environment kind before after)
    (fresh : environment.Fresh [] before) (linked : before.tables.Linked) :
    after.tables.Linked := by
  obtain ⟨old, new, supplied, found, identified, retains, links, -, followed⟩ := edits
  have freshThen : environment.Fresh [] _ := supplied.fresh fresh
  apply followed.linked (freshThen.resave found identified)
  rw [Progress.save_tables]
  exact retains.linked found identified links (supplied.linked fresh linked)

theorem Refocuses.linked {old placed : Observation}
    (refocuses : Refocuses environment old placed before after)
    (fresh : environment.Fresh [] before) (linked : before.tables.Linked)
    {id : EntityId} (found : before.tables.find? .observation id = some old) :
    after.tables.Linked ∧ EntityKind.observation.LinksHold after.tables placed := by
  have growth := refocuses.supplied.growth fresh
  have group : EntityKind.observation.LinksHold after.tables old :=
    growth.linksHold (linked .observation id old found)
  refine ⟨refocuses.supplied.linked fresh linked, ?_⟩
  obtain ⟨feature, dataset⟩ | ⟨there, pair⟩ := refocuses.group
  · refine ⟨?_, ?_, ?_⟩
    · exact refocuses.same.2 ▸ group.datastream
    · exact feature ▸ group.feature
    · rw [dataset, refocuses.same.2, feature]
      exact group.dataset
  · exact ⟨refocuses.same.2 ▸ group.datastream, there, pair⟩

theorem EditsObservation.linked (edits : EditsObservation environment before after)
    (fresh : environment.Fresh [] before) (linked : before.tables.Linked) :
    after.tables.Linked := by
  obtain ⟨old, new, stream, found, streamFound, refocuses, typed, repoints, rebounds⟩ := edits
  obtain ⟨linkedThen, holds⟩ := refocuses.linked fresh linked found
  apply rebounds.rebounded_linked
  apply repoints.repointed_linked
  rw [Progress.save_tables]
  exact linkedThen.put (fun _ _ => trivial) holds

theorem Revision.linked {kind : EntityKind} (revision : Revision environment before after kind)
    (fresh : environment.Fresh [] before) (linked : before.tables.Linked) :
    after.tables.Linked := by
  cases revision with
  | entity edits => exact edits.linked fresh linked
  | observation edits => exact edits.linked fresh linked

end Revisions

section Removals

variable {ids : List EntityId} {id : EntityId} {before middle after : Progress}

theorem EntityKind.references_plain {kind : EntityKind} (notThing : kind ≠ .thing)
    (notRecord : kind ≠ .historicalLocation) (entity : kind.Entity) :
    ∀ key ∈ kind.references entity, key.kind ≠ .location ∧ key.kind ≠ .historicalLocation := by
  cases kind
  case thing => contradiction
  case historicalLocation => contradiction
  all_goals simp [EntityKind.references]

theorem Forgets.linked (forgets : Forgets ids before after) (linked : before.tables.Linked) :
    after.tables.Linked := by
  intro kind id row found
  by_cases record : kind = .historicalLocation
  · subst record
    rw [forgets.records] at found
    split at found
    next => contradiction
    next stays =>
      obtain ⟨thing, somewhere, listed⟩ := linked .historicalLocation id row found
      refine ⟨?_, somewhere, fun place member => ?_⟩
      · rwa [Tables.contains, forgets.others _ (by decide) (by decide)]
      · obtain ⟨location, locationFound, lists⟩ := listed place member
        refine ⟨_, by rw [forgets.locations, locationFound, Option.map_some], ?_⟩
        refine IdSet.mem_foldl_erase_iff.2 ⟨fun gone => ?_, lists⟩
        have same : HistoricalLocation.id row = id := Tables.idOf_of_find? found
        exact stays (same ▸ (List.mem_filter.1 gone).1)
  by_cases place : kind = .location
  · subst place
    trivial
  rw [forgets.others id record place] at found
  have holds := linked kind id row found
  by_cases thing : kind = .thing
  · subst thing
    refine ⟨holds.1, fun location member => ?_⟩
    rw [Tables.contains, forgets.locations, Option.isSome_map]
    exact holds.2 location member
  · refine Tables.linksHold_of_spares (fun key member old oldFound => ?_) holds
    obtain ⟨notLocation, notRecord⟩ := EntityKind.references_plain thing record row key member
    exact ⟨old, (forgets.others _ notRecord notLocation).trans oldFound, .refl old⟩

theorem Drops.linked_of_unreferred {key : Key} (drops : Drops [key] before after)
    (linked : before.tables.Linked) (unreferred : ∀ kind id row,
      before.tables.find? kind id = some row → key ∉ kind.references row) :
    after.tables.Linked := by
  apply drops.linked linked
  rw [List.forall_mem_singleton]
  exact Tables.closed_of_unreferred unreferred

namespace Departs

variable {location : Location}

theorem thing_linksHold (departs : Departs id location before after) {thing : Thing}
    (holds : EntityKind.thing.LinksHold before.tables thing) :
    EntityKind.thing.LinksHold after.tables (thing.leaving id) := by
  obtain ⟨distinct, there⟩ := holds
  refine ⟨distinct.filter _, fun place member => ?_⟩
  obtain ⟨member, different⟩ := List.mem_filter.1 member
  rw [Tables.contains, departs.locations, if_neg (by simpa using different)]
  exact there place member

/-- A historical location at the location was listed by it, so it has left. -/
theorem record_linksHold (departs : Departs id location before after) {place : EntityId}
    {old new : HistoricalLocation}
    (found : before.tables.find? .historicalLocation place = some old)
    (holds : EntityKind.historicalLocation.LinksHold before.tables old)
    (given : (if place ∈ location.historicalLocations.items then old.leaving id else some old) =
      some new) : EntityKind.historicalLocation.LinksHold after.tables new := by
  obtain ⟨thing, somewhere, listed⟩ := holds
  have thingStays : after.tables.contains .thing old.thing = true := by
    rwa [Tables.contains, departs.things, Option.isSome_map]
  have stays : ∀ place ∈ old.locations.items, place ≠ id → ∃ location : Location,
      after.tables.find? .location place = some location ∧
        old.id ∈ location.historicalLocations.items := by
    intro place member different
    rw [departs.locations, if_neg different]
    exact listed place member
  split at given
  next =>
    obtain ⟨rfl, remains⟩ := HistoricalLocation.eq_of_leaving given
    refine ⟨thingStays, remains, fun place member => ?_⟩
    obtain ⟨different, member⟩ := IdSet.mem_erase_iff.1 member
    exact stays place member different
  next unlisted =>
    obtain rfl := Option.some.inj given
    refine ⟨thingStays, somewhere, fun other member => stays other member ?_⟩
    rintro rfl
    obtain ⟨row, rowFound, lists⟩ := listed other member
    rw [departs.found] at rowFound
    obtain rfl := Option.some.inj rowFound
    have same : old.id = place := Tables.idOf_of_find? found
    exact unlisted (same ▸ lists)

theorem linked (departs : Departs id location before after) (linked : before.tables.Linked) :
    after.tables.Linked := by
  intro kind place row found
  by_cases isThing : kind = .thing
  · subst isThing
    rw [departs.things] at found
    obtain ⟨old, oldFound, rfl⟩ := Option.map_eq_some_iff.1 found
    exact departs.thing_linksHold (linked .thing place old oldFound)
  by_cases isRecord : kind = .historicalLocation
  · subst isRecord
    rw [departs.records] at found
    obtain ⟨old, oldFound, given⟩ := Option.bind_eq_some_iff.1 found
    exact departs.record_linksHold oldFound (linked .historicalLocation place old oldFound) given
  by_cases isLocation : kind = .location
  · subst isLocation
    trivial
  rw [departs.others place isLocation isThing isRecord] at found
  refine Tables.linksHold_of_spares (fun key member => ?_) (linked kind place row found)
  obtain ⟨notLocation, notRecord⟩ := EntityKind.references_plain isThing isRecord row key member
  obtain ⟨goal, target⟩ := key
  by_cases thing : goal = .thing
  · subst thing
    intro old oldFound
    refine ⟨old.leaving id, ?_, trivial⟩
    rw [departs.things, oldFound, Option.map_some]
  · exact fun old oldFound =>
      ⟨old, (departs.others target notLocation thing notRecord).trans oldFound, .refl old⟩

end Departs

theorem Removal.linked {kind : EntityKind} (removal : Removal id before after kind)
    (linked : before.tables.Linked) : after.tables.Linked := by
  cases removal with
  | thing disowns forgets drops =>
    exact drops.linked_of_unreferred (forgets.linked (disowns.linked linked))
      (disowns.unreferred_of_forgets forgets)
  | location departs => exact departs.linked linked
  | historicalLocation forgets => exact forgets.linked linked
  | sensor disowns drops =>
    exact drops.linked_of_unreferred (disowns.linked linked)
      (disowns.unreferred_of_ne_thing (.inl rfl))
  | observedProperty disowns drops =>
    exact drops.linked_of_unreferred (disowns.linked linked)
      (disowns.unreferred_of_ne_thing (.inr rfl))
  | datastream drops =>
    apply drops.linked linked
    simpa using linked.closed (.inl rfl)
  | feature drops covered rebounds =>
    apply rebounds.rebounded_linked
    apply drops.linked linked
    simpa using linked.closed (.inr rfl)
  | observation observation found drops repoints rebounds =>
    apply rebounds.rebounded_linked
    apply repoints.repointed_linked
    apply drops.linked_of_unreferred linked
    intro kind place row _
    cases kind <;> simp [EntityKind.references]

end Removals

end SensorThings
