import SensorThings.Proofs.Change.Reachable

/-!
The history of locations. A location lists just the historical locations that are at it, although
each change writes the two sides of this one after the other.
-/
namespace SensorThings

namespace Tables

theorem records_iff {tables : Tables} {location historical : EntityId} :
    tables.records location historical = true ↔ ∃ row : HistoricalLocation,
      tables.find? .historicalLocation historical = some row ∧ location ∈ row.locations.items := by
  simp only [records, Option.any_eq_true, IdSet.contains_iff]

theorem records_congr {before after : Tables}
    (same : ∀ id, after.find? .historicalLocation id = before.find? .historicalLocation id)
    (location historical : EntityId) :
    after.records location historical = before.records location historical := by
  rw [records, same, records]

/-- Locations list only historical locations that are there and at them. -/
def HistoryHolds (tables : Tables) : Prop :=
  ∀ id (location : Location), tables.find? .location id = some location →
    ∀ historical ∈ location.historicalLocations.items, tables.records id historical = true

def IsHistory (kind : EntityKind) : Prop :=
  kind = .location ∨ kind = .historicalLocation

theorem historyHolds_empty : HistoryHolds {} :=
  fun _ _ => nofun

namespace HistoryHolds

variable {before after tables : Tables}

theorem frame (holds : before.HistoryHolds) (same : ∀ {kind} id, IsHistory kind →
    after.find? kind id = before.find? kind id) : after.HistoryHolds := by
  intro id location found historical member
  rw [same id (.inl rfl)] at found
  rw [records_congr fun id => same id (.inr rfl)]
  exact holds id location found historical member

theorem put (holds : tables.HistoryHolds) (kind : EntityKind) (entity : kind.Entity)
    (plain : ¬IsHistory kind) : (tables.put kind entity).HistoryHolds :=
  holds.frame (find?_put_of_not plain tables entity)

theorem put_location (holds : tables.HistoryHolds) {location : Location}
    (lists : ∀ historical ∈ location.historicalLocations.items,
      tables.records location.id historical = true) :
    (tables.put .location location).HistoryHolds := by
  intro id row found historical member
  rw [records_congr fun _ => find?_put_of_ne _ _ _ (by decide)]
  rw [find?_put] at found
  split at found
  next same =>
    obtain rfl := Option.some.inj found
    exact same ▸ lists historical member
  next => exact holds id row found historical member

theorem put_historicalLocation (holds : tables.HistoryHolds) {historical : HistoricalLocation}
    (stays : ∀ id, tables.records id historical.id = true → id ∈ historical.locations.items) :
    (tables.put .historicalLocation historical).HistoryHolds := by
  intro id row found other member
  rw [find?_put_of_ne _ _ _ (by decide)] at found
  have before := holds id row found other member
  by_cases same : historical.id = other
  · rw [records_iff]
    refine ⟨historical, find?_put_self _ _ same, stays id ?_⟩
    rwa [same]
  · obtain ⟨old, oldFound, located⟩ := records_iff.1 before
    rw [records_iff]
    refine ⟨old, ?_, located⟩
    exact (find?_put ..).trans ((if_neg same).trans oldFound)

end HistoryHolds

end Tables

theorem Lists.historyHolds {historical : HistoricalLocation} {locations : List EntityId}
    {before after : Progress}
    (lists : Lists historical.id locations (before.save .historicalLocation historical) after)
    (holds : before.tables.HistoryHolds)
    (stays : ∀ id, before.tables.records id historical.id = true →
      id ∈ historical.locations.items)
    (places : ∀ id ∈ locations, id ∈ historical.locations.items) : after.tables.HistoryHolds := by
  have written : (before.save .historicalLocation historical).tables.HistoryHolds := by
    rw [Progress.save_tables]
    exact holds.put_historicalLocation stays
  intro id row found other member
  rw [Tables.records_congr fun _ => lists.updates.others _ (by decide)]
  rw [lists.updates.find?] at found
  obtain ⟨old, oldFound, rfl⟩ := Option.map_eq_some_iff.1 found
  split at member
  next listing =>
    rcases IdSet.mem_insert_iff.1 member with rfl | already
    · have there : (before.save .historicalLocation historical).tables.find? .historicalLocation
          historical.id = some historical := by
        rw [Progress.save_tables]
        exact Tables.find?_put_self _ _ rfl
      exact Tables.records_iff.2 ⟨historical, there, places id listing⟩
    · exact written id old oldFound other already
  next => exact written id old oldFound other member

section Creations

variable {environment : Environment} {outline : Outline} {before after : Progress}

theorem Creation.historyHolds (creation : Creation environment outline before after)
    (fresh : environment.Fresh outline.keys before) (distinct : outline.keys.Nodup)
    (holds : before.tables.HistoryHolds) : after.tables.HistoryHolds := by
  induction creation with
  | nil => exact holds
  | append left _ ihLeft ihRight =>
    rw [Outline.keys_append, List.nodup_append] at distinct
    exact ihRight (fresh.right left) distinct.2.1 (ihLeft fresh.left distinct.1 holds)
  | bare kind entity isBare claimed =>
    rw [claimed.claim_save_tables]
    cases kind
    case location =>
      apply holds.put_location
      intro historical member
      rw [show Location.historicalLocations entity = .empty from isBare] at member
      contradiction
    case historicalLocation => exact isBare.elim
    all_goals exact holds.put _ entity (by simp [Tables.IsHistory])
  | feature feature _ claimed =>
    rw [claimed.claim_save_tables]
    exact holds.put .featureOfInterest feature (by simp [Tables.IsHistory])
  | repeated => exact holds
  | derived location feature _ _ chosen =>
    rw [chosen.featureId_save_tables]
    exact holds.put .featureOfInterest feature (by simp [Tables.IsHistory])
  | adopted owner datastream =>
    rw [Progress.save_tables]
    exact holds.put .datastream _ (by simp [Tables.IsHistory])
  | moved thing locations =>
    rw [Progress.save_tables]
    exact holds.put .thing _ (by simp [Tables.IsHistory])
  | recorded historical claimed made _ _ ran ih =>
    have free := made.claimed_stays_free claimed fresh distinct (by decide)
    rw [← claimed.claim_tables] at holds
    have inside := ih (fresh.claim claimed) (Outline.nodup_inner distinct) holds
    apply ran.record.historyHolds inside
    · intro id there
      rw [Tables.records, free] at there
      contradiction
    · exact fun _ member => member
  | extended historical location ran =>
    obtain ⟨found, here, lists⟩ := ran.extendRecord
    apply lists.historyHolds holds
    · intro id there
      obtain ⟨row, rowFound, located⟩ := Tables.records_iff.1 there
      obtain rfl := Option.some.inj ((Tables.find?_idOf here).symm.trans rowFound)
      exact IdSet.mem_insert_iff.2 (.inr located)
    · intro id member
      exact IdSet.mem_insert_iff.2 (.inl (List.mem_singleton.1 member))
  | datastream datastream claimed _ _ _ ih =>
    rw [← claimed.claim_tables] at holds
    rw [Progress.save_tables]
    exact (ih (fresh.claim claimed) (Outline.nodup_inner distinct) holds).put .datastream
      datastream (by simp [Tables.IsHistory])
  | dataset stream dataset _ _ _ _ _ _ _ ih =>
    simpa using (ih fresh distinct holds).put .dataset dataset (by simp [Tables.IsHistory])
  | observation observation stream datastream dataset raw claimed left _ _ _ _ _ _ _ ihLeft
      ihRight =>
    rw [← claimed.claim_tables] at holds
    have inside := fresh.claim claimed
    have distinctInside := Outline.nodup_inner distinct
    rw [Outline.keys_append, List.nodup_append] at distinctInside
    have holdsBetween := ihLeft inside.left distinctInside.1 holds
    have holdsLast := ihRight (inside.right left) distinctInside.2.1 holdsBetween
    apply holdsLast.frame
    intro kind id history
    apply Progress.find?_addObservation
    rcases history with rfl | rfl <;> decide

end Creations

section Revisions

variable {environment : Environment} {before after : Progress}

theorem Edits.historyHolds {kind : EntityKind} (edits : Edits environment kind before after)
    (fresh : environment.Fresh [] before) (holds : before.tables.HistoryHolds) :
    after.tables.HistoryHolds := by
  obtain ⟨old, new, supplied, found, identified, retains, links, -, followed⟩ := edits
  have freshThen : environment.Fresh [] _ := supplied.fresh fresh
  have holdsThen := supplied.historyHolds fresh .nil holds
  apply followed.historyHolds (freshThen.resave found identified) .nil
  rw [Progress.save_tables]
  cases kind
  case location =>
    have same : Location.id new = Location.id old := identified
    apply holdsThen.put_location
    rw [show Location.historicalLocations new = Location.historicalLocations old from retains, same]
    exact holdsThen _ old (Tables.find?_idOf found)
  case historicalLocation =>
    apply holdsThen.put_historicalLocation
    intro id there
    obtain ⟨row, rowFound, located⟩ := Tables.records_iff.1 there
    rw [show HistoricalLocation.id new = HistoricalLocation.id old from identified] at rowFound
    obtain rfl := Option.some.inj ((Tables.find?_idOf found).symm.trans rowFound)
    rwa [retains.2]
  all_goals exact holdsThen.put _ new (by simp [Tables.IsHistory])

theorem EditsObservation.historyHolds (edits : EditsObservation environment before after)
    (fresh : environment.Fresh [] before) (holds : before.tables.HistoryHolds) :
    after.tables.HistoryHolds := by
  obtain @⟨first, middle, id, old, new, stream, found, streamFound, refocuses, typed, repoints,
    rebounds⟩ := edits
  apply (refocuses.supplied.historyHolds fresh .nil holds).frame
  rintro kind place (rfl | rfl)
  all_goals rw [rebounds.others place (by decide), repoints.others place (by decide),
    Progress.find?_save_of_ne _ _ _ (by decide)]

theorem Revision.historyHolds {kind : EntityKind}
    (revision : Revision environment before after kind)
    (fresh : environment.Fresh [] before) (holds : before.tables.HistoryHolds) :
    after.tables.HistoryHolds := by
  cases revision with
  | entity edits => exact edits.historyHolds fresh holds
  | observation edits => exact edits.historyHolds fresh holds

end Revisions

section Removals

variable {id : EntityId} {before middle after : Progress}

theorem Drops.historyHolds {keys : List Key} (drops : Drops keys before after)
    (holds : before.tables.HistoryHolds)
    (apart : ∀ key ∈ keys, key.kind ≠ .thing ∧ ¬Tables.IsHistory key.kind) :
    after.tables.HistoryHolds := by
  apply holds.frame
  intro kind place history
  ext row
  rw [drops, and_iff_left]
  intro key member depends
  obtain ⟨notThing, notHistory⟩ := apart key member
  rcases depends with rfl | refers
  · exact notHistory history
  · rcases history with rfl | rfl
    · simp [EntityKind.references] at refers
    · rcases List.mem_cons.1 refers with rfl | located
      · exact notThing rfl
      · obtain ⟨location, -, rfl⟩ := List.mem_map.1 located
        exact notHistory (.inl rfl)

theorem Drops.historyHolds_of_unreferred {key : Key} (drops : Drops [key] before after)
    (holds : before.tables.HistoryHolds) (plain : ¬Tables.IsHistory key.kind)
    (unreferred : ∀ kind id row, before.tables.find? kind id = some row →
      key ∉ kind.references row) : after.tables.HistoryHolds := by
  apply holds.frame
  intro kind id history
  apply drops.find?_of_unreferred unreferred
  rintro rfl
  exact plain history

theorem Disowns.historyHolds {owner : Key} {ids : List EntityId}
    (disowns : Disowns owner ids before after) (holds : before.tables.HistoryHolds) :
    after.tables.HistoryHolds := by
  apply disowns.drops.historyHolds holds
  rw [List.forall_mem_map]
  simp [Tables.IsHistory]

theorem Forgets.historyHolds {ids : List EntityId} (forgets : Forgets ids before after)
    (holds : before.tables.HistoryHolds) : after.tables.HistoryHolds := by
  intro place row found historical member
  rw [forgets.locations] at found
  obtain ⟨old, oldFound, rfl⟩ := Option.map_eq_some_iff.1 found
  obtain ⟨unforgotten, listed⟩ := IdSet.mem_foldl_erase_iff.1 member
  have there := holds place old oldFound historical listed
  have stays : historical ∉ ids := fun gone => unforgotten (List.mem_filter.2 ⟨gone, there⟩)
  rwa [Tables.records, forgets.records, if_neg stays]

theorem Departs.historyHolds {location : Location} (departs : Departs id location before after)
    (holds : before.tables.HistoryHolds) : after.tables.HistoryHolds := by
  intro place row found historical member
  rw [departs.locations] at found
  split at found
  next => contradiction
  next elsewhere =>
    obtain ⟨record, recordFound, located⟩ :=
      Tables.records_iff.1 (holds place row found historical member)
    have remains : place ∈ (record.locations.erase id).items :=
      IdSet.mem_erase_iff.2 ⟨elsewhere, located⟩
    have inhabited : (record.locations.erase id).items.isEmpty = false :=
      List.isEmpty_eq_false_iff.2 (List.ne_nil_of_mem remains)
    rw [Tables.records_iff, departs.records, recordFound, Option.bind_some]
    split
    next =>
      rw [HistoricalLocation.leaving, inhabited]
      exact ⟨_, rfl, remains⟩
    next => exact ⟨record, rfl, located⟩

theorem Updates.historyHolds {kind : EntityKind} {f : kind.Entity → kind.Entity}
    {ids : List EntityId} (updates : Updates kind f ids before after)
    (holds : before.tables.HistoryHolds) (plain : ¬Tables.IsHistory kind) :
    after.tables.HistoryHolds := by
  apply holds.frame
  intro other id history
  apply updates.others
  rintro rfl
  exact plain history

theorem Removal.historyHolds {kind : EntityKind} (removal : Removal id before after kind)
    (holds : before.tables.HistoryHolds) : after.tables.HistoryHolds := by
  cases removal with
  | thing disowns forgets drops =>
    exact drops.historyHolds_of_unreferred (forgets.historyHolds (disowns.historyHolds holds))
      (by simp [Tables.IsHistory]) (disowns.unreferred_of_forgets forgets)
  | location departs => exact departs.historyHolds holds
  | historicalLocation forgets => exact forgets.historyHolds holds
  | sensor disowns drops =>
    exact drops.historyHolds (disowns.historyHolds holds) (by simp [Tables.IsHistory])
  | observedProperty disowns drops =>
    exact drops.historyHolds (disowns.historyHolds holds) (by simp [Tables.IsHistory])
  | datastream drops => exact drops.historyHolds holds (by simp [Tables.IsHistory])
  | feature drops covered rebounds =>
    have dropped := drops.historyHolds holds (by simp [Tables.IsHistory])
    exact rebounds.historyHolds dropped (by simp [Tables.IsHistory])
  | observation observation found drops repoints rebounds =>
    have dropped := drops.historyHolds holds (by simp [Tables.IsHistory])
    have repointed := repoints.historyHolds dropped (by simp [Tables.IsHistory])
    exact rebounds.historyHolds repointed (by simp [Tables.IsHistory])

end Removals

theorem Alteration.historyHolds {environment : Environment} {before after : Progress}
    {request : ChangeRequest} (alteration : Alteration environment before after request)
    (fresh : environment.Fresh request.keys before) (distinct : request.keys.Nodup)
    (holds : before.tables.HistoryHolds) : after.tables.HistoryHolds := by
  cases alteration with
  | created creation => exact creation.historyHolds fresh distinct holds
  | revised revision => exact revision.historyHolds fresh holds
  | removed removal => exact removal.historyHolds holds

namespace Store

theorem Reachable.historyHolds {store : Store}
    (reachable : store.Reachable fun request => request.keys.Nodup) : store.tables.HistoryHolds :=
  reachable.tables_induction Tables.historyHolds_empty
    fun _ _ _ _ distinct fresh _ holds alteration =>
      alteration.historyHolds fresh distinct holds

/-- In every store that is reached by requests whose bodies differ in their keys, a location is
there and lists a historical location just if the historical location is there and at it. -/
theorem reachable_history {store : Store}
    (reachable : store.Reachable fun request => request.keys.Nodup) (id historical : EntityId) :
    (∃ location : Location, store.tables.find? .location id = some location ∧
      historical ∈ location.historicalLocations.items) ↔
    ∃ row : HistoricalLocation, store.tables.find? .historicalLocation historical = some row ∧
      id ∈ row.locations.items := by
  constructor
  case mp =>
    rintro ⟨location, found, member⟩
    exact Tables.records_iff.1 (reachable.historyHolds id location found historical member)
  case mpr =>
    rintro ⟨row, found, located⟩
    obtain rfl : row.id = historical := Tables.idOf_of_find? found
    exact (reachable.linked .historicalLocation row.id row found).listed id located

end Store

/-! A thing that is made together with its location. -/
namespace LocatedThing

open FirstObservation

def locationBody : Json :=
  described [("@iot.id", .string "l"), ("encodingType", .string "e"),
    ("location", .object [("type", .string "MultiPoint"), ("coordinates", .array [])])]

def body : Json :=
  described [("@iot.id", .string "t"), ("Locations", .array [locationBody])]

def draft : ThingDraft :=
  ⟨some ⟨"t"⟩, some "n", some "d", none,
    some [.body ⟨some ⟨"l"⟩, some "n", some "d", some "e", some (.bare (.multiPoint [])), none,
      none, none⟩], none, none⟩

theorem read_location : LocationDraft.ofJson? locationBody =
    some ⟨some ⟨"l"⟩, some "n", some "d", some "e", some (.bare (.multiPoint [])), none, none,
      none⟩ := by
  rw [LocationDraft.ofJson?]
  rfl

theorem read_body : ThingDraft.ofJson? body = some draft := by
  have locations : body.inners? ThingDraft.names "Locations" =
      some (some [⟨locationBody, by decide⟩]) := rfl
  rw [ThingDraft.ofJson?, locations]
  simp only [Option.bind_eq_bind, Option.bind_some, Option.mapM_some, List.mapM_cons,
    List.mapM_nil, read_location]
  rfl

def request : ChangeRequest :=
  .create .thing body

def store : Store :=
  (Store.change ⟨{}, 0⟩ environment (Change.ofRequest request)).2

theorem keys_request : request.keys = [⟨.thing, ⟨"t"⟩⟩, ⟨.location, ⟨"l"⟩⟩] := by
  simp only [request, ChangeRequest.keys, Outline.ofJson, read_body]
  rfl

theorem reachable {allowed : ChangeRequest → Prop} (isAllowed : allowed request) :
    store.Reachable allowed := by
  refine .change environment request .empty isAllowed (fresh_empty ?_)
  rw [keys_request]
  rintro key member number same
  have texts : List.replicate number '+' = key.id.text.toList := by
    simpa [environment] using congrArg (fun id => id.text.toList) same
  have letter : key.id.text.toList = ['t'] ∨ key.id.text.toList = ['l'] := by
    rcases List.mem_cons.1 member with rfl | member
    · exact .inl (by decide)
    · rw [List.mem_singleton.1 member]
      exact .inr (by decide)
  rcases letter with letter | letter
  all_goals
    rw [letter] at texts
    have first := List.mem_of_mem_head? (congrArg List.head? texts)
    exact absurd (List.eq_of_mem_replicate first) (by decide)

theorem location_row : (store.tables.find? .location ⟨"l"⟩).map
    (fun location : Location => location.historicalLocations.items) =
      some [environment.fresh 1] := by
  unfold store Store.change Change.start request
  simp only [Change.ofRequest, Change.create, Change.draft, read_body]
  decide +kernel

end LocatedThing

namespace Store

open LocatedThing in
/-- The move of a new thing to its location is in the history of the location. -/
theorem reachable_history_located_thing :
    request.keys.Nodup ∧ ∃ row : HistoricalLocation,
      store.tables.find? .historicalLocation (FirstObservation.environment.fresh 1) = some row ∧
        ⟨"l"⟩ ∈ row.locations.items := by
  have distinct : request.keys.Nodup := by
    rw [keys_request]
    decide
  obtain ⟨location, found, listed⟩ := Option.map_eq_some_iff.1 location_row
  refine ⟨distinct, (reachable_history (reachable distinct) ⟨"l"⟩ _).1 ⟨location, found, ?_⟩⟩
  rw [listed]
  exact List.mem_singleton_self _

end Store

end SensorThings
