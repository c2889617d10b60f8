import SensorThings.Proofs.Change.Reachable
import SensorThings.Proofs.Change.Surviving

/-!
Shared entities. Datasets, units and formats are looked up before one is made, and nothing rewrites
what they are looked up by; so no two of them have the same key, whatever identifiers are drawn.
-/
namespace SensorThings

namespace EntityKind

/-- An entity shares no key with another that an earlier one did not share. -/
def KeepsKey (kind : EntityKind) (old new : kind.Entity) : Prop :=
  ∀ other, kind.SharesKey new other → kind.SharesKey old other

theorem KeepsKey.refl (kind : EntityKind) (entity : kind.Entity) : kind.KeepsKey entity entity :=
  fun _ shares => shares

theorem SharesKey.symm {kind : EntityKind} {left right : kind.Entity}
    (shares : kind.SharesKey left right) : kind.SharesKey right left := by
  cases kind with
  | dataset => exact ⟨shares.1.symm, shares.2.symm⟩
  | unitOfMeasurement =>
    obtain ⟨symbol, leftHas, rightHas⟩ := shares
    exact ⟨symbol, rightHas, leftHas⟩
  | format => exact Eq.symm shares
  | _ => exact shares.elim

theorem Retains.keepsKey {kind : EntityKind} {old new : kind.Entity}
    (retains : kind.Retains old new) : kind.KeepsKey old new := by
  intro other shares
  cases kind with
  | dataset | unitOfMeasurement | format => exact retains.elim
  | _ => exact shares

theorem Diminishes.keepsKey {kind : EntityKind} {old new : kind.Entity}
    (diminishes : kind.Diminishes old new) : kind.KeepsKey old new := by
  intro other shares
  cases kind with
  | dataset =>
    obtain rfl := diminishes
    exact shares
  | unitOfMeasurement | format => exact diminishes.elim
  | _ => exact shares

end EntityKind

namespace Tables

/-- No two entities of a kind share a key. -/
def Keyed (tables : Tables) : Prop :=
  ∀ kind left right (first second : kind.Entity), tables.find? kind left = some first →
    tables.find? kind right = some second → kind.SharesKey first second → left = right

namespace Keyed

variable {before after : Tables}

theorem empty : Keyed {} := by
  intro kind left right first second found
  cases kind <;> contradiction

theorem of_rows (keyed : before.Keyed)
    (rows : ∀ kind id (new : kind.Entity), after.find? kind id = some new →
      ∃ old, before.find? kind id = some old ∧ kind.KeepsKey old new) : after.Keyed := by
  intro kind left right first second leftFound rightFound shares
  obtain ⟨oldFirst, firstWas, keepsFirst⟩ := rows kind left first leftFound
  obtain ⟨oldSecond, secondWas, keepsSecond⟩ := rows kind right second rightFound
  exact keyed kind left right oldFirst oldSecond firstWas secondWas
    (keepsSecond _ (keepsFirst _ shares).symm).symm

theorem remove (keyed : before.Keyed) (kind : EntityKind) (id : EntityId) :
    (before.remove kind id).Keyed := by
  refine keyed.of_rows fun other place row found => ⟨row, ?_, .refl other row⟩
  by_cases same : other = kind
  · subst same
    rw [find?_remove] at found
    split at found
    · contradiction
    · exact found
  · rwa [find?_remove_of_ne _ _ _ same] at found

theorem put (keyed : before.Keyed) {kind : EntityKind} {entity : kind.Entity}
    (unshared : ∀ id other, id ≠ kind.idOf entity → before.find? kind id = some other →
      ¬kind.SharesKey entity other) : (before.put kind entity).Keyed := by
  intro other left right first second leftFound rightFound shares
  by_cases same : other = kind
  · subst same
    rw [find?_put] at leftFound rightFound
    split at leftFound <;> split at rightFound
    next here there => rw [← here, ← there]
    next here there =>
      obtain rfl := Option.some.inj leftFound
      exact absurd shares (unshared right second (Ne.symm there) rightFound)
    next here there =>
      obtain rfl := Option.some.inj rightFound
      exact absurd shares.symm (unshared left first (Ne.symm here) leftFound)
    next => exact keyed other left right first second leftFound rightFound shares
  · rw [find?_put_of_ne _ _ _ same] at leftFound rightFound
    exact keyed other left right first second leftFound rightFound shares

theorem rewrite (keyed : before.Keyed) {kind : EntityKind} {id : EntityId} {old new : kind.Entity}
    (found : before.find? kind id = some old) (identified : kind.idOf new = kind.idOf old)
    (keeps : kind.KeepsKey old new) : (before.put kind new).Keyed := by
  apply keyed.put
  intro place other apart there shares
  rw [identified] at apart
  exact apart (keyed kind place _ other old there (find?_idOf found) (keeps other shares).symm)

end Keyed

end Tables

section

variable {kind : EntityKind} {environment : Environment} {before after : Progress}

theorem Updates.keyed {f : kind.Entity → kind.Entity} {ids : List EntityId}
    (updates : Updates kind f ids before after) (keeps : ∀ row, kind.KeepsKey row (f row))
    (keyed : before.tables.Keyed) : after.tables.Keyed := by
  apply keyed.of_rows
  intro other id new found
  by_cases same : other = kind
  · subst same
    rw [updates.find?] at found
    obtain ⟨old, there, rfl⟩ := Option.map_eq_some_iff.1 found
    refine ⟨old, there, ?_⟩
    split
    · exact keeps old
    · exact .refl _ old
  · rw [updates.others id same] at found
    exact ⟨new, found, .refl other new⟩

theorem Updates.repointed_keyed {tables : Tables} {ids : List EntityId}
    (updates : Updates .dataset tables.repointed ids before after)
    (keyed : before.tables.Keyed) : after.tables.Keyed := by
  apply updates.keyed _ keyed
  intro row other shares
  rw [Tables.repointed, Dataset.summarize_eq] at shares
  exact shares

theorem Updates.rebounded_keyed {tables : Tables} {ids : List EntityId}
    (updates : Updates .datastream tables.rebounded ids before after)
    (keyed : before.tables.Keyed) : after.tables.Keyed :=
  updates.keyed (fun _ _ shares => shares) keyed

theorem Lists.keyed {historical : EntityId} {locations : List EntityId}
    (lists : Lists historical locations before after) (keyed : before.tables.Keyed) :
    after.tables.Keyed :=
  lists.updates.keyed (fun _ _ shares => shares) keyed

theorem Creation.keyed {outline : Outline}
    (creation : Creation environment outline before after) (keyed : before.tables.Keyed) :
    after.tables.Keyed := by
  induction creation with
  | nil => exact keyed
  | append _ _ first second => exact second (first keyed)
  | bare kind entity _ claimed unshared =>
    rw [claimed.claim_save_tables]
    exact keyed.put fun id other _ => unshared id other
  | feature feature _ claimed =>
    rw [claimed.claim_save_tables]
    exact keyed.put fun _ _ _ _ shares => shares
  | repeated => exact keyed
  | derived location feature _ _ chosen =>
    rw [chosen.featureId_save_tables]
    exact keyed.put fun _ _ _ _ shares => shares
  | adopted | moved =>
    rw [Progress.save_tables]
    exact keyed.put fun _ _ _ _ shares => shares
  | recorded historical claimed _ _ _ ran ih =>
    apply ran.record.keyed
    rw [Progress.save_tables]
    rw [← claimed.claim_tables] at keyed
    exact (ih keyed).put fun _ _ _ _ shares => shares
  | extended historical location ran =>
    obtain ⟨found, -, lists⟩ := ran.extendRecord
    apply lists.keyed
    rw [Progress.save_tables]
    exact keyed.put fun _ _ _ _ shares => shares
  | datastream datastream claimed _ _ _ ih =>
    rw [Progress.save_tables]
    rw [← claimed.claim_tables] at keyed
    exact (ih keyed).put fun _ _ _ _ shares => shares
  | dataset stream dataset _ _ _ _ _ _ unpaired ih =>
    rw [Progress.save_tables, Progress.draw_tables]
    refine (ih keyed).put fun id other _ found shares => unpaired id other found ?_
    exact ⟨shares.1.symm, shares.2.symm⟩
  | observation observation stream datastream dataset raw claimed _ _ _ _ _ _ found _ left right =>
    rw [← claimed.claim_tables] at keyed
    unfold Progress.addObservation
    simp only [Progress.save_tables]
    have written := @Tables.Keyed.put _ (right (left keyed)) .observation observation
      fun _ _ _ _ shares => shares
    have covered := @Tables.Keyed.put _ written .datastream (datastream.cover observation)
      fun _ _ _ _ shares => shares
    refine @Tables.Keyed.rewrite _ covered .dataset observation.dataset dataset _ ?_ rfl
      fun _ shares => shares
    rw [Tables.find?_put_of_ne _ _ _ (by decide), Tables.find?_put_of_ne _ _ _ (by decide), found]

theorem Revision.keyed (revision : Revision environment before after kind)
    (keyed : before.tables.Keyed) : after.tables.Keyed := by
  cases revision with
  | entity edits =>
    obtain ⟨old, new, supplied, found, identified, retains, -, -, followed⟩ := edits
    apply followed.keyed
    rw [Progress.save_tables]
    exact (supplied.keyed keyed).rewrite found identified retains.keepsKey
  | observation edits =>
    obtain ⟨old, new, stream, -, -, refocuses, -, repoints, rebounds⟩ := edits
    apply rebounds.rebounded_keyed
    apply repoints.repointed_keyed
    rw [Progress.save_tables]
    exact (refocuses.supplied.keyed keyed).put fun _ _ _ _ shares => shares

end

theorem keyed_survivesRemoval : SurvivesRemoval Tables.Keyed where
  removed _ kind id keyed := keyed.remove kind id
  diminished _ _ _ _ _ keyed found diminishes :=
    keyed.rewrite found diminishes.identified diminishes.keepsKey
  summarizeDataset _ _ _ _ _ ran keyed :=
    ⟨(Change.Returns.summarizeDataset ran).repointed_keyed keyed, trivial⟩
  summarizeDatastream _ _ _ _ _ ran keyed :=
    ⟨(Change.Returns.summarizeDatastream ran).rebounded_keyed keyed, trivial⟩

theorem Change.preserves_keyed (request : ChangeRequest) :
    (Change.ofRequest request).Preserves Tables.Keyed fun _ => True := by
  intro environment before value after ran keyed
  refine ⟨?_, trivial⟩
  cases request with
  | create kind body =>
    simp only [Change.ofRequest, returns_bind, returns_pure] at ran
    obtain ⟨id, _, made, -, rfl⟩ := ran
    exact (made_create made).creation.keyed keyed
  | revise kind id body =>
    simp only [Change.ofRequest, returns_bind, returns_pure] at ran
    obtain ⟨_, _, revised, -, rfl⟩ := ran
    exact (Returns.revise revised).keyed keyed
  | replace kind id body =>
    simp only [Change.ofRequest, replace, returns_bind, returns_throw, and_false, false_and,
      exists_false] at ran
  | remove kind id =>
    simp only [Change.ofRequest, returns_bind, returns_pure] at ran
    obtain ⟨_, _, removed, -, rfl⟩ := ran
    exact (keyed_survivesRemoval.remove kind id removed keyed).1

namespace Store

/-- Requests, each a transaction of its own, lead from the empty store to this one, whatever
identifiers are drawn for them. -/
inductive Attained : Store → Prop where
  | empty : Attained ⟨{}, 0⟩
  | change {store : Store} (environment : Environment) (request : ChangeRequest)
      (attained : Attained store) :
      Attained (store.change environment (Change.ofRequest request)).2

theorem Reachable.attained {allowed : ChangeRequest → Prop} {store : Store}
    (reachable : store.Reachable allowed) : store.Attained := by
  induction reachable with
  | empty => exact .empty
  | change environment request _ _ _ ih => exact .change environment request ih

theorem Attained.keyed {store : Store} (attained : store.Attained) : store.tables.Keyed := by
  induction attained with
  | empty => exact .empty
  | change _ request _ ih =>
    exact keeps_of_returns ih fun _ _ ran => (Change.preserves_keyed request ran ih).1

/-- In every store that requests lead to, a datastream and a feature have one dataset at most, an
observation type has one format, and a symbol has one unit. -/
theorem attained_keys {store : Store} (attained : store.Attained) :
    (∀ left right (first second : Dataset), store.tables.find? .dataset left = some first →
      store.tables.find? .dataset right = some second → first.datastream = second.datastream →
      first.feature = second.feature → left = right) ∧
    (∀ left right (first second : Format), store.tables.find? .format left = some first →
      store.tables.find? .format right = some second → first.format = second.format →
      left = right) ∧
    ∀ left right (first second : UnitOfMeasurement) symbol,
      store.tables.find? .unitOfMeasurement left = some first →
      store.tables.find? .unitOfMeasurement right = some second → first.symbol = some symbol →
      second.symbol = some symbol → left = right := by
  have keyed := attained.keyed
  refine ⟨?_, ?_, ?_⟩
  · intro left right first second leftFound rightFound datastream feature
    exact keyed .dataset left right first second leftFound rightFound ⟨datastream, feature⟩
  · intro left right first second leftFound rightFound same
    exact keyed .format left right first second leftFound rightFound same
  · intro left right first second symbol leftFound rightFound leftHas rightHas
    exact keyed .unitOfMeasurement left right first second leftFound rightFound
      ⟨symbol, leftHas, rightHas⟩

end Store

namespace EarlierObservation

open FirstObservation (environment later)

theorem shared :
    (store.tables.entities .observation).map (fun row => (row.id, row.dataset)) =
        [(later.fresh 1, environment.fresh 9), (environment.fresh 7, environment.fresh 9)] ∧
      (store.tables.entities .datastream).map (fun row => (row.id, row.unit, row.format)) =
        [(environment.fresh 2, environment.fresh 5, environment.fresh 6),
          (environment.fresh 10, environment.fresh 5, environment.fresh 6)] := by
  unfold store observed Store.change Change.start request earlier
  simp only [Change.ofRequest, Change.create, Change.draft, read_body, read_first]
  decide +kernel

theorem found :
    (store.tables.find? .dataset (environment.fresh 9)).map (fun (dataset : Dataset) =>
        (dataset.datastream, dataset.feature)) = some (environment.fresh 2, environment.fresh 8) ∧
      (store.tables.find? .format (environment.fresh 6)).map Format.format =
        some ObservationType.text.uri ∧
      (store.tables.find? .unitOfMeasurement (environment.fresh 5)).map
        UnitOfMeasurement.symbol = some (some "C") := by
  unfold store observed Store.change Change.start request earlier
  simp only [Change.ofRequest, Change.create, Change.draft, read_body, read_first]
  decide +kernel

end EarlierObservation

namespace Store

open FirstObservation (environment later) in
open EarlierObservation in
/-- Two observations share the dataset of their stream and feature, and two streams the format of
their type and the unit of their symbol; none of them is there a second time. -/
theorem attained_keys_earlier_observation :
    store.Attained ∧
      (store.tables.entities .observation).map (fun row => (row.id, row.dataset)) =
        [(later.fresh 1, environment.fresh 9), (environment.fresh 7, environment.fresh 9)] ∧
      (store.tables.entities .datastream).map (fun row => (row.id, row.unit, row.format)) =
        [(environment.fresh 2, environment.fresh 5, environment.fresh 6),
          (environment.fresh 10, environment.fresh 5, environment.fresh 6)] ∧
      (∀ id (row : Dataset), store.tables.find? .dataset id = some row →
        row.datastream = environment.fresh 2 → row.feature = environment.fresh 8 →
        id = environment.fresh 9) ∧
      (∀ id (row : Format), store.tables.find? .format id = some row →
        row.format = ObservationType.text.uri → id = environment.fresh 6) ∧
      ∀ id (row : UnitOfMeasurement), store.tables.find? .unitOfMeasurement id = some row →
        row.symbol = some "C" → id = environment.fresh 5 := by
  have attained : store.Attained :=
    Reachable.attained (reachable trivial trivial : store.Reachable fun _ => True)
  obtain ⟨grouped, typed, measured⟩ := found
  obtain ⟨dataset, datasetFound, keys⟩ := Option.map_eq_some_iff.1 grouped
  obtain ⟨datastream, feature⟩ := Prod.mk.inj keys
  obtain ⟨format, formatFound, isText⟩ := Option.map_eq_some_iff.1 typed
  obtain ⟨unit, unitFound, isC⟩ := Option.map_eq_some_iff.1 measured
  obtain ⟨datasets, formats, units⟩ := attained_keys attained
  refine ⟨attained, shared.1, shared.2, fun id row there ofStream ofFeature => ?_,
    fun id row there ofType => ?_, fun id row there ofSymbol => ?_⟩
  · exact datasets id _ row dataset there datasetFound (ofStream.trans datastream.symm)
      (ofFeature.trans feature.symm)
  · exact formats id _ row format there formatFound (ofType.trans isText.symm)
  · exact units id _ row unit "C" there unitFound ofSymbol isC

end Store

end SensorThings
