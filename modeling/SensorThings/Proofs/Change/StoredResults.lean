import SensorThings.Proofs.Change.Stored
import SensorThings.Proofs.Change.Typing
import SensorThings.Proofs.Draft.Represented

/-!
Results that are kept. Each is read again from what clients see of it; in a reachable store it is of
the variant that the type of its datastream selects now, the quantities among them are finite, and
every datastream has the format of its type.
-/
namespace SensorThings

/-- A quantity that is no gap is a finite double. -/
def ObservedValue.IsFinite (value : ObservedValue) : Prop :=
  ∀ number, value = .quantity (some number) → Binary64.isFinite number = true

theorem ObservedValue.IsStorable.isFinite {value : ObservedValue} (isStorable : value.IsStorable) :
    value.IsFinite := by
  rintro number rfl
  exact isStorable

namespace ObservedValue

@[simp] theorem numbersFit_toJson {value : ObservedValue} (isStorable : value.IsStorable) :
    value.toJson.numbersFit = true := by
  cases value with
  | quantity number =>
    cases number with
    | none => rfl
    | some double =>
      have finite : Binary64.isFinite double = true := isStorable
      rw [toJson, Json.double_of_isFinite finite, Json.numbersFit, finite]
  | count whole =>
    have bound : Text.fitsSigned whole = true := isStorable
    have limit : Nat.pow 2 63 = 9223372036854775808 := by decide
    simp only [Text.fitsSigned, limit, Bool.and_eq_true, decide_eq_true_eq] at bound
    rw [toJson, Json.numbersFit_int_iff]
    omega
  | category | text | boolean => rfl

end ObservedValue

/-- An accepted result stays what it is when a client sends back what it sees of it, which is
never null. -/
theorem ObservationType.result_seen {type : ObservationType} {raw : Json} {value : ObservedValue}
    (read : type.result raw = .ok value) (fits : raw.numbersFit = true) :
    type.result value.toJson = .ok value ∧ value.toJson ≠ .null ∧
      value.toJson.numbersFit = true ∧ value.IsFinite := by
  have isStorable := isStorable_of_result read fits
  exact ⟨ObservedValue.result_toJson (fits_of_result read) isStorable,
    ObservedValue.toJson_ne_null isStorable, ObservedValue.numbersFit_toJson isStorable,
    isStorable.isFinite⟩

/-- An integer that no signed 64 bits hold is kept as the double next to it, and read again. -/
theorem ObservationType.result_seen_beyond_signed :
    measurement.result (.int 9223372036854775808) =
        .ok (.quantity (some (Binary64.ofInt 9223372036854775808))) ∧
      measurement.result
          (ObservedValue.quantity (some (Binary64.ofInt 9223372036854775808))).toJson =
        .ok (.quantity (some (Binary64.ofInt 9223372036854775808))) := by
  have read : measurement.result (.int 9223372036854775808) =
      .ok (.quantity (some (Binary64.ofInt 9223372036854775808))) := rfl
  exact ⟨read, (result_seen read (by decide)).1⟩

/-- A request that a client can send: its body gives each identifier to one entity of a kind, and
its numbers are those that bodies have. -/
structure ChangeRequest.IsSound (request : ChangeRequest) : Prop where
  distinct : request.keys.Nodup
  numbersFit : request.numbersFit = true

namespace Store

theorem Reachable.typed {allowed : ChangeRequest → Prop} {store : Store}
    (reachable : store.Reachable allowed)
    (distinct : ∀ request, allowed request → request.keys.Nodup) : store.tables.Typed :=
  reachable.tables_induction Tables.typed_empty
    fun _ request _ _ isAllowed fresh linked typed alteration =>
      alteration.typed fresh (distinct request isAllowed) linked typed

/-- The result of an observation fits the type that its datastream has, and its quantity is finite,
as are those that datasets keep; the format of a datastream holds the URI of its type. -/
theorem reachable_results {store : Store} (reachable : store.Reachable ChangeRequest.IsSound) :
    (∀ id (observation : Observation), store.tables.find? .observation id = some observation →
      observation.result.IsFinite ∧
      ∃ stream : Datastream,
        store.tables.find? .datastream observation.datastream = some stream ∧
        stream.observationType.Fits observation.result) ∧
    (∀ id (dataset : Dataset) (pointer : ObservationPointer),
      store.tables.find? .dataset id = some dataset →
      dataset.firstObservation = some pointer ∨ dataset.lastObservation = some pointer →
      pointer.value.IsFinite) ∧
    ∀ id (stream : Datastream), store.tables.find? .datastream id = some stream →
      ∃ format : Format, store.tables.find? .format stream.format = some format ∧
        format.format = stream.observationType.uri := by
  have storable := reachable.storable fun _ isSound => isSound.numbersFit
  have typed := reachable.typed fun _ isSound => isSound.distinct
  refine ⟨fun id observation found => ?_, fun id dataset pointer found given => ?_, typed.formats⟩
  · exact ⟨(storable .observation id observation found).2.isFinite,
      typed.results id observation found⟩
  · have pointers := storable .dataset id dataset found
    rcases given with first | last
    · exact (pointers.1 pointer first).isFinite
    · exact (pointers.2 pointer last).isFinite

end Store

namespace FirstObservation

theorem isSound : request.IsSound where
  distinct := by
    rw [keys_request]
    exact List.nodup_nil
  numbersFit := by decide +kernel

end FirstObservation

namespace Store

open FirstObservation in
/-- The one observation of the store fits the type of its datastream. -/
theorem reachable_results_first_observation :
    ∃ (observation : Observation) (stream : Datastream),
      store.tables.find? .observation (environment.fresh 7) = some observation ∧
        store.tables.find? .datastream observation.datastream = some stream ∧
        stream.observationType.Fits observation.result := by
  obtain ⟨observation, found⟩ := Tables.contains_iff.1 observed
  obtain ⟨-, stream, streamFound, fits⟩ :=
    (reachable_results (reachable isSound)).1 _ observation found
  exact ⟨observation, stream, found, streamFound, fits⟩

end Store

end SensorThings
