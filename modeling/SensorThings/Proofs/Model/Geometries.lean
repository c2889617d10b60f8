import SensorThings.Geometry.GeoJson
import SensorThings.Proofs.Binary64.Rounding
import SensorThings.Proofs.Filter.Comparison
import SensorThings.Proofs.Json.Numbers
import SensorThings.Proofs.Sequencing

/-!
Equality of geometries, and the geometries that JSON texts hold. Equality compares coordinates as
numbers: the zeros are equal and a NaN is equal to nothing, so it is transitive, and reflexive for
geometries of finite coordinates.
-/
namespace SensorThings

namespace Binary64

theorem isFinite_ofInt {value : Int} (least : -9223372036854775808 ≤ value)
    (most : value < 18446744073709551616) : isFinite (ofInt value) = true := by
  have bound : nearestBits value.natAbs 0 ≤ nearestBits 18446744073709551616 0 :=
    nearestBits_mono (by omega) 0
  have finite : nearestBits 18446744073709551616 0 < infinityBits := by decide +kernel
  rw [isFinite, ofInt, magnitude_ofDyadic, decide_eq_true_eq]
  exact bound.trans_lt finite

theorem same_iff {left right : Float} :
    same left right = true ↔
      isNaN left = false ∧ isNaN right = false ∧ numericKey left = numericKey right := by
  unfold same compare?
  cases isNaN left <;> cases isNaN right <;> simp

@[simp]
theorem same_self {value : Float} (finite : isFinite value = true) : same value value = true := by
  have number : isNaN value = false := by
    rw [isFinite, decide_eq_true_eq] at finite
    rw [isNaN, decide_eq_false_iff_not]
    omega
  exact same_iff.2 ⟨number, number, rfl⟩

theorem same_trans {first second third : Float} (left : same first second = true)
    (right : same second third = true) : same first third = true := by
  rw [same_iff] at *
  exact ⟨left.1, right.2.1, left.2.2.trans right.2.2⟩

end Binary64

theorem Position.same_trans {first second third : Position} (left : first.same second = true)
    (right : second.same third = true) : first.same third = true := by
  simp only [same, Bool.and_eq_true] at *
  exact ⟨Binary64.same_trans left.1 right.1, Binary64.same_trans left.2 right.2⟩

namespace Geometry

section Lists

variable {α : Type} {same : α → α → Bool}

theorem sameLists_trans
    (trans : ∀ {first second third}, same first second = true → same second third = true →
      same first third = true)
    {first second third : List α} (left : sameLists same first second = true)
    (right : sameLists same second third = true) : sameLists same first third = true := by
  induction first generalizing second third with
  | nil =>
    cases second with
    | nil => exact right
    | cons => contradiction
  | cons item rest ih =>
    cases second with
    | nil => contradiction
    | cons other others =>
      cases third with
      | nil => contradiction
      | cons last lasts =>
        simp only [sameLists, Bool.and_eq_true] at left right ⊢
        exact ⟨trans left.1 right.1, ih left.2 right.2⟩

end Lists

theorem same_trans {first second third : Geometry} (left : first.same second = true)
    (right : second.same third = true) : first.same third = true := by
  have positions := @sameLists_trans _ _ @Position.same_trans
  have lines := @sameLists_trans _ _ @positions
  cases first <;> cases second <;> first | contradiction | skip
  all_goals cases third <;> first | contradiction | skip
  case point => exact Position.same_trans left right
  case multiPoint | lineString => exact positions left right
  case multiLineString | polygon => exact lines left right
  case multiPolygon => exact @sameLists_trans _ _ @lines _ _ _ left right

end Geometry

def Position.IsFinite (position : Position) : Prop :=
  Binary64.isFinite position.x = true ∧ Binary64.isFinite position.y = true

@[simp] theorem Position.IsFinite.same_self {position : Position} (finite : position.IsFinite) :
    position.same position = true := by
  rw [same, Binary64.same_self finite.1, Binary64.same_self finite.2, Bool.and_self]

namespace Geometry

/-- JSON has a number for each coordinate. -/
def IsProper (geometry : Geometry) : Prop :=
  ∀ position ∈ geometry.positions, position.IsFinite

@[simp] theorem sameLists_self {α : Type} {same : α → α → Bool} {items : List α}
    (each : ∀ item ∈ items, same item item = true) : sameLists same items items = true := by
  induction items with
  | nil => rfl
  | cons item rest ih =>
    rw [List.forall_mem_cons] at each
    rw [sameLists, each.1, ih each.2, Bool.and_self]

@[simp] theorem IsProper.same_self {geometry : Geometry} (proper : geometry.IsProper) :
    geometry.same geometry = true := by
  have line {positions : List Position} (finite : ∀ position ∈ positions, position.IsFinite) :
      sameLists Position.same positions positions = true :=
    sameLists_self fun position member => (finite position member).same_self
  have lines {lines : List (List Position)}
      (finite : ∀ position ∈ lines.flatten, position.IsFinite) :
      sameLists (sameLists Position.same) lines lines = true :=
    sameLists_self fun _ member => line fun position inside =>
      finite position (List.mem_flatten_of_mem member inside)
  cases geometry with
  | point position => exact (proper position List.mem_cons_self).same_self
  | multiPoint | lineString => exact line proper
  | multiLineString | polygon => exact lines proper
  | multiPolygon polygons =>
    simp only [IsProper, positions, List.forall_mem_flatten] at proper
    exact sameLists_self fun polygon member =>
      lines (List.forall_mem_flatten.2 (proper polygon member))

end Geometry

theorem Position.isFinite_of_ofJson? {json : Json} {position : Position}
    (fits : json.numbersFit = true) (read : ofJson? json = some position) : position.IsFinite := by
  have number {json : Json} {value : Float} (fits : json.numbersFit = true)
      (read : ofJson?.number? json = some value) : Binary64.isFinite value = true := by
    unfold ofJson?.number? at read
    split at read
    next whole =>
      obtain rfl := Option.some.inj read
      obtain ⟨least, most⟩ := Json.numbersFit_int_iff.1 fits
      exact Binary64.isFinite_ofInt least most
    next =>
      obtain rfl := Option.some.inj read
      exact fits
    next => contradiction
  unfold ofJson? at read
  split at read
  next x y =>
    rw [Json.numbersFit, Json.itemsFit_iff] at fits
    obtain ⟨first, firstRead, read⟩ := Option.bind_eq_some_iff.1 read
    obtain ⟨second, secondRead, same⟩ := Option.bind_eq_some_iff.1 read
    obtain rfl := Option.some.inj same
    exact ⟨number (fits x (by simp)) firstRead, number (fits y (by simp)) secondRead⟩
  next => contradiction

namespace Geometry

theorem forall_of_list? {α : Type} {item? : Json → Option α} {holds : α → Prop}
    (each : ∀ {json value}, json.numbersFit = true → item? json = some value → holds value)
    {json : Json} {values : List α} (fits : json.numbersFit = true)
    (read : list? item? json = some values) : ∀ value ∈ values, holds value := by
  unfold list? at read
  split at read
  next items =>
    rw [Json.numbersFit, Json.itemsFit_iff] at fits
    rw [mapM_eq_some_iff_map] at read
    intro value member
    obtain ⟨item, inItems, itemRead⟩ := List.mem_map.1 (read ▸ List.mem_map_of_mem member)
    exact each (fits item inItems) itemRead
  next => contradiction

theorem isProper_of_ofTyped? {typeName : String} {coordinates : Json} {geometry : Geometry}
    (fits : coordinates.numbersFit = true) (read : ofTyped? typeName coordinates = some geometry) :
    geometry.IsProper := by
  have line {json : Json} {values : List Position} (fits : json.numbersFit = true)
      (read : list? Position.ofJson? json = some values) : ∀ value ∈ values, value.IsFinite :=
    forall_of_list? Position.isFinite_of_ofJson? fits read
  have lines {json : Json} {values : List (List Position)} (fits : json.numbersFit = true)
      (read : lines? json = some values) : ∀ value ∈ values.flatten, value.IsFinite :=
    List.forall_mem_flatten.2 (forall_of_list? line fits read)
  unfold ofTyped? at read
  split at read
  · obtain ⟨position, positionRead, rfl⟩ := Option.map_eq_some_iff.1 read
    exact List.forall_mem_singleton.2 (Position.isFinite_of_ofJson? fits positionRead)
  split at read
  · obtain ⟨values, valuesRead, rfl⟩ := Option.map_eq_some_iff.1 read
    exact line fits valuesRead
  split at read
  · obtain ⟨values, valuesRead, rfl⟩ := Option.map_eq_some_iff.1 read
    exact line fits valuesRead
  split at read
  · obtain ⟨values, valuesRead, rfl⟩ := Option.map_eq_some_iff.1 read
    exact lines fits valuesRead
  split at read
  · obtain ⟨values, valuesRead, rfl⟩ := Option.map_eq_some_iff.1 read
    exact lines fits valuesRead
  split at read
  · obtain ⟨values, valuesRead, rfl⟩ := Option.map_eq_some_iff.1 read
    have each := forall_of_list? lines fits valuesRead
    simpa only [IsProper, positions, List.forall_mem_flatten] using each
  · contradiction

theorem isProper_of_ofJson? {json : Json} {geometry : Geometry} (fits : json.numbersFit = true)
    (read : ofJson? json = some geometry) : geometry.IsProper := by
  unfold ofJson? at read
  split at read
  next members =>
    rw [Json.numbersFit] at fits
    split at read
    next found => exact isProper_of_ofTyped? (Json.numbersFit_of_lookup fits found) read
    next => contradiction
  next =>
    rw [Json.numbersFit, Json.itemsFit_iff] at fits
    exact isProper_of_ofTyped? (fits _ (by simp)) read
  next => contradiction

@[simp] theorem numbersFit_withNamedType {json : Json} (fits : json.numbersFit = true) :
    (withNamedType json).numbersFit = true := by
  have named {index : Int} {other : Json} (fits : other.numbersFit = true) :
      (withNamedType.named index other).numbersFit = true := by
    unfold withNamedType.named
    split
    · rfl
    · exact fits
  unfold withNamedType
  split
  next members =>
    rw [Json.numbersFit, Json.membersFit_iff] at fits ⊢
    intro member inside
    obtain ⟨⟨key, value⟩, among, rfl⟩ := List.mem_map.1 inside
    dsimp only
    split
    · exact named (fits _ among)
    · exact fits _ among
  next index rest =>
    rw [Json.numbersFit, Json.itemsFit_iff, List.forall_mem_cons] at fits ⊢
    exact ⟨named fits.1, fits.2⟩
  next => exact fits

end Geometry

theorem SentGeometry.isProper_of_ofJson? {json : Json} {sent : SentGeometry}
    (fits : json.numbersFit = true) (read : ofJson? json = some sent) : sent.geometry.IsProper := by
  unfold ofJson? at read
  split at read
  next geometry bareRead =>
    obtain rfl := Option.some.inj read
    exact Geometry.isProper_of_ofJson? (Geometry.numbersFit_withNamedType fits) bareRead
  next =>
    obtain ⟨inner, found, read⟩ := Option.bind_eq_some_iff.1 read
    obtain ⟨geometry, innerRead, same⟩ := Option.bind_eq_some_iff.1 read
    obtain rfl := Option.some.inj same
    have innerFits := Json.numbersFit_of_member? fits found
    exact Geometry.isProper_of_ofJson? (Geometry.numbersFit_withNamedType innerFits) innerRead

end SensorThings
