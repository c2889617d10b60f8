import Mathlib
import SensorThings.Binary64.Arithmetic

/-!
Rounding to the nearest double keeps order: of two dyadic numbers on one grid the larger never
rounds to the smaller double. Integers in particular keep their order, though different ones may
meet in one double, from 2 ^ 53 on.
-/
namespace SensorThings.Binary64

open Float.Model.UnpackedFloat in
/-- Bits survive as a double unless they are those of a NaN, all of which become one. -/
@[simp] theorem toBits_ofBits {bits : UInt64} (number : bits.toNat % 2 ^ 63 ≤ infinityBits) :
    (Float.ofBits bits).toBits = bits := by
  have exact : @isNaNBits .binary64 bits.toBitVec = false := by
    rw [isNaNBits, decide_eq_false_iff_not]
    rintro ⟨exponent, mantissa⟩
    rw [unpackExponent_def] at exponent
    rw [unpackMantissa_def] at mantissa
    have biased : bits.toNat >>> 52 % 2 ^ 11 = 2047 := congrArg BitVec.toNat exponent
    have fraction : bits.toNat % 2 ^ 52 ≠ 0 := fun zero => mantissa (BitVec.eq_of_toNat_eq zero)
    rw [Nat.shiftRight_eq_div_pow] at biased
    simp only [infinityBits, Nat.pow_eq] at number
    omega
  have packed := @pack_unpack .binary64 bits.toBitVec (by decide)
  rw [exact] at packed
  exact UInt64.toBitVec_inj.1 packed

section

variable {value larger shift : Nat}

theorem div_le_shiftNearest (value shift : Nat) : value / 2 ^ shift ≤ shiftNearest value shift := by
  simp only [shiftNearest, Nat.pow_eq]
  split <;> omega

theorem shiftNearest_le (value shift : Nat) : shiftNearest value shift ≤ value / 2 ^ shift + 1 := by
  simp only [shiftNearest, Nat.pow_eq]
  split <;> omega

theorem shiftNearest_mono (le : value ≤ larger) :
    shiftNearest value shift ≤ shiftNearest larger shift := by
  rcases (Nat.div_le_div_right le : value / 2 ^ shift ≤ larger / 2 ^ shift).lt_or_eq with
    less | same
  · calc
      shiftNearest value shift ≤ value / 2 ^ shift + 1 := shiftNearest_le ..
      _ ≤ larger / 2 ^ shift := less
      _ ≤ shiftNearest larger shift := div_le_shiftNearest ..
  · -- The quotients agree, so the remainders are in order and only they decide.
    have remainders : value % 2 ^ shift ≤ larger % 2 ^ shift := by
      have := Nat.div_add_mod value (2 ^ shift)
      have := Nat.div_add_mod larger (2 ^ shift)
      rw [same] at *
      omega
    simp only [shiftNearest, Nat.pow_eq, same, Bool.or_eq_true, Bool.and_eq_true,
      decide_eq_true_eq, beq_iff_eq]
    split <;> split <;> omega

end

def grid (mantissa : Nat) (exponent : Int) : Int :=
  max (exponent + mantissa.log2 - 52) (-1074)

def significand (mantissa : Nat) (exponent unit : Int) : Nat :=
  if exponent ≤ unit then shiftNearest mantissa (unit - exponent).toNat
  else mantissa * 2 ^ (exponent - unit).toNat

theorem nearestBits_eq {mantissa : Nat} (nonzero : mantissa ≠ 0) (exponent : Int) :
    nearestBits mantissa exponent =
      min ((grid mantissa exponent + 1074).toNat * 2 ^ 52 +
        significand mantissa exponent (grid mantissa exponent)) infinityBits := by
  rw [nearestBits, if_neg nonzero]
  rfl

theorem nearestBits_le (mantissa : Nat) (exponent : Int) :
    nearestBits mantissa exponent ≤ infinityBits := by
  unfold nearestBits
  split
  · exact Nat.zero_le _
  · exact Nat.min_le_right ..

section

variable {mantissa larger : Nat} {exponent unit : Int}

theorem significand_mono (le : mantissa ≤ larger) :
    significand mantissa exponent unit ≤ significand larger exponent unit := by
  unfold significand
  split
  · exact shiftNearest_mono le
  · exact Nat.mul_le_mul_right _ le

theorem significand_le : significand mantissa exponent (grid mantissa exponent) ≤ 2 ^ 53 := by
  have size : mantissa < 2 ^ (mantissa.log2 + 1) := Nat.lt_log2_self
  have unit : exponent + mantissa.log2 - 52 ≤ grid mantissa exponent := Int.le_max_left ..
  unfold significand
  split
  · have digits : mantissa / 2 ^ (grid mantissa exponent - exponent).toNat < 2 ^ 53 := by
      rw [Nat.div_lt_iff_lt_mul (Nat.two_pow_pos _), ← Nat.pow_add]
      exact size.trans_le (Nat.pow_le_pow_right (by decide) (by omega))
    exact (shiftNearest_le ..).trans digits
  · have fits : mantissa.log2 + 1 + (exponent - grid mantissa exponent).toNat ≤ 53 := by omega
    calc
      _ ≤ 2 ^ (mantissa.log2 + 1) * 2 ^ (exponent - grid mantissa exponent).toNat :=
        Nat.mul_le_mul_right _ size.le
      _ = 2 ^ (mantissa.log2 + 1 + (exponent - grid mantissa exponent).toNat) :=
        (Nat.pow_add ..).symm
      _ ≤ 2 ^ 53 := Nat.pow_le_pow_right (by decide) fits

theorem le_significand (nonzero : mantissa ≠ 0) (normal : -1074 < grid mantissa exponent) :
    2 ^ 52 ≤ significand mantissa exponent (grid mantissa exponent) := by
  have size : 2 ^ mantissa.log2 ≤ mantissa := Nat.log2_self_le nonzero
  have unit : grid mantissa exponent = exponent + mantissa.log2 - 52 := by
    unfold grid at *
    omega
  unfold significand
  split
  · refine le_trans ?_ (div_le_shiftNearest ..)
    rw [Nat.le_div_iff_mul_le (Nat.two_pow_pos _), ← Nat.pow_add]
    exact (Nat.pow_le_pow_right (by decide) (by omega)).trans size
  · calc
      2 ^ 52 ≤ 2 ^ (mantissa.log2 + (exponent - grid mantissa exponent).toNat) :=
        Nat.pow_le_pow_right (by decide) (by omega)
      _ = 2 ^ mantissa.log2 * 2 ^ (exponent - grid mantissa exponent).toNat := Nat.pow_add ..
      _ ≤ _ := Nat.mul_le_mul_right _ size

theorem grid_mono (le : mantissa ≤ larger) : grid mantissa exponent ≤ grid larger exponent := by
  have digits : mantissa.log2 ≤ larger.log2 := by
    simpa only [Nat.log2_eq_log_two] using Nat.log_mono_right le
  unfold grid
  omega

theorem nearestBits_mono (le : mantissa ≤ larger) (exponent : Int) :
    nearestBits mantissa exponent ≤ nearestBits larger exponent := by
  rcases eq_or_ne mantissa 0 with rfl | nonzero
  · exact Nat.zero_le _
  have largerNonzero : larger ≠ 0 := by omega
  rw [nearestBits_eq nonzero, nearestBits_eq largerNonzero]
  refine min_le_min_right _ ?_
  have least : -1074 ≤ grid mantissa exponent := Int.le_max_right ..
  rcases (grid_mono le : grid mantissa exponent ≤ grid larger exponent).lt_or_eq with finer | same
  · -- The larger number lies on a coarser grid: its exponent outweighs any significand.
    have digits : significand mantissa exponent (grid mantissa exponent) ≤ 2 ^ 53 := significand_le
    have others := le_significand largerNonzero (least.trans_lt finer)
    omega
  · rw [same]
    exact Nat.add_le_add_left (significand_mono le) _

end

section

variable (negative : Bool) (mantissa : Nat) (exponent : Int)

theorem toBits_ofDyadic : (ofDyadic negative mantissa exponent).toBits.toNat =
    (if negative then 2 ^ 63 else 0) + nearestBits mantissa exponent := by
  have bound := nearestBits_le mantissa exponent
  have unsigned : infinityBits < 2 ^ 63 := by decide
  have fits : ((if negative then 2 ^ 63 else 0) + nearestBits mantissa exponent) % 2 ^ 64 =
      (if negative then 2 ^ 63 else 0) + nearestBits mantissa exponent := by
    split <;> omega
  rw [ofDyadic, toBits_ofBits, UInt64.toNat_ofNat']
  · exact fits
  · rw [UInt64.toNat_ofNat', Nat.pow_eq, fits]
    split <;> omega

theorem isNegative_ofDyadic : isNegative (ofDyadic negative mantissa exponent) = negative := by
  have bound := nearestBits_le mantissa exponent
  have unsigned : infinityBits < 2 ^ 63 := by decide
  rw [isNegative, toBits_ofDyadic]
  cases negative
  · simp; omega
  · simp

theorem magnitude_ofDyadic :
    magnitude (ofDyadic negative mantissa exponent) = nearestBits mantissa exponent := by
  have bound := nearestBits_le mantissa exponent
  have unsigned : infinityBits < 2 ^ 63 := by decide
  rw [magnitude, toBits_ofDyadic, Nat.pow_eq]
  split <;> omega

end

theorem totalKey_ofInt_mono {left right : Int} (le : left ≤ right) :
    totalKey (ofInt left) ≤ totalKey (ofInt right) := by
  simp only [totalKey, ofInt, isNegative_ofDyadic, magnitude_ofDyadic, decide_eq_true_eq]
  split
  next leftNegative =>
    split
    next rightNegative =>
      have := nearestBits_mono (show right.natAbs ≤ left.natAbs by omega) 0
      omega
    next => omega
  next leftNatural =>
    rw [if_neg (by omega)]
    have := nearestBits_mono (show left.natAbs ≤ right.natAbs by omega) 0
    omega

theorem numericKey_le_of_totalKey_le {left right : Float} (le : totalKey left ≤ totalKey right) :
    numericKey left ≤ numericKey right := by
  unfold totalKey at le
  unfold numericKey
  split at le <;> split at le <;> simp [*] at * <;> omega

theorem numericKey_ofInt_mono {left right : Int} (le : left ≤ right) :
    numericKey (ofInt left) ≤ numericKey (ofInt right) :=
  numericKey_le_of_totalKey_le (totalKey_ofInt_mono le)

/-! Integers that stay apart. -/

theorem log2_le_of_lt {mantissa : Nat} (exact : mantissa < 2 ^ 53) : mantissa.log2 ≤ 52 := by
  rcases eq_or_ne mantissa 0 with rfl | nonzero
  · decide
  · exact Nat.lt_succ_iff.1 ((Nat.log2_lt nonzero).2 exact)

theorem grid_natural (mantissa : Nat) : grid mantissa 0 = mantissa.log2 - 52 := by
  unfold grid
  omega

theorem significand_of_lt {mantissa : Nat} (exact : mantissa < 2 ^ 53) :
    significand mantissa 0 (grid mantissa 0) = mantissa * 2 ^ (52 - mantissa.log2) := by
  have digits := log2_le_of_lt exact
  rw [grid_natural, significand]
  split
  next coarse =>
    have full : mantissa.log2 = 52 := by omega
    simp [full, shiftNearest, Nat.mod_one]
  next => congr 2; omega

theorem significand_lt {mantissa : Nat} (exact : mantissa < 2 ^ 53) :
    significand mantissa 0 (grid mantissa 0) < 2 ^ 53 := by
  have digits := log2_le_of_lt exact
  rw [significand_of_lt exact]
  calc
    mantissa * 2 ^ (52 - mantissa.log2) < 2 ^ (mantissa.log2 + 1) * 2 ^ (52 - mantissa.log2) :=
      Nat.mul_lt_mul_of_pos_right Nat.lt_log2_self (Nat.two_pow_pos _)
    _ = 2 ^ (mantissa.log2 + 1 + (52 - mantissa.log2)) := (Nat.pow_add ..).symm
    _ = 2 ^ 53 := by congr 1; omega

theorem nearestBits_lt {mantissa larger : Nat} (less : mantissa < larger)
    (exact : mantissa < 2 ^ 53) : nearestBits mantissa 0 < nearestBits larger 0 := by
  have digits := log2_le_of_lt exact
  have kept := significand_lt exact
  have unit := grid_natural mantissa
  have largerUnit := grid_natural larger
  have largerNonzero : larger ≠ 0 := by omega
  have others : 2 ^ 52 ≤ significand larger 0 (grid larger 0) :=
    le_significand largerNonzero (by omega)
  rcases eq_or_ne mantissa 0 with rfl | nonzero
  · rw [nearestBits, if_pos rfl, nearestBits_eq largerNonzero, lt_min_iff]
    exact ⟨by omega, by decide⟩
  rw [nearestBits_eq nonzero, nearestBits_eq largerNonzero, min_lt_iff, lt_min_iff, lt_min_iff]
  refine .inl ⟨?_, ?_⟩
  · rcases (grid_mono less.le : grid mantissa 0 ≤ grid larger 0).lt_or_eq with finer | same
    · omega
    · have sameDigits : larger.log2 = mantissa.log2 := by omega
      have largerExact : larger < 2 ^ 53 :=
        Nat.lt_log2_self.trans_le (Nat.pow_le_pow_right (by decide) (by omega))
      rw [significand_of_lt exact, significand_of_lt largerExact, ← same, sameDigits]
      exact Nat.add_lt_add_left (Nat.mul_lt_mul_of_pos_right less (Nat.two_pow_pos _)) _
  · simp only [infinityBits, Nat.pow_eq]
    omega

theorem numericKey_ofInt (value : Int) :
    numericKey (ofInt value) =
      if value < 0 then -(nearestBits value.natAbs 0 : Int) else nearestBits value.natAbs 0 := by
  simp only [numericKey, ofInt, isNegative_ofDyadic, magnitude_ofDyadic, decide_eq_true_eq]

theorem le_of_nearestBits_eq {left right : Nat} (different : left ≠ right)
    (same : nearestBits left 0 = nearestBits right 0) : 2 ^ 53 ≤ left ∧ 2 ^ 53 ≤ right := by
  rcases lt_or_gt_of_ne different with less | greater
  · have far : 2 ^ 53 ≤ left := not_lt.1 fun near => (nearestBits_lt less near).ne same
    exact ⟨far, far.trans less.le⟩
  · have far : 2 ^ 53 ≤ right := not_lt.1 fun near => (nearestBits_lt greater near).ne' same
    exact ⟨far.trans greater.le, far⟩

theorem le_of_numericKey_ofInt_eq {left right : Int} (different : left ≠ right)
    (same : numericKey (ofInt left) = numericKey (ofInt right)) :
    2 ^ 53 ≤ left.natAbs ∧ 2 ^ 53 ≤ right.natAbs := by
  have positive {value : Int} (nonzero : value ≠ 0) : 0 < nearestBits value.natAbs 0 :=
    nearestBits_lt (Int.natAbs_pos.2 nonzero) (by decide)
  have magnitudes : nearestBits left.natAbs 0 = nearestBits right.natAbs 0 := by
    rw [numericKey_ofInt, numericKey_ofInt] at same
    split at same <;> split at same <;> omega
  refine le_of_nearestBits_eq (fun sameMagnitude => ?_) magnitudes
  -- Opposite integers lie on opposite sides of zero, and so do their doubles.
  obtain rfl : left = -right := by omega
  have far := positive (show right ≠ 0 by omega)
  rw [numericKey_ofInt, numericKey_ofInt, magnitudes] at same
  split at same <;> split at same <;> omega

/-! Natural numbers that come back. -/

theorem parts_ofInt {value : Nat} (nonzero : value ≠ 0) (exact : value < 2 ^ 53) :
    parts (ofInt value) =
      .finite false (value * 2 ^ (52 - value.log2)) ((value.log2 : Int) - 52) := by
  have digits := log2_le_of_lt exact
  have unit := grid_natural value
  have kept := significand_lt exact
  have full : 2 ^ 52 ≤ significand value 0 (grid value 0) := le_significand nonzero (by omega)
  rw [significand_of_lt exact] at kept full
  have bits : nearestBits value 0 =
      (value.log2 + 1022) * 2 ^ 52 + value * 2 ^ (52 - value.log2) := by
    rw [nearestBits_eq nonzero, significand_of_lt exact, unit, infinityBits, Nat.pow_eq]
    omega
  have positive : decide ((value : Int) < 0) = false := decide_eq_false (by omega)
  rw [parts, ofInt, isNegative_ofDyadic, magnitude_ofDyadic, positive, Int.natAbs_natCast, bits,
    Nat.pow_eq]
  have exponent : ((value.log2 + 1022) * 2 ^ 52 + value * 2 ^ (52 - value.log2)) / 2 ^ 52 =
      value.log2 + 1023 := by omega
  have fraction : ((value.log2 + 1022) * 2 ^ 52 + value * 2 ^ (52 - value.log2)) % 2 ^ 52 =
      value * 2 ^ (52 - value.log2) - 2 ^ 52 := by omega
  have notAll : value.log2 + 1023 ≠ 2047 := by omega
  have notNone : value.log2 + 1023 ≠ 0 := by omega
  have scale : ((value.log2 + 1023 : Nat) : Int) - 1075 = (value.log2 : Int) - 52 := by omega
  rw [exponent, fraction, if_neg notAll, if_neg notNone, Nat.sub_add_cancel full, scale]

@[simp]
theorem toNat_ofInt {value : Nat} (exact : value < 2 ^ 53) : toNat (ofInt value) = value := by
  rcases eq_or_ne value 0 with rfl | nonzero
  · decide +kernel
  have digits := log2_le_of_lt exact
  rw [toNat, parts_ofInt nonzero exact]
  dsimp only
  split
  next whole =>
    have all : value.log2 = 52 := by omega
    simp [all]
  next =>
    have shift : (-((value.log2 : Int) - 52)).toNat = 52 - value.log2 := by omega
    rw [shift, Nat.pow_eq, Nat.mul_div_cancel _ (Nat.two_pow_pos _)]

end SensorThings.Binary64
