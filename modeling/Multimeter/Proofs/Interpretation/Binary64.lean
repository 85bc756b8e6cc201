import Mathlib.Algebra.Order.Group.Nat
import Mathlib.Algebra.Order.Ring.Rat
/-!
# Whole numbers in binary floating point

A float has 53 bits for its mantissa, so the whole numbers of at most 53 bits are floats. The
conversion moves the number to the left until it fills the mantissa, and multiplies it by one;
neither drops a bit, so that nothing is rounded.

* `Binary64.Normal`: the mantissas and exponents that floats hold in full.
* `Binary64.roundWithAccuracy_mul_two_pow`: rounding undoes a shift to the left.
* `Binary64.unpack_pack`: a normal number survives its encoding in 64 bits.
* `Binary64.value?_ofInt`: whole numbers below `2 ^ 53` are represented exactly.
-/

namespace Multimeter.Binary64

open Float.Model Float.Model.UnpackedFloat

/-- A mantissa of 53 bits with an exponent in range. -/
structure Normal (mantissa : Nat) (exponent : Int) : Prop where
  /-- The leading bit of the mantissa is set. -/
  le : 2 ^ 52 ≤ mantissa
  /-- The mantissa has no more than 53 bits. -/
  lt : mantissa < 2 ^ 53
  /-- The exponent is not below the least one. -/
  min : -1074 ≤ exponent
  /-- The exponent is not above the greatest one. -/
  max : exponent ≤ 971

variable {sign : Sign} {mantissa n : Nat} {exponent : Int}

namespace Normal

/-- A normal mantissa is not zero. -/
theorem pos (h : Normal mantissa exponent) : 0 < mantissa := Nat.lt_of_lt_of_le (by decide) h.le

/-- A normal mantissa that is moved to the left has its leading bit moved as far. -/
theorem log2_mul_two_pow (h : Normal mantissa exponent) (shift : Nat) :
    (mantissa * 2 ^ shift).log2 = 52 + shift := by
  have hpos : 0 < 2 ^ shift := Nat.two_pow_pos shift
  refine (Nat.log2_eq_iff (Nat.mul_pos h.pos hpos).ne').2 ⟨?_, ?_⟩
  · rw [Nat.pow_add]
    exact Nat.mul_le_mul_right _ h.le
  · rw [Nat.add_right_comm, Nat.pow_add]
    exact Nat.mul_lt_mul_of_pos_right h.lt hpos

end Normal

/-! ## Rounding -/

/-- Rounding leaves 53 bits, unless the exponent would fall below the least one. -/
theorem targetExponent_eq (total : Int) :
    Format.binary64.targetExponent total = max (total - 53) (-1074) := by
  rw [Format.targetExponent]
  rfl

/-- A shift to the right that only drops zeros leaves no remainder. -/
theorem shiftRight_mul_two_pow (mantissa shift : Nat) :
    ExtendedMantissa.mk (mantissa * 2 ^ shift) false false >>> shift =
      ⟨mantissa, false, false⟩ := by
  induction shift generalizing mantissa with
  | zero =>
    rw [Nat.pow_zero, Nat.mul_one]
    rfl
  | succ shift ih =>
    -- all but the last place, which then drops one more zero
    have hnext := ih (mantissa * 2)
    rw [Nat.mul_assoc, ← Nat.pow_succ'] at hnext
    change ExtendedMantissa.shiftRightOne
      (ExtendedMantissa.mk (mantissa * 2 ^ (shift + 1)) false false >>> shift) = _
    rw [hnext]
    simp [ExtendedMantissa.shiftRightOne]

/-- The shift before rounding takes back a shift to the left and drops nothing. -/
theorem shiftToTargetExponent_mul_two_pow (h : Normal mantissa exponent) (shift : Nat) :
    shiftToTargetExponent .binary64 (mantissa * 2 ^ shift) (exponent - shift) .exact =
      (⟨mantissa, false, false⟩, exponent) := by
  have hmin := h.min
  have htarget : Format.binary64.targetExponent
      (totalExponent (mantissa * 2 ^ shift) (exponent - shift)) = exponent := by
    rw [targetExponent_eq, totalExponent, h.log2_mul_two_pow]
    omega
  have hamount : (exponent - (exponent - shift)).toNat = shift := by omega
  rw [shiftToTargetExponent, htarget, shiftToExponent, hamount, Int.sub_add_cancel]
  exact congrArg (·, exponent) (shiftRight_mul_two_pow mantissa shift)

/-- Rounding undoes a shift to the left. -/
theorem roundWithAccuracy_mul_two_pow (h : Normal mantissa exponent) (shift : Nat) :
    roundWithAccuracy .binary64 sign (mantissa * 2 ^ shift) (exponent - shift) .exact =
      .finite sign mantissa exponent h.pos := by
  -- rounding shifts a second time, in case that the mantissa has overflowed
  have hagain : shiftToTargetExponent .binary64 mantissa exponent .exact =
      (⟨mantissa, false, false⟩, exponent) := by
    simpa using shiftToTargetExponent_mul_two_pow h 0
  have hmantissa : (shiftToTargetExponent .binary64 mantissa exponent .exact).1.mantissa =
      mantissa := by
    rw [hagain]
  have hexponent : (shiftToTargetExponent .binary64 mantissa exponent .exact).2 = exponent := by
    rw [hagain]
  have hzero : (shiftToTargetExponent .binary64 mantissa exponent .exact).1.mantissa ≠ 0 := by
    rw [hmantissa]
    exact h.pos.ne'
  rw [roundWithAccuracy, shiftToTargetExponent_mul_two_pow h shift]
  exact (dif_neg hzero).trans ((UnpackedFloat.finite.injEq ..).mpr ⟨rfl, hmantissa, hexponent⟩)

/-- A normal number is not rounded. -/
theorem roundWithAccuracy_of_normal (h : Normal mantissa exponent) :
    roundWithAccuracy .binary64 sign mantissa exponent .exact =
      .finite sign mantissa exponent h.pos := by
  have hmantissa : mantissa * 2 ^ 0 = mantissa := Nat.mul_one mantissa
  have hexponent : exponent - (0 : Nat) = exponent := Int.sub_zero exponent
  have hround : roundWithAccuracy .binary64 sign (mantissa * 2 ^ 0) (exponent - (0 : Nat)) .exact =
      .finite sign mantissa exponent h.pos := roundWithAccuracy_mul_two_pow h 0
  rwa [hmantissa, hexponent] at hround

/-! ## Encoding -/

/-- A normal number is encoded by its sign, its biased exponent and its mantissa without the leading
bit. -/
theorem pack_of_normal (h : Normal mantissa exponent) :
    UnpackedFloat.pack .binary64 (.finite sign mantissa exponent h.pos) =
      packComponents .binary64 sign (.ofNat 11 (exponent + 1075).toNat) (.ofNat 52 mantissa) := by
  have hmax := h.max
  have hlog : mantissa.log2 + 1 = Format.binary64.mantissaBits := by
    rw [(Nat.log2_eq_iff h.pos.ne').2 ⟨h.le, h.lt⟩]
    rfl
  have hbiased : (exponent + Format.binary64.exponentBias
      + Format.binary64.mantissaBitsWithoutImplicit).toNat = (exponent + 1075).toNat := by
    change (exponent + 1023 + 52).toNat = (exponent + 1075).toNat
    omega
  have hroom : ¬ 2 ^ 11 ≤ (exponent + 1075).toNat + 1 := by omega
  delta UnpackedFloat.pack
  simp only [hbiased, hlog, if_neg hroom, if_true]

/-- Unless the exponent is that of zero or of infinity, the mantissa that is read has its leading
bit put back. -/
theorem unpack_packComponents {biased : BitVec 11} {fraction : BitVec 52} (hzero : biased ≠ 0#11)
    (hfull : biased ≠ -1#11) :
    UnpackedFloat.unpack .binary64 (packComponents .binary64 sign biased fraction) =
      .finite sign (2 ^ 52 + fraction.toNat) (biased.toNat - 1075) (by omega) := by
  have himplicit : (1#1 ++ fraction).toNat = 2 ^ 52 + fraction.toNat := by
    rw [BitVec.toNat_append, ← Nat.shiftLeft_add_eq_or_of_lt fraction.isLt]
    rfl
  have hsign :
      Sign.ofBitVec (unpackSign (packComponents .binary64 sign biased fraction)) = sign := by
    have hbit : unpackSign (packComponents .binary64 sign biased fraction) = sign.toBitVec := by
      change (sign.toBitVec ++ biased ++ fraction).extractLsb' 63 1 = sign.toBitVec
      rw [BitVec.extractLsb'_append_eq_of_le (by decide)]
      exact BitVec.extractLsb'_append_eq_left
    rw [hbit]
    cases sign <;> rfl
  -- the exponent is neither that of infinity nor that of zero
  refine (if_neg ?_).trans ((if_neg ?_).trans ((UnpackedFloat.finite.injEq ..).mpr ⟨hsign, ?_, ?_⟩))
  · rwa [unpackExponent_packComponents]
  · rwa [unpackExponent_packComponents]
  · rwa [unpackMantissa_packComponents]
  · rw [unpackExponent_packComponents]
    rfl

/-- A normal number survives its encoding. -/
theorem unpack_pack (h : Normal mantissa exponent) :
    (Float.Model.pack (.finite sign mantissa exponent h.pos)).unpack =
      .finite sign mantissa exponent h.pos := by
  obtain ⟨hle, hlt, hmin, hmax⟩ := h
  have hbiased : (BitVec.ofNat 11 (exponent + 1075).toNat).toNat = (exponent + 1075).toNat := by
    rw [BitVec.toNat_ofNat]
    omega
  have hfraction : 2 ^ 52 + (BitVec.ofNat 52 mantissa).toNat = mantissa := by
    rw [BitVec.toNat_ofNat]
    omega
  -- the exponents of zero and of infinity are out of range
  have hzero : BitVec.ofNat 11 (exponent + 1075).toNat ≠ 0#11 := by
    intro hzero
    have := congrArg BitVec.toNat hzero
    simp only [hbiased, BitVec.toNat_zero] at this
    omega
  have hfull : BitVec.ofNat 11 (exponent + 1075).toNat ≠ -1#11 := by
    intro hfull
    have := congrArg BitVec.toNat hfull
    simp only [hbiased, BitVec.neg_one_eq_allOnes, BitVec.toNat_allOnes] at this
    omega
  change UnpackedFloat.unpack .binary64 (UnpackedFloat.pack .binary64 _) = _
  rw [pack_of_normal ⟨hle, hlt, hmin, hmax⟩, unpack_packComponents hzero hfull]
  have hexponent : ((BitVec.ofNat 11 (exponent + 1075).toNat).toNat : Int) - 1075 = exponent := by
    rw [hbiased]
    omega
  exact (UnpackedFloat.finite.injEq ..).mpr ⟨rfl, hfraction, hexponent⟩

/-- The sign of a normal number is turned around. -/
theorem unpack_neg {x : Float} (h : Normal mantissa exponent)
    (hx : x.toModel.unpack = .finite sign mantissa exponent h.pos) :
    x.neg.toModel.unpack = .finite (-sign) mantissa exponent h.pos := by
  change (Float.Model.pack x.toModel.unpack.neg).unpack = _
  rw [hx]
  exact unpack_pack h

/-! ## Whole numbers -/

/-- How far a whole number moves to the left to fill the mantissa. -/
def places (n : Nat) : Nat := 52 - n.log2

/-- A whole number of at most 53 bits fills the mantissa once it is moved far enough to the left. -/
theorem normal_of_lt (hpos : n ≠ 0) (hlt : n < 2 ^ 53) : Normal (n * 2 ^ places n) (-places n) := by
  have hlog : n.log2 < 53 := (Nat.log2_lt hpos).2 hlt
  have hlo : n.log2 + places n = 52 := by
    rw [places]
    omega
  have hhi : n.log2 + 1 + places n = 53 := by omega
  constructor
  case le =>
    rw [← hlo, Nat.pow_add]
    exact Nat.mul_le_mul_right _ (Nat.log2_self_le hpos)
  case lt =>
    rw [← hhi, Nat.pow_add]
    exact Nat.mul_lt_mul_of_pos_right Nat.lt_log2_self (Nat.two_pow_pos _)
  case min => omega
  case max => omega

/-- A whole number fills the mantissa without a remainder. -/
theorem round_of_lt (hpos : n ≠ 0) (hlt : n < 2 ^ 53) :
    UnpackedFloat.round .binary64 sign n 0 =
      .finite sign (n * 2 ^ places n) (-places n) (normal_of_lt hpos hlt).pos := by
  have htarget : Format.binary64.targetExponent (totalExponent n 0) = -places n := by
    have hlog : n.log2 < 53 := (Nat.log2_lt hpos).2 hlt
    rw [targetExponent_eq, totalExponent, places]
    omega
  have hmoved : decreaseExponent n 0 (-places n) = (n * 2 ^ places n, -(places n : Int)) := by
    simp only [decreaseExponent, Int.zero_sub, Int.neg_neg, Int.toNat_natCast, Nat.shiftLeft_eq]
  rw [UnpackedFloat.round, htarget, hmoved]
  exact roundWithAccuracy_of_normal (normal_of_lt hpos hlt)

/-- A word of 64 bits is converted by normalizing it. -/
theorem unpack_toFloat (hpos : n ≠ 0) (hlt : n < 2 ^ 53) :
    n.toUInt64.toFloat.toModel.unpack =
      .finite .positive (n * 2 ^ places n) (-places n) (normal_of_lt hpos hlt).pos := by
  have hword : n.toUInt64.toNat = n := by
    rw [Nat.toUInt64, UInt64.toNat_ofNat']
    omega
  have hcompare : compare (n : Int) 0 = .gt := Int.compare_eq_gt.2 (by omega)
  change (Float.Model.pack
    (UnpackedFloat.normalize .binary64 (n.toUInt64.toNat : Int) 0 .positive)).unpack = _
  have hround : UnpackedFloat.round .binary64 .positive (n : Int).toNat 0 =
      .finite .positive (n * 2 ^ places n) (-places n) (normal_of_lt hpos hlt).pos := by
    rw [Int.toNat_natCast]
    exact round_of_lt hpos hlt
  rw [hword, UnpackedFloat.normalize, hcompare]
  change (Float.Model.pack (UnpackedFloat.round .binary64 .positive (n : Int).toNat 0)).unpack = _
  rw [hround]
  exact unpack_pack (normal_of_lt hpos hlt)

/-- A small whole number is converted as a word, then scaled by the power of ten that is one. -/
theorem unpack_ofNat (hpos : n ≠ 0) (hlt : n < 2 ^ 53) :
    (Float.ofNat n).toModel.unpack =
      .finite .positive (n * 2 ^ places n) (-places n) (normal_of_lt hpos hlt).pos := by
  have hnormal := normal_of_lt hpos hlt
  have hone : (Float.exactlyRepresentablePowersOfTen[0]).toModel.unpack =
      .finite .positive (2 ^ 52) (-52) (by decide) := rfl
  have hfast : Float.ofNat n = n.toUInt64.toFloat * Float.exactlyRepresentablePowersOfTen[0] := by
    change Float.ofScientific n false 0 = _
    rw [Float.ofScientific, dif_pos ⟨hlt, by decide⟩]
    rfl
  rw [hfast]
  change (Float.Model.pack (UnpackedFloat.mul .binary64 n.toUInt64.toFloat.toModel.unpack
    (Float.exactlyRepresentablePowersOfTen[0]).toModel.unpack)).unpack = _
  rw [unpack_toFloat hpos hlt, hone]
  -- the mantissa of one moves the product by 52 places, which rounding undoes
  have hround : roundWithAccuracy .binary64 .positive (n * 2 ^ places n * 2 ^ 52)
      (-places n + -52) .exact = .finite .positive (n * 2 ^ places n) (-places n) hnormal.pos :=
    roundWithAccuracy_mul_two_pow hnormal 52
  change (Float.Model.pack (roundWithAccuracy .binary64 .positive _ _ .exact)).unpack = _
  rw [hround]
  exact unpack_pack hnormal

/-- The rational number that a float stands for, `none` for infinities and for what is no number. -/
def value? (x : Float) : Option Rat :=
  match x.toModel.unpack with
  | .finite sign mantissa exponent _ => some (sign.apply mantissa * (2 : Rat) ^ exponent)
  | .zero _ => some 0
  | .infinity _ | .notANumber => none

/-- Whole numbers below `2 ^ 53` are floats. -/
theorem value?_ofInt {n : Int} (h : n.natAbs < 2 ^ 53) :
    value? (Float.ofInt n) = some (n : Rat) := by
  cases n with
  | ofNat n =>
    cases n with
    | zero =>
      have hzero : (Float.ofInt 0).toModel.unpack = .zero .positive := rfl
      simp [value?, hzero]
    | succ n =>
      rw [value?, Float.ofInt, unpack_ofNat n.succ_ne_zero h]
      simp [Sign.apply]
  | negSucc n =>
    have hneg := unpack_neg (normal_of_lt n.succ_ne_zero h) (unpack_ofNat n.succ_ne_zero h)
    rw [value?, Float.ofInt, hneg]
    simp [Sign.apply]

end Multimeter.Binary64
