import Mathlib
import Multimeter.Proofs.Interpretation.Binary64
import Multimeter.Proofs.Interpretation.Measured
/-!
# Values and digits of samples

The value of a sample is its count moved by a power of ten, and its digits say by how many places.
Both come from the same point and the same metric scale, each by a subtraction of its own; worked
out in rational numbers, the value has exactly these digits.

The infinite value of a sample without an amount is `Float.inf`, which no single file of Mathlib
brings along.

* `Amount.toRat_eq`: an amount in rational numbers.
* `Amount.Exact`: the floats that an amount is worked out from are exact.
* `Reading.interpret_value`: the value and the digits of every sample that has a value.
-/

namespace Multimeter

/-! ## Amounts -/

namespace Amount

variable {amount : Amount}

/-- The amount in rational numbers. -/
def toRat (amount : Amount) : Rat := amount.eval fun n => (n : Rat)

/-- The table holds every power that is not too large. -/
theorem power_eq (h : amount.exponent.toInt.natAbs ≤ maxPower) :
    amount.power = 10 ^ amount.exponent.toInt.natAbs := by
  rw [power, Nat.min_eq_left h]
  rfl

/-- Dividing and multiplying by the power of ten is the same as scaling by the exponent. -/
theorem toRat_eq (h : amount.exponent.toInt.natAbs ≤ maxPower) :
    amount.toRat = amount.count * amount.factor * (10 : Rat) ^ amount.exponent.toInt := by
  simp only [toRat, eval, power_eq h, Int.cast_natCast, Nat.cast_pow, Int.cast_pow,
    Nat.cast_ofNat, Int.cast_ofNat]
  have hsign : amount.exponent < 0 ↔ amount.exponent.toInt < 0 := Int8.lt_iff_toInt_lt
  -- a power with a negative exponent is the inverse of the power that is divided by
  by_cases hneg : amount.exponent < 0
  · have hexponent : amount.exponent.toInt = -(amount.exponent.toInt.natAbs : Int) := by
      have := hsign.1 hneg
      omega
    rw [if_pos hneg, hexponent, Int.natAbs_neg, Int.natAbs_natCast, zpow_neg, zpow_natCast,
      div_eq_mul_inv, mul_right_comm]
  · have hexponent : amount.exponent.toInt = (amount.exponent.toInt.natAbs : Int) := by
      have := mt hsign.2 hneg
      omega
    rw [if_neg hneg, hexponent, Int.natAbs_natCast, zpow_natCast, mul_right_comm]

/-- The power is in the table, and the numbers that the amount is worked out from are floats. -/
structure Exact (amount : Amount) : Prop where
  /-- The largest power of the table does not stand in for a larger one. -/
  power : amount.power = 10 ^ amount.exponent.toInt.natAbs
  /-- The count has at most 53 bits. -/
  count_lt : amount.count.natAbs < 2 ^ 53
  /-- The power has at most 53 bits. -/
  power_lt : amount.power < 2 ^ 53
  /-- The count is represented exactly as a float. -/
  count_value : Binary64.value? (Float.ofInt amount.count) = some (amount.count : Rat)
  /-- The power is represented exactly as a float. -/
  power_value : Binary64.value? (Float.ofInt amount.power) = some (amount.power : Rat)
  /-- The factor is represented exactly as a float. -/
  factor_value : Binary64.value? (Float.ofInt amount.factor) = some (amount.factor : Rat)

end Amount

/-- The value of a sample without an amount is infinite. -/
theorem Sample.value_eq_inf {sample : Sample} (h : sample.amount = none) : sample.value = .inf := by
  have hinf : (1.0 / 0.0 : Float) = .inf := by decide +kernel
  rw [value, h]
  exact hinf

/-! ## Readings -/

/-- Words subtract like numbers if the difference is a word. -/
theorem toInt_sub_of_fits {a b : Int8} (hlo : -128 ≤ a.toInt - b.toInt)
    (hhi : a.toInt - b.toInt < 128) : (a - b).toInt = a.toInt - b.toInt := by
  rw [Int8.toInt_sub, Int.bmod_eq_of_le (by omega) (by omega)]

/-- The number of decimals fits into a signed byte. -/
theorem Coded.toInt_decimals (dot : Coded Dot UInt8) :
    (Int8.ofNat dot.decimals).toInt = dot.decimals :=
  Int8.toInt_ofNat_of_lt (Nat.lt_of_le_of_lt dot.decimals_le (by decide))

/-- Only minutes are no power of ten of their SI unit. -/
theorem Coded.scale_factor (unit : Coded DisplayUnit UInt8) :
    unit.scale.factor = if unit = .known .minute then 60 else 1 := by
  cases unit with
  | known unit => cases unit <;> decide
  | unknown raw => rfl

namespace Reading

variable (reading : Reading)

/-- The digits of a sample are worked out without overflow. -/
theorem toInt_digits :
    (Int8.ofNat reading.dot.decimals - reading.unit.scale.exponent).toInt =
      reading.dot.decimals - reading.unit.scale.exponent.toInt := by
  have hle := reading.dot.decimals_le
  have hdecimals := reading.dot.toInt_decimals
  obtain ⟨hnano, hgiga⟩ := reading.unit.scale_exponent_bounds
  rw [toInt_sub_of_fits (by omega) (by omega), hdecimals]

/-- The exponent of the amount of a sample is worked out without overflow. -/
theorem toInt_exponent :
    (reading.unit.scale.exponent - Int8.ofNat reading.dot.decimals).toInt =
      reading.unit.scale.exponent.toInt - reading.dot.decimals := by
  have hle := reading.dot.decimals_le
  have hdecimals := reading.dot.toInt_decimals
  obtain ⟨hnano, hgiga⟩ := reading.unit.scale_exponent_bounds
  rw [toInt_sub_of_fits (by omega) (by omega), hdecimals]

/-- The amount of a reading that shows a number. -/
def shown : Amount where
  count := reading.count.toInt
  exponent := reading.unit.scale.exponent - Int8.ofNat reading.dot.decimals
  factor := reading.unit.scale.factor

/-- The display shows a word just when the count is not below the threshold. -/
theorem isSome_word? : reading.word?.isSome = !decide (reading.count < Word.threshold) := by
  by_cases h : Word.threshold ≤ reading.count
  · simp [word?_of_le h, h]
  · simp [word?_of_lt h, Int32.not_le.1 h]

/-- A number is shown below the words unless it is beyond the range. -/
theorem amount?_eq :
    reading.amount? =
      if reading.count < Word.threshold ∧ reading.overload = false then some reading.shown
      else none := by
  rw [amount?, isSome_word?]
  cases reading.overload with
  | true => simp
  | false =>
    by_cases h : reading.count < Word.threshold
    · simp only [h, decide_true, Bool.not_true, Bool.or_false]
      rfl
    · simp [h]

/-- Four digits behind the point and a metric scale of nano are thirteen places, and no reading has
more. -/
theorem natAbs_exponent_shown_le : reading.shown.exponent.toInt.natAbs ≤ Amount.maxPower := by
  have hdecimals := reading.dot.decimals_le
  obtain ⟨hnano, hgiga⟩ := reading.unit.scale_exponent_bounds
  have hexponent : reading.shown.exponent.toInt =
      reading.unit.scale.exponent.toInt - reading.dot.decimals := reading.toInt_exponent
  rw [Amount.maxPower]
  omega

/-- Minutes are counted in seconds, all other units as they are. -/
theorem factor_shown :
    reading.shown.factor = if reading.unit = .known .minute then 60 else 1 :=
  reading.unit.scale_factor

/-- Everything that the number is worked out from is a float. -/
theorem exact_shown : reading.shown.Exact := by
  -- a count has 32 bits at most, and the powers stop at the last one of the table
  have hcount : reading.shown.count.natAbs < 2 ^ 53 := by
    have hlt := reading.count.toInt_lt
    have hle := reading.count.le_toInt
    change reading.count.toInt.natAbs < 2 ^ 53
    omega
  have hpower : reading.shown.power < 2 ^ 53 :=
    calc reading.shown.power ≤ 10 ^ Amount.maxPower :=
          Nat.pow_le_pow_right (by decide) (Nat.min_le_right _ _)
      _ < 2 ^ 53 := by decide
  have hfactor : reading.shown.factor < 2 ^ 53 := by
    rw [factor_shown]
    split
    · decide
    · decide
  exact {
    power := Amount.power_eq reading.natAbs_exponent_shown_le
    count_lt := hcount
    power_lt := hpower
    count_value := Binary64.value?_ofInt hcount
    power_value := by simpa using Binary64.value?_ofInt (n := reading.shown.power) hpower
    factor_value := by simpa using Binary64.value?_ofInt (n := reading.shown.factor) hfactor }

/-- The number has the digits of the sample. -/
theorem toRat_shown_eq :
    reading.shown.toRat =
      reading.count.toInt * (if reading.unit = .known .minute then 60 else 1) *
        (10 : Rat) ^ (-(Int8.ofNat reading.dot.decimals - reading.unit.scale.exponent).toInt) := by
  have hexponent : reading.shown.exponent.toInt =
      -(Int8.ofNat reading.dot.decimals - reading.unit.scale.exponent).toInt := by
    rw [toInt_digits, Int.neg_sub]
    exact reading.toInt_exponent
  have hfactor : (reading.shown.factor : Rat) =
      if reading.unit = .known .minute then 60 else 1 := by
    rw [factor_shown, Nat.cast_ite, Nat.cast_ofNat, Nat.cast_one]
  rw [Amount.toRat_eq reading.natAbs_exponent_shown_le, hexponent, hfactor]
  rfl

/-- The value of a sample is infinite unless the display shows a number within range; then the
sample carries this number, scaled by the power of ten that its digits say. No step on the way
overflows, leaves the table of powers or rounds a whole number. -/
theorem interpret_value {reading : Reading} {context : Context} {channel : Channel}
    {sample : Sample} (h : reading.interpret context channel = .sample sample)
    (hvalue : sample ≠ .noValue) :
    let factor : Rat := if reading.unit = .known .minute then 60 else 1
    sample.digits.toInt = reading.dot.decimals - reading.unit.scale.exponent.toInt ∧
      -9 ≤ sample.digits.toInt ∧ sample.digits.toInt ≤ 13 ∧
      if reading.count < Word.threshold ∧ reading.overload = false then
        ∃ amount, sample.amount = some amount ∧
          sample.value = amount.eval Float.ofInt ∧
          amount.toRat = reading.count.toInt * factor * (10 : Rat) ^ (-sample.digits.toInt) ∧
          amount.exponent.toInt = reading.unit.scale.exponent.toInt - reading.dot.decimals ∧
          amount.Exact
      else sample.amount = none ∧ sample.value = .inf := by
  intro factor
  -- the sample was measured, so that each of its fields is known
  have hmeasured : ¬ reading.IsValueless context := by
    intro hnone
    have hsample : (reading.interpret context channel).toSample = .noValue :=
      toSample_of_isValueless hnone
    rw [h] at hsample
    exact hvalue hsample
  obtain ⟨quantity, -, hinterpret⟩ := interpret_of_not_isValueless hmeasured channel
  obtain rfl : sample = reading.measured context channel quantity :=
    Interpretation.sample.inj (h.symm.trans hinterpret)
  have hdecimals := reading.dot.decimals_le
  obtain ⟨hnano, hgiga⟩ := reading.unit.scale_exponent_bounds
  have hdigits := reading.toInt_digits
  refine ⟨hdigits, ?_, ?_, ?_⟩
  · rw [measured, hdigits]
    omega
  · rw [measured, hdigits]
    omega
  -- the amount is left out exactly where the value is infinite
  · have hamount := reading.amount?_eq
    split
    case isTrue hnumber =>
      rw [if_pos hnumber] at hamount
      refine ⟨reading.shown, hamount, ?_, reading.toRat_shown_eq, reading.toInt_exponent,
        reading.exact_shown⟩
      rw [Sample.value, measured, hamount]
      rfl
    case isFalse hnumber =>
      rw [if_neg hnumber] at hamount
      exact ⟨hamount, Sample.value_eq_inf hamount⟩

/-- Half a minute below zero, in hundredths. -/
theorem interpret_value_of_minutes :
    let reading : Reading :=
      { count := -50, dot := .known .two, unit := .known .minute, content := .known .measuringData,
        overload := false }
    let sample := reading.measured {} .primary .time
    reading.interpret {} .primary = .sample sample ∧ sample ≠ .noValue ∧
      ∃ amount, sample.amount = some amount ∧
        amount.toRat = -50 * 60 * (10 : Rat) ^ (-sample.digits.toInt) := by
  intro reading sample
  have hinterpret : reading.interpret {} .primary = .sample sample := by decide
  have hvalue : sample ≠ .noValue := by decide
  have hnumber := (interpret_value hinterpret hvalue).2.2.2
  rw [if_pos (by decide)] at hnumber
  obtain ⟨amount, hamount, -, htoRat, -⟩ := hnumber
  exact ⟨hinterpret, hvalue, amount, hamount, htoRat⟩

end Reading

end Multimeter
