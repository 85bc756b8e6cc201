import Multimeter.Interpretation
/-!
# Readings with and without a value

A display has no value if it shows a word, or a number without a unit; dashes count as a number that
is not known yet, and continuity needs no unit. Every other reading means a sample with its own
quantity.

* `Reading.IsValueless`: the readings without a value.
* `Reading.measured`: the sample of the others.
* `Reading.toSample_of_isValueless`, `Reading.interpret_of_not_isValueless`: what each of them
  means.
-/

namespace Multimeter

/-- A number is read as a known meaning exactly if it is the number of this meaning. -/
theorem Coded.ofRaw_eq_known_iff {α ρ : Type} [DecidableEq ρ] [Code α ρ] {value : ρ} {code : α} :
    ofRaw value = known code ↔ Code.raw code = value := by
  rw [← Code.ofRaw?_eq_some_iff, ofRaw]
  cases (Code.ofRaw? value : Option α) with
  | none => simp
  | some other => simp

/-- Three words are dashes. -/
theorem Word.isDash_iff {word : Word} :
    word.isDash = true ↔
      word = .known .dash ∨ word = .known .dash1 ∨ word = .known .dash2 := by
  cases word with
  | known code => cases code <;> decide
  | unknown raw => simp [isDash]

namespace Reading

/-- The count of dashes. -/
def IsDashed (reading : Reading) : Prop :=
  reading.count = 0x700014 ∨ reading.count = 0x700015 ∨ reading.count = 0x700017

instance (reading : Reading) : Decidable reading.IsDashed := inferInstanceAs (Decidable (_ ∨ _))

/-- The display shows a word other than dashes, or no unit while the meter is not set
to continuity. -/
def IsValueless (reading : Reading) (context : Context) : Prop :=
  Word.threshold ≤ reading.count ∧ ¬ reading.IsDashed ∨
  (reading.unit = .known .none ∨ reading.unit.isUnknown = true) ∧
    context.function ≠ .known .continuity

instance (reading : Reading) (context : Context) : Decidable (reading.IsValueless context) :=
  inferInstanceAs (Decidable (_ ∨ _))

/-- The sample of a reading with a value of this quantity. -/
def measured (reading : Reading) (context : Context) (channel : Channel) (quantity : Quantity) :
    Sample where
  amount := reading.amount?
  digits := Int8.ofNat reading.dot.decimals - reading.unit.scale.exponent
  unit := reading.unit.scale.unit
  quantity
  flags := reading.flags context channel

variable {reading : Reading} {context : Context} {channel : Channel} {quantity : Quantity}

/-- The word of a count from the threshold on is dashes for three counts. -/
theorem isDash_ofRaw_iff :
    Word.isDash (Coded.ofRaw reading.count.toUInt32) = true ↔ reading.IsDashed := by
  -- counts are compared as the words that they are read from
  have hcount (count : Int32) :
      count.toUInt32 = reading.count.toUInt32 ↔ reading.count = count := by
    rw [eq_comm]
    exact ⟨congrArg UInt32.toInt32, congrArg Int32.toUInt32⟩
  rw [Word.isDash_iff, Coded.ofRaw_eq_known_iff, Coded.ofRaw_eq_known_iff, Coded.ofRaw_eq_known_iff]
  exact or_congr (hcount 0x700014) (or_congr (hcount 0x700015) (hcount 0x700017))

/-- A count from the threshold on stands for a word. -/
theorem word?_of_le (h : Word.threshold ≤ reading.count) :
    reading.word? = some (.ofRaw reading.count.toUInt32) := if_pos h

/-- A count below the threshold is a number. -/
theorem word?_of_lt (h : ¬ Word.threshold ≤ reading.count) : reading.word? = none := if_neg h

/-- No word is shown in place of a number exactly below the threshold and for dashes. -/
theorem notice?_eq_none_iff :
    reading.notice? = none ↔ ¬ (Word.threshold ≤ reading.count ∧ ¬ reading.IsDashed) := by
  by_cases hword : Word.threshold ≤ reading.count
  · rw [notice?, word?_of_le hword, ← isDash_ofRaw_iff]
    simp [Option.filter, hword]
  · rw [notice?, word?_of_lt hword]
    exact iff_of_true rfl fun h => hword h.1

/-- A unit tells what is measured, unless there is none. -/
theorem scale_quantity_eq_none_iff {unit : Coded DisplayUnit UInt8} :
    unit.scale.quantity = none ↔ unit = .known .none ∨ unit.isUnknown = true := by
  cases unit with
  | known unit => cases unit <;> decide
  | unknown raw => exact iff_of_true rfl (.inr rfl)

/-- Units tell neither continuity nor a plain count. -/
theorem scale_quantity_ne (unit : Coded DisplayUnit UInt8) :
    unit.scale.quantity ≠ some .continuity ∧ unit.scale.quantity ≠ some .count := by
  cases unit with
  | known unit => cases unit <;> decide
  | unknown raw => simp [Coded.scale, DisplayUnit.scale]

/-- Continuity is measured by one function only. -/
theorem coupling_eq_continuity_iff {function : Coded FunctionCode UInt8} :
    function.coupling = .continuity ↔ function = .known .continuity := by
  cases function with
  | known function => cases function <;> decide
  | unknown raw => simp [Coded.coupling]

/-- Nothing is measured without a unit, unless the meter is set to continuity. -/
theorem quantity?_eq_none_iff :
    reading.quantity? context = none ↔
      (reading.unit = .known .none ∨ reading.unit.isUnknown = true) ∧
        context.function ≠ .known .continuity := by
  rw [quantity?, ← scale_quantity_eq_none_iff, ne_eq, ← coupling_eq_continuity_iff]
  split
  · simp [*]
  · simp [*]

/-- A reading without a value means no sample of its own. -/
theorem toSample_of_isValueless (h : reading.IsValueless context) :
    (reading.interpret context channel).toSample = .noValue := by
  rw [interpret]
  cases hnotice : reading.notice? with
  | some word => rfl
  | none =>
    rcases h with hword | hunit
    · exact absurd hword (notice?_eq_none_iff.1 hnotice)
    · simp only [quantity?_eq_none_iff.2 hunit]
      rfl

/-- Every other reading means a sample that was measured. -/
theorem interpret_of_not_isValueless (h : ¬ reading.IsValueless context) (channel : Channel) :
    ∃ quantity, reading.quantity? context = some quantity ∧
      reading.interpret context channel =
        .sample (reading.measured context channel quantity) := by
  obtain ⟨hword, hunit⟩ := not_or.1 h
  -- neither of the first two branches is taken
  obtain ⟨quantity, hquantity⟩ := Option.ne_none_iff_exists'.1 (mt quantity?_eq_none_iff.1 hunit)
  refine ⟨quantity, hquantity, ?_⟩
  simp only [interpret, notice?_eq_none_iff.2 hword, hquantity]
  rfl

/-- What is measured is continuity exactly if the meter is set to it. -/
theorem quantity_eq_continuity_iff (h : reading.quantity? context = some quantity) :
    quantity = .continuity ↔ context.function = .known .continuity := by
  rw [quantity?] at h
  split at h
  case isTrue hcoupling =>
    obtain rfl := Option.some.inj h
    exact iff_of_true rfl (coupling_eq_continuity_iff.1 hcoupling)
  case isFalse hcoupling =>
    refine iff_of_false ?_ (mt coupling_eq_continuity_iff.2 hcoupling)
    rintro rfl
    exact (scale_quantity_ne reading.unit).1 h

/-- A reading with a value does not mean the sample without one, which measures a plain count. -/
theorem measured_ne_noValue (h : reading.quantity? context = some quantity) :
    reading.measured context channel quantity ≠ .noValue := by
  intro hnone
  have hcount : quantity = .count := congrArg Sample.quantity hnone
  rw [quantity?, hcount] at h
  split at h
  case isTrue => cases h
  case isFalse => exact (scale_quantity_ne reading.unit).2 h

/-- A reading means the sample without a value exactly if it has none. -/
theorem toSample_eq_noValue_iff :
    (reading.interpret context channel).toSample = .noValue ↔ reading.IsValueless context := by
  by_cases hvalue : reading.IsValueless context
  · exact iff_of_true (toSample_of_isValueless hvalue) hvalue
  · obtain ⟨quantity, hquantity, hmeasured⟩ := interpret_of_not_isValueless hvalue channel
    rw [hmeasured]
    exact iff_of_false (measured_ne_noValue hquantity) hvalue

end Reading

end Multimeter
