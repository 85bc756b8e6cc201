import Multimeter.Proofs.Interpretation.Measured
/-!
# Flags of samples

Three tables set the flags of a sample: what the display shows, what the function of the meter says
of the coupling, and the automatic range. Every flag belongs to one of them, so a question about
flags is a question about one table, whatever the others say.

* `Flags.contains_union`: a flag is in one of two sets.
* `Reading.contains_flags_of_coupling`, `Reading.contains_flags_of_content`: the table of a flag.
* `Sample.Consistent`: how the flags of a sample go together.
* `Reading.interpret_consistent`: the flags and the quantity of every sample.
-/

namespace Multimeter

/-! ## Sets of flags -/

namespace Flags

variable {a b c flag : Flags}

/-- A set contains another one if it has all of its bits. -/
theorem contains_iff :
    a.contains b = true ↔
      ∀ bit, b.bits.toNat.testBit bit = true → a.bits.toNat.testBit bit = true := by
  rw [contains, beq_iff_eq, ← UInt16.toNat_inj, UInt16.toNat_and]
  constructor
  · intro h bit hbit
    rw [← h, Nat.testBit_and, Bool.and_eq_true] at hbit
    exact hbit.1
  · intro h
    refine Nat.eq_of_testBit_eq fun bit => ?_
    rw [Nat.testBit_and]
    cases hbit : b.bits.toNat.testBit bit with
    | false => exact Bool.and_false _
    | true => rw [h bit hbit, Bool.and_true]

/-- A bit is set in a union just when one of the two sets has it. -/
theorem testBit_union (bit : Nat) :
    (a ||| b).bits.toNat.testBit bit = (a.bits.toNat.testBit bit || b.bits.toNat.testBit bit) := by
  rw [← Nat.testBit_or, ← UInt16.toNat_or]
  rfl

/-- A set contains what two sets have together if it contains both. -/
theorem contains_union_right : c.contains (a ||| b) = (c.contains a && c.contains b) := by
  rw [Bool.eq_iff_iff, Bool.and_eq_true, contains_iff, contains_iff, contains_iff]
  simp only [testBit_union, Bool.or_eq_true, or_imp, forall_and]

/-- The flags that have a name. -/
def all : List Flags := named.map Prod.fst

/-- All flags together. -/
def every : Flags := all.foldr union none

/-- Each flag is one bit. -/
theorem exists_bit_of_mem_all (h : flag ∈ all) :
    ∃ bit, ∀ other, flag.bits.toNat.testBit other = decide (bit = other) := by
  -- no flag is the union of others
  have hpow : ∀ flag ∈ all, flag.bits.toNat = 2 ^ flag.bits.toNat.log2 := by decide
  refine ⟨flag.bits.toNat.log2, fun other => ?_⟩
  rw [← Nat.testBit_two_pow, ← hpow flag h]

/-- A flag is in what two sets have together if it is in one of them. -/
theorem contains_union (h : flag ∈ all) :
    (a ||| b).contains flag = (a.contains flag || b.contains flag) := by
  obtain ⟨bit, hbit⟩ := exists_bit_of_mem_all h
  -- one bit tells whether the flag is in a set
  have hcontains : ∀ flags : Flags, flags.contains flag = flags.bits.toNat.testBit bit := by
    intro flags
    rw [Bool.eq_iff_iff, contains_iff]
    simp [hbit]
  rw [hcontains, hcontains, hcontains, testBit_union]

/-! ## Tables -/

/-- The flags that a function sets. -/
def couplings : List Flags := [ac, dc, rms, diode]

/-- The flags that the content of a display sets. -/
def contents : List Flags := [hold, max, min, avg, relative, reference]

/-- The sets of flags that the contents of a display stand for. -/
def ofContents : Channel → List Flags
  | .primary => [none, max, min, avg, relative]
  | .secondary => [none, max, min, avg, hold, max ||| hold, min ||| hold, reference]

/-- The sets of flags that couplings add. -/
def ofCouplings (electrical : Bool) : List Flags :=
  if electrical then [none, ac ||| rms, dc, ac ||| dc ||| rms, diode ||| dc]
  else [none, diode ||| dc]

end Flags

/-- The flags of every content are among those of its channel. -/
theorem Coded.contentFlags_mem (content : Coded DataContent UInt8) (channel : Channel) :
    content.contentFlags channel ∈ Flags.ofContents channel := by
  cases content with
  | known content => cases content <;> cases channel <;> decide
  | unknown raw => cases channel <;> exact List.mem_cons_self

/-- The flags of every coupling are among those of couplings. -/
theorem Coupling.flags_mem (coupling : Coupling) (electrical : Bool) :
    coupling.flags electrical ∈ Flags.ofCouplings electrical := by
  cases coupling <;> cases electrical <;> decide

namespace Reading

variable (reading : Reading) (context : Context) (channel : Channel) {flag : Flags}

/-- A flag of a sample comes from one of the three tables. -/
theorem contains_flags (h : flag ∈ Flags.all) :
    (reading.flags context channel).contains flag =
      ((reading.content.contentFlags channel).contains flag
        || (if context.autoRange then Flags.autorange else Flags.none).contains flag
        || (context.function.coupling.flags reading.unit.scale.unit.isElectrical).contains
          flag) := by
  rw [flags, Flags.contains_union h, Flags.contains_union h]

/-- The coupling is told by the function alone. -/
theorem contains_flags_of_coupling (h : flag ∈ Flags.couplings) :
    (reading.flags context channel).contains flag =
      (context.function.coupling.flags reading.unit.scale.unit.isElectrical).contains flag := by
  have hall : ∀ flag ∈ Flags.couplings, flag ∈ Flags.all := by decide
  -- the other two tables have no such flag
  have hcontent : ∀ flags ∈ Flags.ofContents channel, ∀ flag ∈ Flags.couplings,
      flags.contains flag = false := by cases channel <;> decide
  have hauto : ∀ auto : Bool, ∀ flag ∈ Flags.couplings,
      (if auto then Flags.autorange else Flags.none).contains flag = false := by decide
  rw [contains_flags _ _ _ (hall flag h),
    hcontent _ (reading.content.contentFlags_mem channel) flag h, hauto _ flag h, Bool.false_or,
    Bool.false_or]

/-- What is held, extreme or relative is told by the content alone. -/
theorem contains_flags_of_content (h : flag ∈ Flags.contents) :
    (reading.flags context channel).contains flag =
      (reading.content.contentFlags channel).contains flag := by
  have hall : ∀ flag ∈ Flags.contents, flag ∈ Flags.all := by decide
  have hcoupling : ∀ electrical, ∀ flags ∈ Flags.ofCouplings electrical, ∀ flag ∈ Flags.contents,
      flags.contains flag = false := by decide
  have hauto : ∀ auto : Bool, ∀ flag ∈ Flags.contents,
      (if auto then Flags.autorange else Flags.none).contains flag = false := by decide
  rw [contains_flags _ _ _ (hall flag h), hcoupling _ _ (Coupling.flags_mem _ _) flag h,
    hauto _ flag h, Bool.or_false, Bool.or_false]

/-- A flag that the table has for one channel only is found on this channel only. -/
theorem channel_eq_of_contains_flags (h : flag ∈ Flags.contents) {only : Channel}
    (htable : ∀ flags ∈ Flags.ofContents channel, flags.contains flag = true → channel = only)
    (hflag : (reading.flags context channel).contains flag = true) : channel = only := by
  rw [contains_flags_of_content _ _ _ h] at hflag
  exact htable _ (reading.content.contentFlags_mem channel) hflag

/-- The automatic range is told by the mode alone. -/
theorem contains_flags_autorange :
    (reading.flags context channel).contains .autorange = context.autoRange := by
  have hcontent : ∀ flags ∈ Flags.ofContents channel, flags.contains .autorange = false := by
    cases channel <;> decide
  have hcoupling : ∀ electrical, ∀ flags ∈ Flags.ofCouplings electrical,
      flags.contains .autorange = false := by decide
  have hauto : ∀ auto : Bool,
      (if auto then Flags.autorange else Flags.none).contains .autorange = auto := by decide
  rw [contains_flags _ _ _ (by decide), hcontent _ (reading.content.contentFlags_mem channel),
    hcoupling _ _ (Coupling.flags_mem _ _), hauto, Bool.or_false, Bool.false_or]

end Reading

/-! ## Samples -/

/-- The flags of a sample that was taken on `channel` go together. -/
structure Sample.Consistent (sample : Sample) (channel : Channel) : Prop where
  /-- A root mean square is of an alternating quantity. -/
  rms : sample.flags.contains .ac = sample.flags.contains .rms
  /-- The forward voltage of a diode is direct. -/
  diode : sample.flags.contains .diode = true → sample.flags.contains .dc = true
  /-- Only electrical quantities are alternating or, but for a diode, direct. -/
  electrical :
    sample.flags.contains .ac = true ∨
      sample.flags.contains .dc = true ∧ sample.flags.contains .diode = false →
    sample.unit = .volt ∨ sample.unit = .ampere ∨ sample.unit = .watt
  /-- Held values are shown on the secondary display only. -/
  hold : sample.flags.contains .hold = true → channel = .secondary
  /-- References are shown on the secondary display only. -/
  reference : sample.flags.contains .reference = true → channel = .secondary
  /-- Values relative to a reference are shown on the primary display only. -/
  relative : sample.flags.contains .relative = true → channel = .primary
  /-- A value is not extreme, average, relative or a reference in two ways. -/
  exclusive :
    [Flags.max, .min, .avg, .relative, .reference].Pairwise fun a b =>
      ¬ (sample.flags.contains a = true ∧ sample.flags.contains b = true)
  /-- No bit is set that is no flag. -/
  named : Flags.every.contains sample.flags = true

/-- The electrical units are the volt, the ampere and the watt. -/
theorem SiUnit.isElectrical_iff {unit : SiUnit} :
    unit.isElectrical = true ↔ unit = .volt ∨ unit = .ampere ∨ unit = .watt := by
  cases unit <;> decide

/-- The sample without a value has no flags at all. -/
theorem Sample.consistent_noValue (channel : Channel) : noValue.Consistent channel where
  rms := by decide
  diode := by decide
  electrical := by decide
  hold h := absurd h (by decide)
  reference h := absurd h (by decide)
  relative h := absurd h (by decide)
  exclusive := by decide
  named := by decide

namespace Reading

variable (reading : Reading) (context : Context) (channel : Channel)

/-- The flags of a sample that was measured go together. -/
theorem consistent_measured (quantity : Quantity) :
    (reading.measured context channel quantity).Consistent channel := by
  have hof {flag : Flags} (h : flag ∈ Flags.couplings) :=
    reading.contains_flags_of_coupling context channel h
  have hshown {flag : Flags} (h : flag ∈ Flags.contents) :=
    reading.contains_flags_of_content context channel h
  have hcoupling :=
    Coupling.flags_mem context.function.coupling reading.unit.scale.unit.isElectrical
  have hcontent := reading.content.contentFlags_mem channel
  constructor
  -- what the coupling tells
  case rms =>
    have htable : ∀ electrical, ∀ flags ∈ Flags.ofCouplings electrical,
        flags.contains .ac = flags.contains .rms := by decide
    rw [measured, hof (by decide), hof (by decide)]
    exact htable _ _ hcoupling
  case diode =>
    have htable : ∀ electrical, ∀ flags ∈ Flags.ofCouplings electrical,
        flags.contains .diode = true → flags.contains .dc = true := by decide
    rw [measured, hof (by decide), hof (by decide)]
    exact htable _ _ hcoupling
  case electrical =>
    have htable : ∀ electrical, ∀ flags ∈ Flags.ofCouplings electrical,
        flags.contains .ac = true ∨ flags.contains .dc = true ∧ flags.contains .diode = false →
        electrical = true := by decide
    rw [measured, hof (by decide), hof (by decide), hof (by decide), ← SiUnit.isElectrical_iff]
    exact htable _ _ hcoupling
  -- what the content tells
  case hold =>
    exact reading.channel_eq_of_contains_flags context channel (by decide)
      (by cases channel <;> decide)
  case reference =>
    exact reading.channel_eq_of_contains_flags context channel (by decide)
      (by cases channel <;> decide)
  case relative =>
    exact reading.channel_eq_of_contains_flags context channel (by decide)
      (by cases channel <;> decide)
  case exclusive =>
    have htable : ∀ flags ∈ Flags.ofContents channel,
        [Flags.max, .min, .avg, .relative, .reference].Pairwise fun a b =>
          ¬ (flags.contains a = true ∧ flags.contains b = true) := by cases channel <;> decide
    have hsub : ∀ flag ∈ [Flags.max, .min, .avg, .relative, .reference], flag ∈ Flags.contents := by
      decide
    refine (htable _ hcontent).imp_of_mem fun ha hb h => ?_
    rw [measured, hshown (hsub _ ha), hshown (hsub _ hb)]
    exact h
  case named =>
    have hauto : ∀ auto : Bool,
        Flags.every.contains (if auto then Flags.autorange else Flags.none) = true := by decide
    have htable : ∀ flags ∈ Flags.ofContents channel, Flags.every.contains flags = true := by
      cases channel <;> decide
    have hadded : ∀ electrical, ∀ flags ∈ Flags.ofCouplings electrical,
        Flags.every.contains flags = true := by decide
    rw [measured, flags, Flags.contains_union_right, Flags.contains_union_right, htable _ hcontent,
      hauto, hadded _ _ hcoupling]
    rfl

/-- The flags of every sample go together. It has no value exactly if the display has none; else the
automatic range is the meter's, and continuity is measured exactly if the meter is set to it. -/
theorem interpret_consistent (reading : Reading) (context : Context) (channel : Channel) :
    let sample := (reading.interpret context channel).toSample
    sample.Consistent channel ∧
      (sample = .noValue ↔ reading.IsValueless context) ∧
      (¬ reading.IsValueless context →
        sample.flags.contains .autorange = context.autoRange ∧
        (sample.quantity = .continuity ↔ context.function = .known .continuity)) := by
  intro sample
  -- what holds of each flag holds of the sample without flags as well
  by_cases hvalue : reading.IsValueless context
  · have hsample : sample = .noValue := toSample_of_isValueless hvalue
    refine ⟨?_, toSample_eq_noValue_iff, fun h => absurd hvalue h⟩
    rw [hsample]
    exact Sample.consistent_noValue channel
  · obtain ⟨quantity, hquantity, hmeasured⟩ := interpret_of_not_isValueless hvalue channel
    have hsample : sample = reading.measured context channel quantity :=
      congrArg Interpretation.toSample hmeasured
    refine ⟨?_, toSample_eq_noValue_iff, fun _ => ?_⟩
    · rw [hsample]
      exact reading.consistent_measured context channel quantity
    · rw [hsample]
      exact ⟨reading.contains_flags_autorange context channel, quantity_eq_continuity_iff hquantity⟩

/-- A held peak of a voltage with both couplings, on the secondary display. -/
theorem interpret_consistent_of_peak :
    let reading : Reading :=
      { count := 1234, dot := .known .two, unit := .known .milliVolt,
        content := .known .peakHoldMax, overload := false }
    let context : Context := { function := .known .acDcMv, autoRange := true }
    let sample := (reading.interpret context .secondary).toSample
    ¬ reading.IsValueless context ∧
      sample.flags.names = ["AC", "DC", "RMS", "HOLD", "MAX", "AUTORANGE"] ∧
      sample.flags.contains .autorange = context.autoRange ∧
      (sample.quantity = .continuity ↔ context.function = .known .continuity) := by
  intro reading context sample
  have hvalue : ¬ reading.IsValueless context := by decide
  exact ⟨hvalue, by decide, (interpret_consistent reading context .secondary).2.2 hvalue⟩

end Reading

end Multimeter
