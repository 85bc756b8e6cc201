import Mathlib.Data.Nat.Bitwise
import Multimeter.Display
/-!
# What a display answer carries

A display answer packs its fields into bits. Three bytes keep the low 24 bits of a count, and the
bytes behind them keep the low bits of each number. A field that holds a known meaning by its bare
number is read back as the meaning. So what is read is what the bytes carry, and this is the answer
itself exactly when the answer is representable.

* `Coded.ofRaw_eq_iff`: the field that a number is read as.
* `Int24.decode_encode`, `Int24.carried_eq_iff`: what three bytes hold of a count, and which counts
  they hold unchanged.
* `Reading.decode?_encode`, `Display.decode?_encode`: what is read of what was written.
* `Reading.carried_eq_iff`, `Display.carried_eq_iff`: when it is what was written.
* `Reading.encode_of_decode?`, `Display.encode_of_decode?`: what was read is written with the same
  bytes, also where they hold numbers without a known meaning.
-/

namespace Multimeter

/-! ## Coded fields -/

namespace Coded

variable {α ρ : Type} [DecidableEq ρ] [Code α ρ]

/-- A meaning of the set is not held by its bare number. -/
def Canonical (field : Coded α ρ) : Prop :=
  ∀ (value : ρ) (code : α), field = unknown value → Code.raw code ≠ value

/-- What a raw value stands for is canonical. -/
theorem canonical_ofRaw (value : ρ) : (ofRaw value : Coded α ρ).Canonical := by
  intro number code hfield hcode
  have hnumber : number = value := by
    rw [← raw_ofRaw (α := α) value, hfield, raw]
  rw [← hnumber, ← hcode, ofRaw_raw_known] at hfield
  cases hfield

/-- A canonical field is read from its raw value again. -/
theorem ofRaw_raw {field : Coded α ρ} (h : field.Canonical) : ofRaw field.raw = field := by
  cases field with
  | known code => exact ofRaw_raw_known code
  | unknown value =>
    rw [raw, ofRaw]
    cases hcode : (Code.ofRaw? value : Option α) with
    | some code => exact absurd (Code.raw_of_ofRaw? hcode) (h value code rfl)
    | none => rfl

/-- A number is read as the field that has this number and holds no meaning by it. -/
theorem ofRaw_eq_iff {value : ρ} {field : Coded α ρ} :
    ofRaw value = field ↔ field.raw = value ∧ field.Canonical := by
  constructor
  · rintro rfl
    exact ⟨raw_ofRaw value, canonical_ofRaw value⟩
  · rintro ⟨rfl, hcanonical⟩
    exact ofRaw_raw hcanonical

end Coded

/-! ## Bits -/

section Bits

variable {mask : UInt8} {n : Nat}

/-- Masking the lowest bits of a byte is taking a remainder. -/
theorem toNat_and_mask (hmask : mask.toNat = 2 ^ n - 1) (byte : UInt8) :
    (byte &&& mask).toNat = byte.toNat % 2 ^ n := by
  rw [UInt8.toNat_and, hmask, Nat.and_two_pow_sub_one_eq_mod]

/-- The low bits of a byte are the byte exactly for the numbers that they can hold. -/
theorem and_mask_eq_iff (hmask : mask.toNat = 2 ^ n - 1) {byte : UInt8} :
    byte &&& mask = byte ↔ byte.toNat < 2 ^ n := by
  rw [← UInt8.toNat_inj, toNat_and_mask hmask,
    Nat.mod_eq_iff_lt (Nat.ne_of_gt (Nat.two_pow_pos n))]

/-- A field is read back from its low bits exactly if they can hold its number and it holds no
meaning by its bare number. -/
theorem Coded.ofRaw_and_mask_eq_iff {α : Type} [Code α UInt8] (hmask : mask.toNat = 2 ^ n - 1)
    {field : Coded α UInt8} :
    ofRaw (field.raw &&& mask) = field ↔ field.raw.toNat < 2 ^ n ∧ field.Canonical := by
  rw [ofRaw_eq_iff, eq_comm, and_mask_eq_iff hmask]

end Bits

/-- The byte of a unit and a decimal point holds the unit above the point. -/
theorem toNat_scale (unit dot : UInt8) :
    ((unit <<< 3) ||| (dot &&& 0x07)).toNat = 2 ^ 3 * (unit.toNat % 32) + dot.toNat % 2 ^ 3 := by
  have hunit : (unit <<< 3).toNat = 2 ^ 3 * (unit.toNat % 32) := by
    rw [UInt8.toNat_shiftLeft, Nat.shiftLeft_eq]
    show unit.toNat * 2 ^ 3 % 2 ^ 8 = 2 ^ 3 * (unit.toNat % 32)
    omega
  rw [UInt8.toNat_or, hunit, toNat_and_mask (n := 3) rfl,
    Nat.two_pow_add_eq_or_of_lt (Nat.mod_lt _ (by decide))]

/-- The lowest three bits of the packed byte are those of the point. -/
theorem scale_dot (unit dot : UInt8) :
    ((unit <<< 3) ||| (dot &&& 0x07)) &&& 0x07 = dot &&& 0x07 := by
  rw [← UInt8.toNat_inj, toNat_and_mask (n := 3) rfl, toNat_and_mask (n := 3) rfl, toNat_scale]
  omega

/-- The upper bits of the packed byte are those of the unit. -/
theorem scale_unit (unit dot : UInt8) :
    ((unit <<< 3) ||| (dot &&& 0x07)) >>> 3 = unit &&& 0x1f := by
  rw [← UInt8.toNat_inj, toNat_and_mask (n := 5) rfl, UInt8.toNat_shiftRight, toNat_scale,
    Nat.shiftRight_eq_div_pow]
  show (2 ^ 3 * (unit.toNat % 32) + dot.toNat % 2 ^ 3) / 2 ^ 3 = unit.toNat % 2 ^ 5
  omega

/-- No bit of the byte of a unit and a decimal point is lost. -/
theorem join_scale (scale : UInt8) :
    ((scale >>> 3) <<< 3) ||| ((scale &&& 0x07) &&& 0x07) = scale := by
  have hunit : (scale >>> 3).toNat = scale.toNat / 2 ^ 3 := by
    rw [UInt8.toNat_shiftRight, Nat.shiftRight_eq_div_pow]
    rfl
  have hscale := scale.toNat_lt
  rw [← UInt8.toNat_inj, toNat_scale, hunit, toNat_and_mask (n := 3) rfl]
  omega

/-- The byte of a number and a mark holds the mark above the number. -/
theorem toNat_marked (code : UInt8) (mark : Bool) :
    ((code &&& 0x7f) ||| (if mark then 0x80 else 0)).toNat =
      2 ^ 7 * mark.toNat + code.toNat % 2 ^ 7 := by
  have hmark : (if mark then 0x80 else 0 : UInt8).toNat = 2 ^ 7 * mark.toNat := by
    cases mark <;> rfl
  rw [UInt8.toNat_or, hmark, toNat_and_mask (n := 7) rfl, Nat.or_comm,
    Nat.two_pow_add_eq_or_of_lt (Nat.mod_lt _ (by decide))]

/-- The mark leaves the seven bits of the code alone. -/
theorem marked_code (code : UInt8) (mark : Bool) :
    ((code &&& 0x7f) ||| (if mark then 0x80 else 0)) &&& 0x7f = code &&& 0x7f := by
  rw [← UInt8.toNat_inj, toNat_and_mask (n := 7) rfl, toNat_and_mask (n := 7) rfl, toNat_marked]
  omega

/-- The highest bit tells the upper half of the bytes. -/
theorem and_high_ne_zero (byte : UInt8) : (byte &&& 0x80 != 0) = decide (0x80 ≤ byte.toNat) := by
  have hbit : (byte &&& 0x80).toNat = byte.toNat / 2 ^ 7 % 2 * 2 ^ 7 := by
    rw [UInt8.toNat_and, ← Nat.toNat_testBit]
    exact Nat.and_two_pow byte.toNat 7
  have hbyte := byte.toNat_lt
  rw [Bool.eq_iff_iff, bne_iff_ne, decide_eq_true_iff, ne_eq, ← UInt8.toNat_inj, hbit,
    UInt8.toNat_zero]
  omega

/-- The highest bit of the packed byte is the mark. -/
theorem marked_mark (code : UInt8) (mark : Bool) :
    (((code &&& 0x7f) ||| (if mark then 0x80 else 0)) &&& 0x80 != 0) = mark := by
  have hcode := Nat.mod_lt code.toNat (show 2 ^ 7 > 0 by decide)
  rw [and_high_ne_zero, toNat_marked]
  cases mark
  · exact decide_eq_false (by rw [Bool.toNat_false]; omega)
  · exact decide_eq_true (by rw [Bool.toNat_true]; omega)

/-- No bit of the byte of a number and a mark is lost. -/
theorem join_marked (byte : UInt8) :
    ((byte &&& 0x7f) &&& 0x7f) ||| (if byte &&& 0x80 != 0 then 0x80 else 0) = byte := by
  have hbyte := byte.toNat_lt
  rw [← UInt8.toNat_inj, toNat_marked, toNat_and_mask (n := 7) rfl, and_high_ne_zero]
  by_cases hmark : 0x80 ≤ byte.toNat
  · rw [decide_eq_true hmark, Bool.toNat_true]
    omega
  · rw [decide_eq_false hmark, Bool.toNat_false]
    omega

/-! ## Counts -/

namespace Int24

/-- What three bytes carry of a count: the number of 24 bits in two's complement. -/
def carried (count : Int32) : Int32 := Int32.ofInt (Int.bmod count.toInt 0x1000000)

/-- A number of 24 bits in two's complement is a count. -/
theorem toInt_ofInt_bmod (n : Int) :
    (Int32.ofInt (Int.bmod n 0x1000000)).toInt = Int.bmod n 0x1000000 := by
  have hle : -2 ^ 23 ≤ Int.bmod n 0x1000000 := Int.le_bmod (by decide)
  have hlt : Int.bmod n 0x1000000 < 2 ^ 23 := Int.bmod_lt (by decide)
  exact Int32.toInt_ofInt_of_le (by omega) (by omega)

/-- The bytes are the digits of a number below `2 ^ 24`. -/
theorem decode_digits {low : Nat} (h : low < 0x1000000) :
    decode (UInt8.ofNat low) (UInt8.ofNat (low / 0x100)) (UInt8.ofNat (low / 0x10000)) =
      Int32.ofInt (Int.bmod low 0x1000000) := by
  have hdigits : (UInt8.ofNat low).toNat + 0x100 * (UInt8.ofNat (low / 0x100)).toNat +
      0x10000 * (UInt8.ofNat (low / 0x10000)).toNat = low := by
    simp only [UInt8.toNat_ofNat']
    omega
  exact congrArg (fun value : Nat => Int32.ofInt (Int.bmod value 0x1000000)) hdigits

/-- A count is written as its three lowest digits to the base 256. -/
theorem encode_digits {n : Nat} (h : n < 0x1000000) :
    encode (Int32.ofInt (Int.bmod n 0x1000000)) =
      [UInt8.ofNat n, UInt8.ofNat (n / 0x100), UInt8.ofNat (n / 0x10000)] := by
  have hmod : Int.bmod n 0x1000000 % (0x1000000 : Nat) = n % (0x1000000 : Nat) := Int.bmod_emod
  have hdigits : ((Int32.ofInt (Int.bmod n 0x1000000)).toInt % 0x1000000).toNat = n := by
    rw [toInt_ofInt_bmod]
    omega
  rw [encode, hdigits]

/-- A count is read as what three bytes hold of it. -/
theorem decode_encode (count : Int32) :
    ∃ low middle high, encode count = [low, middle, high] ∧
      decode low middle high = carried count := by
  have hnat : ((count.toInt % 0x1000000).toNat : Int) = count.toInt % 0x1000000 := by omega
  have hdecode := @decode_digits (count.toInt % 0x1000000).toNat (by omega)
  have hmod : Int.bmod (count.toInt % 0x1000000) 0x1000000 = Int.bmod count.toInt 0x1000000 :=
    Int.emod_bmod count.toInt 0x1000000
  rw [hnat, hmod] at hdecode
  exact ⟨_, _, _, rfl, hdecode⟩

/-- Three bytes are written as they were read. -/
theorem encode_decode (low middle high : UInt8) :
    encode (decode low middle high) = [low, middle, high] := by
  have hlow := low.toNat_lt
  have hmiddle := middle.toNat_lt
  have hhigh := high.toNat_lt
  let number := low.toNat + 0x100 * middle.toNat + 0x10000 * high.toNat
  have hdigit (n : Nat) (byte : UInt8) (h : n % 0x100 = byte.toNat) : UInt8.ofNat n = byte := by
    rw [← UInt8.toNat_inj, UInt8.toNat_ofNat']
    exact h
  calc encode (decode low middle high)
      = [UInt8.ofNat number, UInt8.ofNat (number / 0x100), UInt8.ofNat (number / 0x10000)] :=
        encode_digits (by omega)
    _ = [low, middle, high] := by
        rw [hdigit number low (by omega), hdigit (number / 0x100) middle (by omega),
          hdigit (number / 0x10000) high (by omega)]

/-- Three bytes carry the counts of 24 bits unchanged. -/
theorem carried_eq_iff {count : Int32} :
    carried count = count ↔ -0x800000 ≤ count.toInt ∧ count.toInt < 0x800000 := by
  have hle : -2 ^ 23 ≤ Int.bmod count.toInt 0x1000000 := Int.le_bmod (by decide)
  have hlt : Int.bmod count.toInt 0x1000000 < 2 ^ 23 := Int.bmod_lt (by decide)
  rw [carried, ← Int32.toInt_inj, toInt_ofInt_bmod]
  constructor
  · intro h
    omega
  · rintro ⟨hlow, hhigh⟩
    exact Int.bmod_eq_of_le hlow hhigh

end Int24

/-! ## Readings -/

namespace Reading

/-- What the five bytes of a reading carry. -/
def carried (reading : Reading) : Reading where
  count := Int24.carried reading.count
  dot := .ofRaw (reading.dot.raw &&& 0x07)
  unit := .ofRaw (reading.unit.raw &&& 0x1f)
  content := .ofRaw (reading.content.raw &&& 0x7f)
  overload := reading.overload

/-- The count has 24 bits, every other number has the bits of its field, and no field holds a
meaning by its bare number. -/
structure Representable (reading : Reading) : Prop where
  count : -0x800000 ≤ reading.count.toInt ∧ reading.count.toInt < 0x800000
  dot : reading.dot.raw.toNat < 2 ^ 3 ∧ reading.dot.Canonical
  unit : reading.unit.raw.toNat < 2 ^ 5 ∧ reading.unit.Canonical
  content : reading.content.raw.toNat < 2 ^ 7 ∧ reading.content.Canonical

/-- A reading is read as what its bytes carry, whatever stands behind them. -/
theorem decode?_encode (reading : Reading) (rest : List UInt8) :
    decode? (reading.encode ++ rest) = some reading.carried := by
  obtain ⟨low, middle, high, hbytes, hcount⟩ := Int24.decode_encode reading.count
  rw [encode, hbytes]
  simp only [List.cons_append, List.nil_append, decode?, hcount, scale_dot, scale_unit, marked_code,
    marked_mark]
  rfl

/-- The bytes of a reading carry exactly the representable readings unchanged. -/
theorem carried_eq_iff {reading : Reading} :
    reading.carried = reading ↔ reading.Representable := by
  have hiff : reading.carried = reading ↔ Int24.carried reading.count = reading.count ∧
      .ofRaw (reading.dot.raw &&& 0x07) = reading.dot ∧
      .ofRaw (reading.unit.raw &&& 0x1f) = reading.unit ∧
      .ofRaw (reading.content.raw &&& 0x7f) = reading.content := by
    obtain ⟨count, dot, unit, content, overload⟩ := reading
    simp only [carried, Reading.mk.injEq, and_true]
  rw [hiff, Int24.carried_eq_iff, Coded.ofRaw_and_mask_eq_iff (n := 3) rfl,
    Coded.ofRaw_and_mask_eq_iff (n := 5) rfl, Coded.ofRaw_and_mask_eq_iff (n := 7) rfl]
  exact ⟨fun ⟨count, dot, unit, content⟩ => ⟨count, dot, unit, content⟩,
    fun h => ⟨h.count, h.dot, h.unit, h.content⟩⟩

/-- A reading is written with the bytes that it was read from. -/
theorem encode_of_decode? {bytes : List UInt8} {reading : Reading}
    (h : decode? bytes = some reading) : reading.encode = bytes.take size := by
  rcases bytes with _ | ⟨low, _ | ⟨middle, _ | ⟨high, _ | ⟨scale, _ | ⟨mode, rest⟩⟩⟩⟩⟩
  case cons.cons.cons.cons.cons =>
    obtain rfl := Option.some.inj h
    simp only [encode, Int24.encode_decode, Coded.raw_ofRaw, join_scale, join_marked]
    rfl
  all_goals cases h

end Reading

/-! ## Display answers -/

namespace Display

/-- What the bytes of a display answer carry. -/
def carried (display : Display) : Display where
  function := .ofRaw (display.function.raw &&& 0x7f)
  autoTest := display.autoTest
  range := display.range &&& 0x7f
  autoRange := display.autoRange
  primary := display.primary.carried
  secondary := display.secondary.carried

/-- The function and the range have seven bits, the function holds no meaning by its bare number,
and both readings are representable. -/
structure Representable (display : Display) : Prop where
  function : display.function.raw.toNat < 2 ^ 7 ∧ display.function.Canonical
  range : display.range.toNat < 2 ^ 7
  primary : display.primary.Representable
  secondary : display.secondary.Representable

/-- A display answer is read as what its bytes carry. -/
theorem decode?_encode (display : Display) : decode? display.encode = some display.carried := by
  have hprimary := Reading.decode?_encode display.primary display.secondary.encode
  have hsecondary := Reading.decode?_encode display.secondary []
  rw [List.append_nil] at hsecondary
  have hdrop : (display.primary.encode ++ display.secondary.encode).drop Reading.size =
      display.secondary.encode := List.drop_left' display.primary.length_encode
  unfold decode?
  rw [if_pos display.length_encode]
  simp only [encode, List.cons_append, List.nil_append, hprimary, hdrop, hsecondary, marked_code,
    marked_mark]
  rfl

/-- The bytes of a display answer carry exactly the representable answers unchanged. -/
theorem carried_eq_iff {display : Display} :
    display.carried = display ↔ display.Representable := by
  have hiff : display.carried = display ↔
      .ofRaw (display.function.raw &&& 0x7f) = display.function ∧
      display.range &&& 0x7f = display.range ∧ display.primary.carried = display.primary ∧
      display.secondary.carried = display.secondary := by
    obtain ⟨function, autoTest, range, autoRange, primary, secondary⟩ := display
    simp only [carried, Display.mk.injEq, true_and]
  rw [hiff, Coded.ofRaw_and_mask_eq_iff (n := 7) rfl, and_mask_eq_iff (n := 7) rfl,
    Reading.carried_eq_iff, Reading.carried_eq_iff]
  exact ⟨fun ⟨function, range, primary, secondary⟩ => ⟨function, range, primary, secondary⟩,
    fun h => ⟨h.function, h.range, h.primary, h.secondary⟩⟩

/-- A display answer is written with the bytes that it was read from. -/
theorem encode_of_decode? {bytes : List UInt8} {display : Display}
    (h : decode? bytes = some display) : display.encode = bytes := by
  simp only [decode?] at h
  split at h
  case isFalse => cases h
  case isTrue hlength =>
    split at h
    case h_2 => cases h
    case h_1 mode range readings =>
      obtain ⟨primary, hprimary, h⟩ := Option.bind_eq_some_iff.1 h
      obtain ⟨secondary, hsecondary, h⟩ := Option.bind_eq_some_iff.1 h
      obtain rfl := Option.some.inj h
      -- nothing stands behind the second reading
      have hreadings : readings.length = 2 * Reading.size := by
        simp only [size, List.length_cons] at hlength
        omega
      have hend : (readings.drop Reading.size).take Reading.size = readings.drop Reading.size :=
        List.take_of_length_le (by rw [List.length_drop]; omega)
      rw [encode, Reading.encode_of_decode? hprimary, Reading.encode_of_decode? hsecondary, hend]
      simp only [Coded.raw_ofRaw, join_marked, List.cons_append, List.nil_append,
        List.take_append_drop]

end Display

end Multimeter
