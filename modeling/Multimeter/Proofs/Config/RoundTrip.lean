import Multimeter.Config.Packed
/-!
# Packed configurations, written and read

A packed configuration is the fields in order, and each field tells by itself where it ends. So a
reader takes exactly the bytes that were written, whatever stands behind them, and one that meets
the end of the bytes too early notices it. Nothing is read that is not valid.

* `Varint.Spells`: the groups of seven bits that spell a number.
* `Reads read written value`: `read` takes `written` for `value` and no less than all of it. Readers
  in a row read what was written in a row (`Reads.bind`).
* `packed_round_trip`: what is written of a configuration, and what is read from bytes.
-/

namespace Multimeter

namespace Varint

/-- The bytes spell a number in groups of seven bits, lowest first. All bytes but the last have the
high bit, and the last of several is not zero. -/
inductive Spells : Nat → List UInt8 → Prop
  | last {byte : UInt8} (hbyte : byte.toNat < 128) : Spells byte.toNat [byte]
  | more {byte : UInt8} {higher : Nat} {bytes : List UInt8} (hbyte : 128 ≤ byte.toNat)
      (hpos : 0 < higher) (hrest : Spells higher bytes) :
      Spells (byte.toNat - 128 + 128 * higher) (byte :: bytes)

/-- What is written spells the number. -/
theorem spells_encode (n : Nat) : Spells n (encode n) := by
  fun_induction encode n with
  | case1 n hsmall =>
    have hbyte : (UInt8.ofNat n).toNat = n := by
      rw [UInt8.toNat_ofNat']
      omega
    have hlow : (UInt8.ofNat n).toNat < 128 := by rwa [hbyte]
    have hspells := Spells.last hlow
    rwa [hbyte] at hspells
  | case2 n hlarge ih =>
    have hbyte : (UInt8.ofNat (n % 128 + 128)).toNat = n % 128 + 128 := by
      rw [UInt8.toNat_ofNat']
      omega
    have hhigh : 128 ≤ (UInt8.ofNat (n % 128 + 128)).toNat := by
      rw [hbyte]
      exact Nat.le_add_left _ _
    have hspells := Spells.more hhigh (Nat.div_pos (by omega) (by decide)) ih
    rwa [hbyte, Nat.add_sub_cancel, Nat.mod_add_div] at hspells

end Varint

/-! ## Readers -/

section Readers

variable {α β : Type} {read : List UInt8 → Option (α × List UInt8)} {written : List UInt8}
    {value : α}

/-- The reader takes `written` for `value`, whatever stands behind it, and refuses what breaks off
before the end of it. -/
structure Reads (read : List UInt8 → Option (α × List UInt8)) (written : List UInt8) (value : α) :
    Prop where
  /-- What stands behind is left. -/
  whole (behind : List UInt8) : read (written ++ behind) = some (value, behind)
  /-- Nothing less is read. -/
  broken {start : List UInt8} : start <+: written → start ≠ written → read start = none

/-- A reader that takes nothing reads a value from no bytes. -/
theorem reads_pure (value : α) : Reads (fun bytes => some (value, bytes)) [] value where
  whole _ := rfl
  broken hstart hne := absurd (List.prefix_nil.1 hstart) hne

/-- Readers in a row read what was written in a row. -/
theorem Reads.bind {next : α × List UInt8 → Option (β × List UInt8)} {later : List UInt8}
    {result : β} (h : Reads read written value)
    (hnext : Reads (fun bytes => next (value, bytes)) later result) :
    Reads (fun bytes => read bytes >>= next) (written ++ later) result where
  whole behind := by
    rw [List.append_assoc, h.whole]
    exact hnext.whole behind
  broken {start} hstart hne := by
    -- the bytes break off either behind the first part or before the end of it
    by_cases hfirst : written <+: start
    · obtain ⟨rest, rfl⟩ := hfirst
      have hrest : rest <+: later := (List.prefix_append_right_inj written).1 hstart
      rw [h.whole]
      exact hnext.broken hrest fun heq => hne (by rw [heq])
    · have hbefore : start <+: written :=
        (List.prefix_or_prefix_of_prefix hstart (List.prefix_append written later)).resolve_right
          hfirst
      have hproper : start ≠ written := fun heq => hfirst (heq ▸ List.prefix_rfl)
      rw [h.broken hbefore hproper]
      rfl

/-- What is read may be turned into something else. -/
theorem Reads.convert {next : α × List UInt8 → Option (β × List UInt8)} {result : β}
    (h : Reads read written value) (hnext : ∀ rest, next (value, rest) = some (result, rest)) :
    Reads (fun bytes => read bytes >>= next) written result := by
  have hpure : Reads (fun bytes => next (value, bytes)) [] result := by
    rw [funext hnext]
    exact reads_pure result
  have hbind := h.bind hpure
  rwa [List.append_nil] at hbind

/-- A single byte is read or missing. -/
theorem reads_singleton {byte : UInt8}
    (hread : ∀ behind, read (byte :: behind) = some (value, behind))
    (hnil : read [] = none) : Reads read [byte] value where
  whole := hread
  broken {start} hstart hne := by
    rcases List.prefix_cons_iff.1 hstart with rfl | ⟨rest, rfl, hrest⟩
    · exact hnil
    · exact absurd (by rw [List.prefix_nil.1 hrest]) hne

end Readers

namespace Varint

/-- A number is read from the bytes that spell it, if that many bytes are allowed. -/
theorem Spells.reads {n : Nat} {bytes : List UInt8} (h : Spells n bytes) {limit : Nat}
    (hlimit : bytes.length ≤ limit) : Reads (decode? limit) bytes n := by
  -- the reader takes one byte and reads on with one byte less allowed
  induction h generalizing limit with
  | @last byte hbyte =>
    obtain ⟨limit, rfl⟩ := Nat.exists_eq_add_one.2 hlimit
    exact reads_singleton (fun _ => if_pos hbyte) rfl
  | @more byte higher bytes hbyte hpos hrest ih =>
    obtain ⟨limit, rfl⟩ := Nat.exists_eq_add_one.2 (Nat.lt_of_lt_of_le (Nat.succ_pos _) hlimit)
    have hhigher := ih (Nat.le_of_succ_le_succ hlimit)
    have hstep (rest : List UInt8) : decode? (limit + 1) (byte :: rest) =
        (decode? limit rest).bind fun higher =>
          some (byte.toNat - 128 + 128 * higher.1, higher.2) := if_neg (Nat.not_lt.2 hbyte)
    refine ⟨fun behind => ?_, fun {start} hstart hne => ?_⟩
    · rw [List.cons_append, hstep, hhigher.whole]
      rfl
    · rcases List.prefix_cons_iff.1 hstart with rfl | ⟨rest, rfl, hrest⟩
      · rfl
      · rw [hstep, hhigher.broken hrest fun heq => hne (by rw [heq])]
        rfl

/-- A 32-bit number is read from what was written of it. -/
theorem reads_word (n : UInt32) : Reads word? (encode n.toNat) n := by
  refine ((spells_encode n.toNat).reads (length_encode_le_five n.toNat_lt)).convert fun rest => ?_
  show (if n.toNat < UInt32.size then some (UInt32.ofNat n.toNat, rest) else none) = _
  rw [if_pos n.toNat_lt, UInt32.ofNat_toNat]

/-- A choice is read from what was written of its position. -/
theorem reads_choice {α : Type} [Code α Nat] (code : α)
    (hcode : (Code.raw code : Nat) < UInt32.size) :
    Reads (choice? α) (encode (Code.raw code)) code := by
  have hraw : (UInt32.ofNat (Code.raw code)).toNat = Code.raw code :=
    UInt32.toNat_ofNat_of_lt' hcode
  have hread := reads_word (UInt32.ofNat (Code.raw code))
  rw [hraw] at hread
  refine hread.convert fun rest => ?_
  show ((Code.ofRaw? (UInt32.ofNat (Code.raw code)).toNat).bind fun code => some (code, rest)) = _
  rw [hraw, Code.ofRaw?_raw]
  rfl

end Varint

namespace Config

/-- The numbers of a configuration have at most 32 bits. -/
theorem lt_size_of_mem_numbers (config : Config) {number : Nat} (h : number ∈ config.numbers) :
    number < UInt32.size := by
  simp only [numbers, List.mem_cons, List.not_mem_nil, or_false] at h
  rcases h with rfl | rfl | rfl | rfl | rfl | rfl | rfl | rfl
  -- there are at most three choices of a kind
  case inr.inl => cases config.line.dataBits <;> decide
  case inr.inr.inl => cases config.line.parity <;> decide
  case inr.inr.inr.inl => cases config.line.stopBits <;> decide
  all_goals exact UInt32.toNat_lt _

/-- A configuration is read from what was written of it. -/
theorem reads_pack (config : Config) : Reads unpack? config.pack config := by
  have hsize {number : Nat} (h : number ∈ config.numbers) : number < UInt32.size :=
    config.lt_size_of_mem_numbers h
  show Reads _ (Varint.encode _ ++ (Varint.encode _ ++ (Varint.encode _ ++ (Varint.encode _ ++
    (Varint.encode _ ++ (Varint.encode _ ++ (Varint.encode _ ++ (Varint.encode _ ++
      ([config.maxErrors] ++ []))))))))) _
  refine (Varint.reads_word config.line.baudrate).bind ?_
  refine (Varint.reads_choice config.line.dataBits (hsize (by simp [numbers]))).bind ?_
  refine (Varint.reads_choice config.line.parity (hsize (by simp [numbers]))).bind ?_
  refine (Varint.reads_choice config.line.stopBits (hsize (by simp [numbers]))).bind ?_
  refine (Varint.reads_word config.pollInterval).bind ?_
  refine (Varint.reads_word config.receiveTimeout).bind ?_
  refine (Varint.reads_word config.readTimeout).bind ?_
  refine (Varint.reads_word config.writeTimeout).bind ?_
  exact (reads_singleton (fun _ => rfl) rfl).bind (reads_pure config)

/-! ## Writing -/

/-- Fields are written if all of them fit, one behind the other. -/
theorem writeFields_eq (fields : List (List UInt8)) (buffer : List UInt8) :
    writeFields fields buffer =
      if fields.flatten.length ≤ buffer.length then
        some (fields.flatten, buffer.drop fields.flatten.length)
      else none := by
  induction fields generalizing buffer with
  | nil => rfl
  | cons field fields ih =>
    rw [writeFields, ih, List.flatten_cons, List.length_append, List.length_drop]
    by_cases hfield : field.length ≤ buffer.length
    · rw [if_pos hfield]
      by_cases hrest : fields.flatten.length ≤ buffer.length - field.length
      · rw [if_pos hrest, if_pos (by omega), List.drop_drop]
        rfl
      · rw [if_neg hrest, if_neg (by omega)]
        rfl
    · rw [if_neg hfield, if_neg (by omega)]

/-- Packing into a buffer succeeds just when there is room for all the bytes, and leaves the bytes
behind them alone. -/
theorem packInto_eq (config : Config) (buffer : List UInt8) :
    config.packInto buffer =
      if config.pack.length ≤ buffer.length then
        .ok (config.pack, buffer.drop config.pack.length)
      else .error .unwritable := by
  rw [packInto, writeFields_eq, ← pack]
  by_cases hroom : config.pack.length ≤ buffer.length
  · rw [if_pos hroom, if_pos hroom]
  · rw [if_neg hroom, if_neg hroom]

/-- The numbers of the settings are packed one behind the other, and the errors that are tolerated
behind them. -/
theorem pack_eq (config : Config) :
    config.pack = config.numbers.flatMap Varint.encode ++ [config.maxErrors] := by
  rw [pack, fields, List.flatten_append, List.flatMap_def]
  rfl

/-! ## Round trip -/

/-- A configuration is valid, or it is refused for a reason. -/
theorem validate_cases (config : Config) :
    config.validate = .ok () ∨ ∃ reason, config.validate = .error (.invalid reason) := by
  unfold validate
  split
  · exact .inr ⟨_, rfl⟩
  · split
    · exact .inr ⟨_, rfl⟩
    · split
      · exact .inr ⟨_, rfl⟩
      · exact .inl rfl

/-- The packed form is the fields in order: numbers and the positions of choices in at most five
groups of seven bits, and the error ceiling as one byte. It is written into every buffer that has
room for it, and into no other. It is read back, whatever stands behind it, if the configuration is
valid, and refused for the same reason if it is not; all that breaks off before its end is
malformed. Whatever is read from any bytes is valid. -/
theorem packed_round_trip (config : Config) :
    (config.pack = config.numbers.flatMap Varint.encode ++ [config.maxErrors] ∧
      ∀ number ∈ config.numbers,
        Varint.Spells number (Varint.encode number) ∧ (Varint.encode number).length ≤ 5) ∧
    (∀ buffer, config.packInto buffer =
      if config.pack.length ≤ buffer.length then
        .ok (config.pack, buffer.drop config.pack.length)
      else .error .unwritable) ∧
    (∀ behind,
      config.validate = .ok () ∧ unpack (config.pack ++ behind) = .ok config ∨
      ∃ reason, config.validate = .error (.invalid reason) ∧
        unpack (config.pack ++ behind) = .error (.invalid reason)) ∧
    (∀ start, start <+: config.pack → start ≠ config.pack → unpack start = .error .malformed) ∧
    ∀ bytes other, unpack bytes = .ok other → other.validate = .ok () := by
  refine ⟨⟨config.pack_eq, fun number hnumber => ?_⟩, config.packInto_eq, fun behind => ?_,
    fun start hstart hne => ?_, fun bytes other hread => ?_⟩
  · exact ⟨Varint.spells_encode number,
      Varint.length_encode_le_five (config.lt_size_of_mem_numbers hnumber)⟩
  · -- what is read back is the configuration, so that its own check decides
    have hunpack : unpack (config.pack ++ behind) = config.validated := by
      rw [unpack, (reads_pack config).whole]
    rw [hunpack, validated]
    rcases config.validate_cases with hvalid | ⟨reason, hinvalid⟩
    · rw [hvalid]
      exact .inl ⟨rfl, rfl⟩
    · rw [hinvalid]
      exact .inr ⟨reason, rfl, rfl⟩
  · rw [unpack, (reads_pack config).broken hstart hne]
  · -- reading ends with the validation of what was read
    rw [unpack] at hread
    split at hread
    · obtain ⟨hvalid, rfl⟩ := validated_eq_ok_iff.1 hread
      exact hvalid
    · cases hread

end Config

end Multimeter
