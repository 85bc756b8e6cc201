import Multimeter.Proofs.Codec.Display
import Multimeter.Proofs.Storage.Entries
/-!
# Blocks of entries, written and read

A block of memory is its records, one behind the other, and an incomplete record at its end. In the
known layout every record is read as an entry and each entry is written as its record again, so of a
block nothing but the incomplete record is lost; and entries that were written are read from the
block as what their bytes carry.

* `records_flatMap_encode`: the records of readings that were written.
* `Kind.map_encode_entries`: the entries of a block, written again.
* `Kind.entries_flatMap_encode`: entries, written and read again.
* `entries_lossless`: both ways, for the storages that a meter tells of.
-/

namespace Multimeter.Storage

/-! ## Entries -/

/-- The records of readings that were written are their bytes. -/
theorem records_flatMap_encode (readings : List Reading) {tail : List UInt8}
    (htail : tail.length < Reading.size) :
    records Reading.size (readings.flatMap Reading.encode ++ tail) =
      readings.map Reading.encode := by
  induction readings with
  | nil => exact records_of_length_lt htail
  | cons reading readings ih =>
    rw [List.flatMap_cons, List.append_assoc, records_append (by decide) reading.length_encode, ih,
      List.map_cons]

/-- Readings take five bytes each. -/
theorem length_flatMap_encode (readings : List Reading) :
    (readings.flatMap Reading.encode).length = readings.length * Reading.size := by
  induction readings with
  | nil => rfl
  | cons reading readings ih =>
    rw [List.flatMap_cons, List.length_append, ih, reading.length_encode, List.length_cons,
      Nat.succ_mul, Nat.add_comm]

/-- Each entry of a block is written as its record. -/
theorem Kind.map_encode_entries (kind : Kind) (block : Payload) :
    (kind.layout.entries block.bytes).map Reading.encode = records Reading.size block.bytes := by
  refine List.ext_getElem ?_ fun index hentry hrecord => ?_
  · rw [List.length_map, kind.length_entries, length_records]
    rfl
  · rw [List.length_map] at hentry
    have hencode := Reading.encode_of_decode? (kind.decode?_entries block hentry)
    rw [List.take_take, Nat.min_self] at hencode
    simp only [List.getElem_map, hencode, records, List.getElem_range]

/-- Readings that were written are read as what their bytes carry. -/
theorem Kind.entries_flatMap_encode (kind : Kind) {readings : List Reading} {tail : List UInt8}
    (hcount : readings.length ≤ maxEntries) (htail : tail.length < Reading.size) :
    kind.layout.entries (readings.flatMap Reading.encode ++ tail) =
      readings.map Reading.carried := by
  have hfits : (readings.flatMap Reading.encode ++ tail).length ≤ maxPayload := by
    have hmax : maxEntries = 12 := rfl
    have hsize : Reading.size = 5 := rfl
    have hpayload : maxPayload = 64 := rfl
    rw [List.length_append, length_flatMap_encode, hsize]
    omega
  have hread : Reading.decode? ∘ Reading.encode = some ∘ Reading.carried := by
    funext reading
    have hdecode := reading.decode?_encode []
    rwa [List.append_nil] at hdecode
  have hentries := kind.map_some_entries ⟨_, hfits⟩
  rw [records_flatMap_encode readings htail, List.map_map, hread, ← List.map_map] at hentries
  exact (List.map_inj_right fun _ _ => Option.some.inj).1 hentries

/-- In every storage that a meter tells of, a block that an answer carries has an entry for each of
its records, the reading that stands there, and the entries, written again, are the block without
the bytes behind the last record. Up to twelve readings, written with fewer bytes behind them than a
record has, are read as themselves exactly if all of them are representable. -/
theorem entries_lossless {model : ModelId} {survey : List UInt8} {storages : Storages}
    (h : Storages.decode model survey = .ok storages) (kind : Kind) :
    let info := storages.get kind
    (∀ block : List UInt8, block.length ≤ 64 →
      (info.entries block).length = block.length / 5 ∧
      (∀ index (hindex : index < (info.entries block).length),
        Reading.decode? ((block.drop (5 * index)).take 5) = some (info.entries block)[index]) ∧
      (info.entries block).flatMap Reading.encode =
        block.take (block.length - block.length % 5)) ∧
    ∀ (readings : List Reading) (tail : List UInt8), readings.length ≤ 12 → tail.length < 5 →
      (info.entries (readings.flatMap Reading.encode ++ tail) = readings ↔
        ∀ reading ∈ readings, reading.Representable) := by
  intro info
  have hlayout := Storages.hasLayout_of_decode h kind
  constructor
  -- each record has an entry, which is written as the record
  · intro block hblock
    let payload : Payload := ⟨block, hblock⟩
    have hentries : info.entries block = kind.layout.entries payload.bytes :=
      hlayout.entries_eq block
    have hwhole : block.length - block.length % 5 = block.length / 5 * 5 := by omega
    simp only [hentries]
    refine ⟨kind.length_entries payload, fun index hindex => ?_, ?_⟩
    · rw [Nat.mul_comm]
      exact kind.decode?_entries payload hindex
    · rw [List.flatMap_def, kind.map_encode_entries, flatten_records, hwhole]
      rfl
  -- the readings are read as what five bytes carry of each of them
  · intro readings tail hcount htail
    rw [hlayout.entries_eq, kind.entries_flatMap_encode hcount htail]
    have hiff : readings.map Reading.carried = readings.map id ↔ _ := List.map_eq_map_iff
    rw [List.map_id] at hiff
    simp only [hiff, id, Reading.carried_eq_iff]

/-- A block with a record of undefined codes and a negative overload, and three bytes
behind them. -/
theorem entries_lossless_of_undefined_codes :
    let survey : List UInt8 := [0x00, 0x05, 0x00, 0x20, 0x01, 0xf4]
    let storages : Storages := { mem := memInfo 500, log := logInfo 5 32 }
    let block : List UInt8 :=
      [0x01, 0x00, 0x00, 0xff, 0x7f, 0xfe, 0xff, 0xff, 0x0a, 0x8d, 0x01, 0x02, 0x03]
    let undefined : Reading :=
      { count := 1, dot := .unknown 7, unit := .unknown 0x1f, content := .unknown 0x7f,
        overload := false }
    let negative : Reading :=
      { count := -2, dot := .known .two, unit := .known .volt, content := .known .maximum,
        overload := true }
    Storages.decode (.known .appa506) survey = .ok storages ∧
      (storages.log.entries block).length = 2 ∧
      (storages.log.entries block).flatMap Reading.encode = block.take 10 ∧
      storages.log.entries ([undefined, negative].flatMap Reading.encode ++ [0x01, 0x02, 0x03]) =
        [undefined, negative] := by
  intro survey storages block undefined negative
  have hdecode : Storages.decode (.known .appa506) survey = .ok storages := by decide
  obtain ⟨hread, hwritten⟩ := entries_lossless hdecode .log
  obtain ⟨hlength, -, hencode⟩ := hread block (by decide)
  have hrepresentable : ∀ reading ∈ [undefined, negative], reading.Representable :=
    List.forall_mem_cons.2 ⟨Reading.carried_eq_iff.1 (by decide),
      List.forall_mem_singleton.2 (Reading.carried_eq_iff.1 (by decide))⟩
  exact ⟨hdecode, hlength.trans (by decide), hencode.trans (by decide),
    (hwritten _ [0x01, 0x02, 0x03] (by decide) (by decide)).2 hrepresentable⟩

end Multimeter.Storage
