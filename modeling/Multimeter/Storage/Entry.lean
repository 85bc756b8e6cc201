import Multimeter.Reading
import Multimeter.Storage
/-!
# Stored entries

A block of memory read from a storage is cut into records of the entry size; each record is a bare
reading, and a record cut short at the end is left out.

* `length_records`, `length_of_mem_records`: how many records a block has, and how long they are.
* `records_append`: the records of a block, the first one cut off.
* `flatten_records`: what of the block the records are.
-/

namespace Multimeter.Storage

/-- The most entries that one answer carries. -/
def maxEntries : Nat := maxPayload / Reading.size

/-- Cut a block into records of `size` bytes, leaving out an incomplete one at the end. -/
def records (size : Nat) (block : List UInt8) : List (List UInt8) :=
  (List.range (block.length / size)).map fun i => (block.drop (i * size)).take size

/-- The entries of a block. -/
def Info.entries (info : Info) (block : List UInt8) : List Reading :=
  ((records info.entrySize.toNat block).filterMap Reading.decode?).take maxEntries

/-! ## Records -/

variable {size : Nat} {record rest : List UInt8}

/-- A block holds as many records as fit. -/
@[simp]
theorem length_records (size : Nat) (block : List UInt8) :
    (records size block).length = block.length / size := by
  simp [records]

/-- Each record has its size, none is cut short. -/
theorem length_of_mem_records {block : List UInt8} (h : record ∈ records size block) :
    record.length = size := by
  obtain ⟨index, hindex, rfl⟩ := List.mem_map.1 h
  have hindex := List.mem_range.1 hindex
  -- the last record ends where the block ends, if not before
  have hfits : (index + 1) * size ≤ block.length :=
    Nat.le_trans (Nat.mul_le_mul_right _ hindex) (Nat.div_mul_le_self _ _)
  rw [Nat.succ_mul] at hfits
  rw [List.length_take, List.length_drop]
  omega

/-- A record is cut off the front of a block. -/
theorem records_append (hsize : 0 < size) (hrecord : record.length = size) :
    records size (record ++ rest) = record :: records size rest := by
  have hcount : (record ++ rest).length / size = rest.length / size + 1 := by
    rw [List.length_append, hrecord, Nat.add_comm, Nat.add_div_right _ hsize]
  have hlater : ∀ i, (record ++ rest).drop ((i + 1) * size) = rest.drop (i * size) := by
    intro i
    rw [Nat.succ_mul, Nat.add_comm, ← List.drop_drop, List.drop_left' hrecord]
  rw [records, hcount, List.range_succ_eq_map, List.map_cons, List.map_map, Nat.zero_mul,
    List.drop_zero, List.take_left' hrecord]
  simp only [records, Function.comp_def, Nat.succ_eq_add_one, hlater]

/-- A block that is shorter than a record has none. -/
theorem records_of_length_lt (h : rest.length < size) : records size rest = [] := by
  rw [records, Nat.div_eq_of_lt h]
  rfl

/-- The records of a block are all of it but the incomplete record at its end. -/
theorem flatten_records (size : Nat) (block : List UInt8) :
    (records size block).flatten = block.take (block.length / size * size) := by
  unfold records
  -- by induction on the number of records, the last one put behind the others
  induction block.length / size with
  | zero => simp
  | succ count ih =>
    rw [List.range_succ, List.map_append, List.flatten_append, ih, Nat.succ_mul, List.take_add]
    simp

end Multimeter.Storage
