import Multimeter.Proofs.Storage.Plan
import Multimeter.Storage.Entry
/-!
# Entries of a block

In the known layout an entry is as long as a reading, and every reading of that length has a
meaning. So the entries of a block are its records, one behind the other and none left out.

* `Kind.decode?_entries`, `Kind.length_entries`: the entries of a block, by number.
-/

namespace Multimeter

/-- Five bytes are a reading, whatever they say. -/
theorem Reading.isSome_decode? {bytes : List UInt8} (h : bytes.length = size) :
    (decode? bytes).isSome = true := by
  match bytes, h with
  | [_, _, _, _, _], _ => rfl

namespace Storage

/-- Each record is the reading that it spells. -/
theorem Kind.map_some_entries (kind : Kind) (block : Payload) :
    (kind.layout.entries block.bytes).map some =
      (records Reading.size block.bytes).map Reading.decode? := by
  have hsize : kind.layout.entrySize.toNat = Reading.size := by cases kind <;> rfl
  have hall : ∀ reading ∈ (records Reading.size block.bytes).map Reading.decode?,
      reading.isSome = true := by
    intro reading hmem
    obtain ⟨record, hrecord, rfl⟩ := List.mem_map.1 hmem
    exact Reading.isSome_decode? (length_of_mem_records hrecord)
  -- no payload holds more records than are kept
  have hfits :
      ((records Reading.size block.bytes).filterMap Reading.decode?).length ≤ maxEntries := by
    refine Nat.le_trans (List.length_filterMap_le _ _) ?_
    rw [length_records]
    exact Nat.div_le_div_right block.length_le
  rw [Info.entries, hsize, List.take_of_length_le hfits,
    List.map_filterMap_some_eq_filter_map_isSome, List.filter_eq_self.2 hall]

/-- A block has as many entries as whole readings. -/
theorem Kind.length_entries (kind : Kind) (block : Payload) :
    (kind.layout.entries block.bytes).length = block.length / Reading.size := by
  have hlength := congrArg List.length (kind.map_some_entries block)
  rwa [List.length_map, List.length_map, length_records] at hlength

/-- Each entry of a block is read from its own five bytes. -/
theorem Kind.decode?_entries (kind : Kind) (block : Payload) {index : Nat}
    (h : index < (kind.layout.entries block.bytes).length) :
    Reading.decode? ((block.bytes.drop (index * Reading.size)).take Reading.size) =
      some (kind.layout.entries block.bytes)[index] := by
  have hlength : index < ((kind.layout.entries block.bytes).map some).length := by
    rwa [List.length_map]
  have hrecord : ((kind.layout.entries block.bytes).map some)[index] =
      some (kind.layout.entries block.bytes)[index] := List.getElem_map _
  rw [← hrecord]
  simp only [kind.map_some_entries block, List.getElem_map, records, List.getElem_range]

end Storage

end Multimeter
