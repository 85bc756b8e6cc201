import Multimeter.Proofs.Answering.Wire
import Multimeter.Proofs.Storage.Plan
/-!
# Entries of a memory image

A storage is a part of the memory of a meter. Where one of its entries lies follows from its number
and the layout of the storage; the entries of a block of memory that was read lie one behind the
other from the start of the block.

* `Image.entry`: the entries of a storage.
* `entries_read`: the entries that the session finds in a block.
* `reading_eq_entry`: these are entries of the storage if the block starts where one of them lies.
* `Records`: what the entries of a block are, if a window was asked for.
-/

namespace Multimeter

namespace Image

def record (image : Image) (device : UInt8) (address : Nat) : List UInt8 :=
  (List.range Reading.size).map fun i => image device (address + i)

/-- The reading that the record at an address spells. -/
def reading (image : Image) (device : UInt8) (address : Nat) : Reading :=
  (Reading.decode? (image.record device address)).get (by rfl)

/-- Five bytes of the image are read as one of its readings. -/
theorem decode?_record (image : Image) (device : UInt8) (address : Nat) :
    Reading.decode? (image.record device address) = some (image.reading device address) :=
  (Option.some_get _).symm

/-- The entry of a storage with this number, counted from zero. -/
def entry (image : Image) (kind : Storage.Kind) (index : Nat) : Reading :=
  let layout := kind.layout
  image.reading (layout.firstDevice + UInt8.ofNat (index / layout.entriesPerSlot.toNat))
    (layout.baseAddress.toNat + Reading.size * (index % layout.entriesPerSlot.toNat))

end Image

/-- The stretch of memory starts where the entry of the storage lies. -/
def MemoryBlock.StartsAt (block : MemoryBlock) (kind : Storage.Kind) (index : Nat) : Prop :=
  let layout := kind.layout
  block.device = layout.firstDevice + UInt8.ofNat (index / layout.entriesPerSlot.toNat) ∧
    block.address.toNat =
      layout.baseAddress.toNat + Reading.size * (index % layout.entriesPerSlot.toNat)

namespace Image

/-- Every five bytes of a stretch of memory are the record at their address. -/
theorem take_drop_read (image : Image) (block : MemoryBlock) {index : Nat}
    (h : index < block.length.toNat / Reading.size) :
    ((image.read block).drop (index * Reading.size)).take Reading.size =
      image.record block.device (block.address.toNat + Reading.size * index) := by
  -- the record does not reach beyond the stretch
  have hfits : index * Reading.size + Reading.size ≤ block.length.toNat := by
    have hle := (Nat.le_div_iff_mul_le (show 0 < Reading.size by decide)).1 h
    rwa [Nat.succ_mul] at hle
  refine List.ext_getElem ?_ fun i hi _ => ?_
  · simp only [record, List.length_take, List.length_drop, length_read, List.length_map,
      List.length_range]
    omega
  · simp only [record, read, List.getElem_take, List.getElem_drop, List.getElem_map,
      List.getElem_range]
    congr 1
    rw [Nat.mul_comm, Nat.add_assoc]

/-- The session finds the readings of a stretch of memory, one behind the other. -/
theorem entries_read (image : Image) (kind : Storage.Kind) {block : MemoryBlock}
    (h : block.length.toNat ≤ maxPayload) :
    kind.layout.entries (image.read block) =
      (List.range (block.length.toNat / Reading.size)).map fun index =>
        image.reading block.device (block.address.toNat + Reading.size * index) := by
  -- the layout of the known series has entries of the size of a reading
  have hsize : kind.layout.entrySize.toNat = Reading.size := by cases kind <;> rfl
  have hrecords : Storage.records Reading.size (image.read block) =
      (List.range (block.length.toNat / Reading.size)).map fun index =>
        image.record block.device (block.address.toNat + Reading.size * index) := by
    rw [Storage.records, length_read]
    refine List.map_congr_left fun index hmem => ?_
    exact image.take_drop_read block (List.mem_range.1 hmem)
  have hdecode : (Reading.decode? ∘ fun index =>
      image.record block.device (block.address.toNat + Reading.size * index)) =
        some ∘ fun index =>
          image.reading block.device (block.address.toNat + Reading.size * index) :=
    funext fun index => image.decode?_record _ _
  rw [Storage.Info.entries, hsize, hrecords, List.filterMap_map, hdecode,
    List.filterMap_eq_map]
  -- the bound on the number of entries is that of a full block, and no block is longer
  refine List.take_of_length_le ?_
  rw [List.length_map, List.length_range]
  exact Nat.div_le_div_right h

/-- Behind the entry at which a stretch of memory starts, the next entries of the slot follow. -/
theorem reading_eq_entry (image : Image) {kind : Storage.Kind} {block : MemoryBlock} {start : Nat}
    (h : block.StartsAt kind start) {index : Nat}
    (hslot : start % kind.layout.entriesPerSlot.toNat + index <
      kind.layout.entriesPerSlot.toNat) :
    image.reading block.device (block.address.toNat + Reading.size * index) =
      image.entry kind (start + index) := by
  obtain ⟨hdevice, haddress⟩ := h
  have hpos : 0 < kind.layout.entriesPerSlot.toNat := Nat.lt_of_le_of_lt (Nat.zero_le _) hslot
  -- both entries lie in the same slot, so only the place in the slot moves
  have hsplit : start + index = (start % kind.layout.entriesPerSlot.toNat + index) +
      kind.layout.entriesPerSlot.toNat * (start / kind.layout.entriesPerSlot.toNat) := by
    have := Nat.mod_add_div start kind.layout.entriesPerSlot.toNat
    omega
  have hdiv : (start + index) / kind.layout.entriesPerSlot.toNat =
      start / kind.layout.entriesPerSlot.toNat := by
    rw [hsplit, Nat.add_mul_div_left _ _ hpos, Nat.div_eq_of_lt hslot, Nat.zero_add]
  have hmod : (start + index) % kind.layout.entriesPerSlot.toNat =
      start % kind.layout.entriesPerSlot.toNat + index := by
    rw [hsplit, Nat.add_mul_mod_self_left, Nat.mod_eq_of_lt hslot]
  rw [entry, hdiv, hmod, hdevice, haddress, Nat.mul_add, Nat.add_assoc]

end Image

/-- `entries` are the first readings of a stretch of memory. They are the entries of the storage
from `start` on if the stretch starts where one of its windows from there on does. -/
structure Image.Records (image : Image) (block : MemoryBlock) (window : Storage.Window)
    (kind : Storage.Kind) (start : Nat) (entries : List Reading) : Prop where
  /-- The records of the readings lie in the stretch. -/
  fits : Reading.size * entries.length ≤ block.length.toNat
  /-- The records lie one behind the other from the first byte of the stretch on. -/
  reading_eq : ∀ (index : Nat) (h : index < entries.length), entries[index] =
    image.reading block.device (block.address.toNat + Reading.size * index)
  /-- The readings are entries of the storage if the stretch starts where the window does. -/
  entry_eq : block.device = window.request.device → block.address = window.request.address →
    ∀ (index : Nat) (h : index < entries.length), entries[index] = image.entry kind (start + index)

namespace Storage.Window.Covers

variable {window : Window} {kind : Kind} {start : Nat}

/-- A window asks for memory from its first entry on. -/
theorem startsAt (h : window.Covers kind.layout start) : window.request.StartsAt kind start := by
  have hsize : kind.layout.entrySize.toNat = Reading.size := by cases kind <;> rfl
  refine ⟨?_, ?_⟩
  · rw [h.device_eq, ← h.slot_eq, UInt8.ofNat_toNat]
  · rw [h.address_eq, hsize, ← h.offset_eq, Nat.mul_comm]

/-- What the session takes from a block for the entries of a window. -/
theorem records (h : window.Covers kind.layout start) {image : Image} {block : MemoryBlock}
    {payload : Payload} (hread : payload.bytes = image.read block) :
    image.Records block window kind start
      ((kind.layout.entries payload.bytes).take window.count.toNat) := by
  -- the stretch was read as one answer
  have hlength : block.length.toNat ≤ maxPayload := by
    have hle := payload.length_le
    rwa [hread, image.length_read] at hle
  rw [hread, image.entries_read kind hlength, ← List.map_take, List.take_range]
  refine ⟨?_, fun index hindex => ?_, fun hdevice haddress index hindex => ?_⟩
  · rw [List.length_map, List.length_range, Nat.mul_comm]
    exact (Nat.le_div_iff_mul_le (show 0 < Reading.size by decide)).1 (Nat.min_le_right _ _)
  · rw [List.getElem_map, List.getElem_range]
  · rw [List.getElem_map, List.getElem_range]
    obtain ⟨hstart, hoffset⟩ := h.startsAt
    have hstarts : block.StartsAt kind start := ⟨hdevice.trans hstart, haddress ▸ hoffset⟩
    refine image.reading_eq_entry hstarts ?_
    -- the window ends in the slot of its first entry
    have hslot := h.count_le
    rw [h.offset_eq] at hslot
    rw [List.length_map, List.length_range] at hindex
    omega

end Storage.Window.Covers

end Multimeter
