import Multimeter.Storage
/-!
# Storage windows

A window is one memory request for consecutive entries of a storage. It lies within one slot and
fits one payload, so it may hold fewer entries than asked for.
-/

namespace Multimeter.Storage

/-- A planned request for consecutive entries. -/
structure Window where
  /-- The slot of the entries. -/
  slot : UInt8
  /-- The number of entries before the window within the slot. -/
  offset : UInt16
  /-- The number of entries in the window. -/
  count : UInt16
  /-- The memory to ask for. -/
  request : MemoryBlock
  deriving DecidableEq, Repr

/-- Plan to read up to `count` entries from entry `start` on. -/
def Info.plan (info : Info) (start count : Nat) : Except StorageError Window :=
  let perSlot := info.entriesPerSlot.toNat
  let size := info.entrySize.toNat
  let slot := start / perSlot
  let offset := start % perSlot
  -- a window fits one answer and does not reach into the next slot
  let held := min (min count (maxPayload / size)) (perSlot - offset)
  let address := info.baseAddress.toNat + offset * size
  -- division by zero is zero, so the quotients above do no harm before this check
  if size = 0 ∨ perSlot = 0 then .error .unsupported
  else if info.slotCount.toNat ≤ slot then .error .outOfRange
  else if held = 0 then .error .emptyRange
  else if 0xffff < address then .error .outOfRange
  else .ok {
    slot := UInt8.ofNat slot
    offset := UInt16.ofNat offset
    count := UInt16.ofNat held
    request := {
      device := info.firstDevice + UInt8.ofNat slot
      address := UInt16.ofNat address
      length := UInt8.ofNat (held * size) } }

end Multimeter.Storage
