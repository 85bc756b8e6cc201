import Multimeter.Model
import Multimeter.Request
/-!
# Storages

Meters of the 200 and 500 series keep readings in two storages: MEM holds the ones saved by hand,
LOG the ones saved at an interval. A storage is spread over slots of equal size; entry `n` lies in
slot `n / entriesPerSlot`. One block of memory says how full both storages are.
-/

namespace Multimeter

/-- Why a storage could not be read. -/
inductive StorageError where
  /-- There is nothing to read at this position. -/
  | emptyRange
  /-- The entry lies behind the last slot or the last address. -/
  | outOfRange
  /-- The layout of the storage is not known. -/
  | unsupported
  deriving DecidableEq, Repr

/-- The text shown to a user. -/
def StorageError.message : StorageError → String
  | .emptyRange => "empty storage range"
  | .outOfRange => "storage entry out of range"
  | .unsupported => "storage not supported on this model"

namespace Storage

/-- Which storage. -/
inductive Kind where
  /-- Readings saved by hand. -/
  | mem
  /-- Readings saved at an interval. -/
  | log
  deriving DecidableEq, Repr

namespace Kind

/-- The label of a storage in reports. -/
def label : Kind → String
  | mem => "MEM"
  | log => "LOG"

end Kind

/-- The layout of a storage and how full it is. -/
structure Info where
  /-- Which storage. -/
  kind : Kind
  /-- The saving interval in seconds, 0 for MEM. -/
  rate : UInt16
  /-- The number of stored entries. -/
  amount : UInt16
  /-- The length of an entry in bytes. -/
  entrySize : UInt8
  /-- The number of entries that one slot holds. -/
  entriesPerSlot : UInt16
  /-- The number of slots. -/
  slotCount : UInt8
  /-- The address of the first entry of each slot. -/
  baseAddress : UInt16
  /-- The memory device of the first slot. -/
  firstDevice : UInt8
  deriving DecidableEq, Repr

/-- The number of entries in all slots. -/
def Info.capacity (info : Info) : Nat := info.entriesPerSlot.toNat * info.slotCount.toNat

/-- The number of entries that can be read: those stored, as far as there is room for them. -/
def Info.readable (info : Info) : Nat := min info.amount.toNat info.capacity

/-- The MEM storage of the known series. -/
def memInfo (amount : UInt16) : Info :=
  { kind := .mem, rate := 0, amount, entrySize := 5, entriesPerSlot := 500, slotCount := 2,
    baseAddress := 0x0500, firstDevice := 0 }

/-- The LOG storage of the known series. -/
def logInfo (rate amount : UInt16) : Info :=
  { kind := .log, rate, amount, entrySize := 5, entriesPerSlot := 10000, slotCount := 4,
    baseAddress := 0x1000, firstDevice := 0 }

/-- The memory block that says how full the storages are. -/
def infoBlock : MemoryBlock := { device := 0, address := 0x000a, length := 6 }

end Storage

/-- Both storages of a meter. -/
structure Storages where
  /-- The storage filled by hand. -/
  mem : Storage.Info
  /-- The storage filled at an interval. -/
  log : Storage.Info
  deriving DecidableEq, Repr

namespace Storages

/-- One of the storages. -/
def get (storages : Storages) : Storage.Kind → Storage.Info
  | .mem => storages.mem
  | .log => storages.log

/-- The storage layout of a hardware family is known. -/
def knownFor (family : Family) : Bool := family == .series200 || family == .series500

/-- Read the block that says how full the storages are: three numbers, high byte first, for the
saving interval, the entries of LOG and the entries of MEM. -/
def decode (model : ModelId) (block : List UInt8) : Except StorageError Storages :=
  if knownFor model.family then
    match block with
    | [rateHigh, rateLow, logHigh, logLow, memHigh, memLow] => .ok {
        mem := Storage.memInfo (TwoBytes.join memHigh memLow)
        log := Storage.logInfo (TwoBytes.join rateHigh rateLow) (TwoBytes.join logHigh logLow) }
    | _ => .error .unsupported
  else .error .unsupported

end Storages

end Multimeter
