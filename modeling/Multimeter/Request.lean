import Multimeter.Codec
import Multimeter.TwoBytes
/-!
# Requests

What the host asks of the meter. Requests are written to frames by the host and read from frames by
a meter.
-/

namespace Multimeter

/-- A stretch of the meter's memory. -/
structure MemoryBlock where
  /-- The memory device. -/
  device : UInt8
  /-- The address of the first byte. -/
  address : UInt16
  /-- The number of bytes, at most 64 in a request that can be sent. -/
  length : UInt8
  deriving DecidableEq, Repr

namespace MemoryBlock

/-- The four bytes that name the stretch: device, address (low byte first), length. -/
def encode (block : MemoryBlock) : List UInt8 :=
  [block.device, TwoBytes.low block.address, TwoBytes.high block.address, block.length]

/-- Read exactly four bytes. -/
def decode : List UInt8 → Except CodecError MemoryBlock
  | [device, low, high, length] => .ok { device, address := TwoBytes.join high low, length }
  | _ => .error .dataMismatch

/-- A stretch of memory is read as it was written. -/
@[simp]
theorem decode_encode (block : MemoryBlock) : decode block.encode = .ok block := by
  simp [encode, decode]

end MemoryBlock

/-- What the host asks of the meter. -/
inductive Request where
  | readInformation
  | readDisplay
  | readProtocolVersion
  | readBatteryLife
  | readMemory (block : MemoryBlock)
  deriving DecidableEq, Repr

namespace Request

/-- The command of a request. -/
def command : Request → Command
  | readInformation => .readInformation
  | readDisplay => .readDisplay
  | readProtocolVersion => .readProtocolVersion
  | readBatteryLife => .readBatteryLife
  | readMemory _ => .readMemory

/-- Write a request. Memory is asked for at most one payload at a time. -/
def toFrame (request : Request) : Except CodecError Frame :=
  match request with
  | readMemory block =>
    if maxPayload < block.length.toNat then .error .dataMismatch
    else do
      request.command.checkSize .request block.encode.length
      Frame.build request.command block.encode
  | _ => do
    request.command.checkSize .request 0
    pure (Frame.empty request.command)

/-- Read a request, as a meter does. The requested length is not limited here. -/
def ofFrame (frame : Frame) : Except CodecError Request := do
  frame.command.checkSize .request frame.payload.length
  match frame.command with
  | .readInformation => pure readInformation
  | .readDisplay => pure readDisplay
  | .readProtocolVersion => pure readProtocolVersion
  | .readBatteryLife => pure readBatteryLife
  | .readMemory => readMemory <$> MemoryBlock.decode frame.payload.bytes
  | other => .error (.unsupported other.byte)

end Request

end Multimeter
