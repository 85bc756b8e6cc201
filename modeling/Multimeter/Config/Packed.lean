import Multimeter.Config
import Multimeter.Varint
/-!
# Packed configuration

The compact binary form of a configuration: the fields in order, 32-bit numbers and the positions of
choices as variable-length integers of at most five bytes, the error ceiling as one plain byte.
Bytes behind the last field are ignored.
-/

namespace Multimeter

namespace Varint

/-- Read a 32-bit number, which takes at most five bytes. -/
def word? (bytes : List UInt8) : Option (UInt32 × List UInt8) := do
  let (n, rest) ← decode? 5 bytes
  if n < UInt32.size then some (UInt32.ofNat n, rest) else none

/-- Read the position of a choice. -/
def choice? (α : Type) [Code α Nat] (bytes : List UInt8) : Option (α × List UInt8) := do
  let (n, rest) ← word? bytes
  let code ← Code.ofRaw? n.toNat
  some (code, rest)

end Varint

namespace Config

/-- The numbers of a configuration in order, with the positions of choices. -/
def numbers (config : Config) : List Nat :=
  [config.line.baudrate.toNat, Code.raw config.line.dataBits, Code.raw config.line.parity,
    Code.raw config.line.stopBits, config.pollInterval.toNat, config.receiveTimeout.toNat,
    config.readTimeout.toNat, config.writeTimeout.toNat]

/-- The bytes of each field in order. -/
def fields (config : Config) : List (List UInt8) :=
  config.numbers.map Varint.encode ++ [[config.maxErrors]]

/-- The packed form. -/
def pack (config : Config) : List UInt8 := config.fields.flatten

/-- Write fields over the start of `buffer`, one behind the other. Each has to fit what those before
it have left. The bytes written, and the buffer behind them. -/
def writeFields : List (List UInt8) → (buffer : List UInt8) → Option (List UInt8 × List UInt8)
  | [], buffer => some ([], buffer)
  | field :: fields, buffer =>
    if field.length ≤ buffer.length then do
      let (written, behind) ← writeFields fields (buffer.drop field.length)
      some (field ++ written, behind)
    else none

/-- Write the packed form over the start of `buffer`. -/
def packInto (config : Config) (buffer : List UInt8) :
    Except ConfigError (List UInt8 × List UInt8) :=
  match writeFields config.fields buffer with
  | some written => .ok written
  | none => .error .unwritable

/-- The packed form, which has to fit a destination of `capacity` bytes. -/
def packWithin (config : Config) (capacity : Nat) : Except ConfigError (List UInt8) :=
  Prod.fst <$> config.packInto (List.replicate capacity 0)

/-- Read one plain byte. -/
def byte? : List UInt8 → Option (UInt8 × List UInt8)
  | [] => none
  | byte :: bytes => some (byte, bytes)

/-- Read the fields of a packed configuration. -/
def unpack? (bytes : List UInt8) : Option (Config × List UInt8) := do
  let (baudrate, bytes) ← Varint.word? bytes
  let (dataBits, bytes) ← Varint.choice? DataBits bytes
  let (parity, bytes) ← Varint.choice? Parity bytes
  let (stopBits, bytes) ← Varint.choice? StopBits bytes
  let (pollInterval, bytes) ← Varint.word? bytes
  let (receiveTimeout, bytes) ← Varint.word? bytes
  let (readTimeout, bytes) ← Varint.word? bytes
  let (writeTimeout, bytes) ← Varint.word? bytes
  let (maxErrors, bytes) ← byte? bytes
  some ({
    line := { baudrate, dataBits, parity, stopBits }
    pollInterval, receiveTimeout, readTimeout, writeTimeout, maxErrors }, bytes)

/-- Read a packed configuration and validate it. Bytes behind the last field are ignored. -/
def unpack (bytes : List UInt8) : Except ConfigError Config :=
  match unpack? bytes with
  | some (config, _) => config.validated
  | none => .error .malformed

end Config

end Multimeter
