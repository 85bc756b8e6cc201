import Multimeter.Config
import Multimeter.Toml.Document
/-!
# Configuration in TOML

A configuration is written as a TOML document, with the settings of the serial line in a table of
their own. What is left out has its default, and foreign keys are passed over.
-/

namespace Multimeter

namespace Toml

/-- The value as a number below `bound`. -/
def Value.below? (bound : Nat) : Value → Option Nat
  | .integer numeral => numeral.value?.bind fun value =>
    if 0 ≤ value ∧ value < bound then some value.toNat else none
  | _ => none

/-- The value as a 32-bit number. -/
def Value.word? (value : Value) : Option UInt32 := (value.below? UInt32.size).map UInt32.ofNat

/-- The value as a choice: its name in lower case, as a text or as the only key of a table whose
value holds nothing. -/
def Value.choice? (α : Type) [Code α Nat] (value : Value) : Option α := do
  let name ← match value with
    | .text name => some name
    | .table _ [(name, .array [])] | .table _ [(name, .table _ [])] => some name
    | _ => none
  (Code.all : List α).find? fun code => (Code.name code).toLower = name

/-- Read a setting that may be missing. -/
def setting {α : Type} (read : Value → Option α) (default : α) : Option Value → Option α
  | some value => read value
  | none => some default

/-- The keys are known or their values are sound. -/
def foreignFit (known : List String) (entries : Entries) : Bool :=
  entries.all fun (key, value) => key ∈ known || value.fits

end Toml

open Toml

namespace SerialLine

/-- The keys of the serial line, in order. -/
def keys : List String := ["baudrate", "data_bits", "parity", "stop_bits"]

/-- Read the serial line from its settings in order. -/
def ofSettings? (settings : List (Option Value)) : Option SerialLine := do
  let line : SerialLine := {}
  let setting? (i : Nat) : Option Value := (settings[i]?).join
  return {
    baudrate := ← setting Value.word? line.baudrate (setting? 0)
    dataBits := ← setting (Value.choice? DataBits) line.dataBits (setting? 1)
    parity := ← setting (Value.choice? Parity) line.parity (setting? 2)
    stopBits := ← setting (Value.choice? StopBits) line.stopBits (setting? 3) }

/-- Read the serial line from a table, or from a list of its settings in order. A moment is read as
a table without any of the settings. -/
def ofValue? : Value → Option SerialLine
  | .table _ entries => do
    guard (foreignFit keys entries)
    ofSettings? (keys.map fun key => entries.lookup key)
  | .array items | .tables items => ofSettings? (items.map some)
  | .moment _ => ofSettings? []
  | _ => none

end SerialLine

namespace Config

/-- The keys of a configuration. -/
def keys : List String :=
  ["uart", "poll_interval_ms", "receive_timeout_ms", "read_timeout_ms", "write_timeout_ms",
    "max_error_count"]

/-- Read a configuration from the contents of a document. -/
def ofEntries? (entries : Entries) : Option Config := do
  guard (foreignFit keys entries)
  let config : Config := {}
  return {
    line := ← setting SerialLine.ofValue? config.line (entries.lookup "uart")
    pollInterval := ← setting Value.word? config.pollInterval (entries.lookup "poll_interval_ms")
    receiveTimeout :=
      ← setting Value.word? config.receiveTimeout (entries.lookup "receive_timeout_ms")
    readTimeout := ← setting Value.word? config.readTimeout (entries.lookup "read_timeout_ms")
    writeTimeout := ← setting Value.word? config.writeTimeout (entries.lookup "write_timeout_ms")
    maxErrors := ← setting (fun value => (value.below? UInt8.size).map UInt8.ofNat) config.maxErrors
      (entries.lookup "max_error_count") }

/-- Read a configuration from a TOML document and validate it. -/
def ofToml (text : String) : Except ConfigError Config :=
  match (parse? text).bind ofEntries? with
  | some config => config.validated
  | none => .error .malformed

end Config

end Multimeter
