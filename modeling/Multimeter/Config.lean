import Multimeter.Coded
/-!
# Configuration

The serial line and the timing of a link. The defaults are what the meters expect.
-/

namespace Multimeter

/-- Why a configuration was refused. -/
inductive ConfigError where
  /-- The text or the bytes do not spell a configuration. -/
  | malformed
  /-- The destination is too short. -/
  | unwritable
  /-- The values contradict each other. -/
  | invalid (reason : String)
  deriving DecidableEq, Repr

/-- The text shown to a user. -/
def ConfigError.message : ConfigError → String
  | .malformed => "malformed configuration"
  | .unwritable => "configuration could not be serialized"
  | .invalid reason => "invalid configuration: " ++ reason

/-- The number of data bits of a character. -/
inductive DataBits where
  | seven
  | eight
  deriving DecidableEq, Repr

instance : Code DataBits Nat where
  all := [.seven, .eight]
  raw
    | .seven => 0
    | .eight => 1
  name
    | .seven => "Seven"
    | .eight => "Eight"
  find?_raw bits := by cases bits <;> rfl

/-- The parity bit of a character. -/
inductive Parity where
  | none
  | even
  | odd
  deriving DecidableEq, Repr

instance : Code Parity Nat where
  all := [.none, .even, .odd]
  raw
    | .none => 0
    | .even => 1
    | .odd => 2
  name
    | .none => "None"
    | .even => "Even"
    | .odd => "Odd"
  find?_raw parity := by cases parity <;> rfl

/-- The number of stop bits of a character. -/
inductive StopBits where
  | one
  | two
  deriving DecidableEq, Repr

instance : Code StopBits Nat where
  all := [.one, .two]
  raw
    | .one => 0
    | .two => 1
  name
    | .one => "One"
    | .two => "Two"
  find?_raw bits := by cases bits <;> rfl

/-- The settings of the serial line. -/
structure SerialLine where
  /-- Bits per second. -/
  baudrate : UInt32 := 9600
  /-- Data bits per character. -/
  dataBits : DataBits := .eight
  /-- Parity bit. -/
  parity : Parity := .none
  /-- Stop bits per character. -/
  stopBits : StopBits := .one
  deriving DecidableEq, Repr

/-- The settings of a link. Times are in milliseconds. -/
structure Config where
  /-- The serial line. -/
  line : SerialLine := {}
  /-- The pause between looking for an answer. -/
  pollInterval : UInt32 := 50
  /-- How long to wait for an answer. -/
  receiveTimeout : UInt32 := 500
  /-- How long one blocking read may take. -/
  readTimeout : UInt32 := 50
  /-- How long one write may take. -/
  writeTimeout : UInt32 := 100
  /-- How many errors are tolerated. -/
  maxErrors : UInt8 := 10
  deriving DecidableEq, Repr

namespace Config

/-- Refuse settings with which a link would not wait or would not run. -/
def validate (config : Config) : Except ConfigError Unit :=
  if config.pollInterval = 0 then .error (.invalid "poll_interval_ms must be positive")
  else if config.receiveTimeout < config.pollInterval then
    .error (.invalid "receive_timeout_ms must not be shorter than poll_interval_ms")
  else if config.line.baudrate = 0 then .error (.invalid "baudrate must be positive")
  else .ok ()

/-- The configuration itself, if it is valid. -/
def validated (config : Config) : Except ConfigError Config := do
  config.validate
  pure config

/-- Validation lets a configuration pass unchanged or not at all. -/
theorem validated_eq_ok_iff {config other : Config} :
    config.validated = .ok other ↔ config.validate = .ok () ∧ other = config := by
  unfold validated
  cases config.validate with
  | error error => simp [bind, Except.bind]
  | ok => simp [bind, Except.bind, pure, Except.pure, eq_comm]

/-- How many times to look for an answer within `timeout`: at least once. -/
def cycles (config : Config) (timeout : UInt32) : Nat :=
  max (timeout.toNat / max config.pollInterval.toNat 1) 1

/-- An answer is looked for at least once. -/
theorem cycles_pos (config : Config) (timeout : UInt32) : 0 < config.cycles timeout :=
  Nat.lt_of_lt_of_le Nat.zero_lt_one (Nat.le_max_right _ _)

/-- How many times to look for the answer to a request. -/
def budget (config : Config) : Nat := config.cycles config.receiveTimeout

end Config

end Multimeter
