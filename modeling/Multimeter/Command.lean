import Multimeter.Coded
/-!
# Commands

The command byte of a frame, and for each command and direction the payload lengths that a frame
carrying it may have. Acknowledgements travel only from the meter to the host; calibration and
firmware commands are answered by an acknowledgement and so have no answer of their own.
-/

namespace Multimeter

/-- The longest payload of a frame, in bytes. -/
def maxPayload : Nat := 64

/-- What a frame asks for or answers. -/
inductive Command where
  | readInformation
  | readDisplay
  | readProtocolVersion
  | readBatteryLife
  | writeUartConfiguration
  | calReading
  | readMemory
  | readHarmonicsData
  /-- Negative acknowledgement, with one status byte. -/
  | failure
  /-- Positive acknowledgement, without payload. -/
  | success
  | calEnter
  | calWriteFunctionCode
  | calWriteRangeCode
  | calWriteMemory
  | calExit
  | otaEnter
  | otaSendInformation
  | otaSendFirmwarePackage
  | otaStartUpgradeProcedure
  deriving DecidableEq, Repr

/-- The side of an exchange on which a frame travels. -/
inductive Direction where
  /-- From the host to the meter. -/
  | request
  /-- From the meter to the host. -/
  | response
  deriving DecidableEq, Repr, Inhabited

namespace Direction

/-- The name of a direction. -/
def name : Direction → String
  | request => "Request"
  | response => "Response"

end Direction

/-- The payload lengths that a command allows. -/
inductive SizeRule where
  /-- Only this length. -/
  | exactly (length : Nat)
  /-- Any length up to this one. -/
  | upTo (length : Nat)
  deriving DecidableEq, Repr

namespace SizeRule

/-- The rule allows a payload of `length` bytes. -/
def accepts : SizeRule → Nat → Bool
  | exactly n, length => length == n
  | upTo n, length => length ≤ n

/-- The longest length that the rule allows. -/
def maxLength : SizeRule → Nat
  | exactly n => n
  | upTo n => n

/-- No accepted length exceeds the longest one. -/
theorem le_maxLength_of_accepts {rule : SizeRule} {length : Nat} (h : rule.accepts length = true) :
    length ≤ rule.maxLength := by
  cases rule <;> simp_all [accepts, maxLength]

end SizeRule

namespace Command

/-- The byte and the name of each command. -/
def entry : Command → UInt8 × String
  | readInformation => (0x00, "ReadInformation")
  | readDisplay => (0x01, "ReadDisplay")
  | readProtocolVersion => (0x03, "ReadProtocolVersion")
  | readBatteryLife => (0x04, "ReadBatteryLife")
  | writeUartConfiguration => (0x05, "WriteUartConfiguration")
  | calReading => (0x10, "CalReading")
  | readMemory => (0x1a, "ReadMemory")
  | readHarmonicsData => (0x1b, "ReadHarmonicsData")
  | failure => (0x70, "Failure")
  | success => (0x7f, "Success")
  | calEnter => (0x80, "CalEnter")
  | calWriteFunctionCode => (0x85, "CalWriteFunctionCode")
  | calWriteRangeCode => (0x87, "CalWriteRangeCode")
  | calWriteMemory => (0x8a, "CalWriteMemory")
  | calExit => (0x8f, "CalExit")
  | otaEnter => (0xa0, "OtaEnter")
  | otaSendInformation => (0xa1, "OtaSendInformation")
  | otaSendFirmwarePackage => (0xa2, "OtaSendFirmwarePackage")
  | otaStartUpgradeProcedure => (0xa3, "OtaStartUpgradeProcedure")

instance : Code Command UInt8 where
  all := [readInformation, readDisplay, readProtocolVersion, readBatteryLife,
    writeUartConfiguration, calReading, readMemory, readHarmonicsData, failure, success, calEnter,
    calWriteFunctionCode, calWriteRangeCode, calWriteMemory, calExit, otaEnter,
    otaSendInformation, otaSendFirmwarePackage, otaStartUpgradeProcedure]
  raw command := command.entry.1
  name command := command.entry.2
  find?_raw command := by cases command <;> rfl

/-- Every command, in wire order. -/
def all : List Command := Code.all

/-- The byte that stands for a command. -/
def byte (command : Command) : UInt8 := Code.raw command

/-- The name of a command. -/
def name (command : Command) : String := Code.name command

/-- The command that a byte stands for, if any. -/
def ofByte? (value : UInt8) : Option Command := Code.ofRaw? value

/-- Every command is found under its own byte. -/
@[simp]
theorem ofByte?_byte (command : Command) : ofByte? command.byte = some command :=
  Code.ofRaw?_raw command

/-- The payload lengths of a frame from the host, `none` for commands that only answer. -/
def requestSize : Command → Option SizeRule
  | readInformation | readDisplay | readProtocolVersion | readBatteryLife | calReading
  | readHarmonicsData | calEnter | calExit | otaEnter => some (.exactly 0)
  | writeUartConfiguration | calWriteFunctionCode | calWriteRangeCode
  | otaStartUpgradeProcedure => some (.exactly 1)
  | readMemory => some (.exactly 4)
  | otaSendInformation => some (.exactly 13)
  | calWriteMemory | otaSendFirmwarePackage => some (.upTo maxPayload)
  | failure | success => none

/-- The payload lengths of a frame from the meter, `none` for commands that are answered by an
acknowledgement. -/
def responseSize : Command → Option SizeRule
  | readInformation => some (.exactly 52)
  | readDisplay => some (.exactly 12)
  | readProtocolVersion | readBatteryLife => some (.exactly 4)
  | calReading => some (.exactly 23)
  | readMemory => some (.upTo maxPayload)
  | readHarmonicsData => some (.exactly 50)
  | failure => some (.exactly 1)
  | success => some (.exactly 0)
  | writeUartConfiguration | calEnter | calWriteFunctionCode | calWriteRangeCode | calWriteMemory
  | calExit | otaEnter | otaSendInformation | otaSendFirmwarePackage
  | otaStartUpgradeProcedure => none

/-- The payload lengths of a command in one direction. -/
def size (command : Command) : Direction → Option SizeRule
  | .request => command.requestSize
  | .response => command.responseSize

/-- A frame with this command may travel in `direction`. -/
def validFor (command : Command) (direction : Direction) : Bool :=
  (command.size direction).isSome

/-- A frame with this command and a payload of `length` bytes may travel in `direction`. -/
def allows (command : Command) (direction : Direction) (length : Nat) : Bool :=
  (command.size direction).any (·.accepts length)

/-- No rule of the table allows more than the longest payload. -/
theorem size_le_maxPayload {command : Command} {direction : Direction} {rule : SizeRule}
    (hrule : command.size direction = some rule) {length : Nat} (h : rule.accepts length = true) :
    length ≤ maxPayload := by
  refine Nat.le_trans (SizeRule.le_maxLength_of_accepts h) ?_
  cases direction <;> cases command <;> cases hrule <;> decide

/-- A command that allows some payload length may travel in that direction. -/
theorem validFor_of_allows {command : Command} {direction : Direction} {length : Nat}
    (h : command.allows direction length = true) : command.validFor direction = true := by
  unfold allows at h
  unfold validFor
  cases hsize : command.size direction with
  | none => simp [hsize] at h
  | some rule => rfl

/-- A payload length that a command allows fits a frame. -/
theorem le_maxPayload_of_allows {command : Command} {direction : Direction} {length : Nat}
    (h : command.allows direction length = true) : length ≤ maxPayload := by
  unfold allows at h
  cases hsize : command.size direction with
  | none => simp [hsize] at h
  | some rule =>
    rw [hsize] at h
    exact size_le_maxPayload hsize h

end Command

end Multimeter
