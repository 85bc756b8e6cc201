import Multimeter.Checksum
import Multimeter.Command
/-!
# Frames

A frame on the wire is two start bytes, the command, the payload length, the payload and the
checksum of everything before it. Error texts show its bytes as two lower-case hexadecimal digits.
-/

namespace Multimeter

/-- The lower-case hexadecimal digit of a number below 16. -/
def hexDigit (n : Nat) : Char :=
  if n < 10 then Char.ofNat ('0'.toNat + n) else Char.ofNat ('a'.toNat + (n - 10))

/-- A byte as two hexadecimal digits. -/
def hexByte (byte : UInt8) : String :=
  String.ofList [hexDigit (byte.toNat / 16), hexDigit (byte.toNat % 16)]

/-- The byte that, written twice, starts a frame. -/
def startByte : UInt8 := 0x55

/-- The bytes before the payload: two start bytes, command and length. -/
def headerSize : Nat := 4

/-- The longest frame: header, longest payload and checksum. -/
def maxFrame : Nat := headerSize + maxPayload + 1

/-- Why a frame could not be written or was dropped while it was read. -/
inductive FrameError where
  /-- The payload is longer than a frame can carry. -/
  | payloadTooLarge
  /-- The destination is shorter than the frame. -/
  | bufferTooSmall
  /-- The command byte may not travel in this direction. -/
  | unknownCommand (command : UInt8)
  /-- The command does not allow the announced payload length. -/
  | badLength (command length : UInt8)
  /-- The last byte is not the checksum of the bytes before it. -/
  | checksumMismatch (expected actual : UInt8)
  /-- More bytes than any frame has. -/
  | overflow
  deriving DecidableEq, Repr

namespace FrameError

/-- The receiver has dropped the frame and goes on by itself. -/
def isRecoverable : FrameError → Bool
  | unknownCommand _ | badLength _ _ | checksumMismatch _ _ => true
  | payloadTooLarge | bufferTooSmall | overflow => false

/-- The text shown to a user. -/
def message : FrameError → String
  | payloadTooLarge => "payload exceeds " ++ toString maxPayload ++ " bytes"
  | bufferTooSmall => "encode buffer too small"
  | unknownCommand command => "unexpected command 0x" ++ hexByte command
  | badLength command length =>
    "bad length " ++ toString length ++ " for command 0x" ++ hexByte command
  | checksumMismatch expected actual =>
    "checksum mismatch: expected 0x" ++ hexByte expected ++ ", got 0x" ++ hexByte actual
  | overflow => "receive buffer overflow"

/-- The kind of the error with its figures in decimal, as the log shows it. -/
def detail : FrameError → String
  | payloadTooLarge => "PayloadTooLarge"
  | bufferTooSmall => "BufferTooSmall"
  | unknownCommand command => "UnknownCommand(" ++ toString command ++ ")"
  | badLength command length =>
    "BadLength \x7b command: " ++ toString command ++ ", length: " ++ toString length ++ " \x7d"
  | checksumMismatch expected actual =>
    "ChecksumMismatch \x7b expected: " ++ toString expected ++ ", actual: " ++ toString actual
      ++ " \x7d"
  | overflow => "Overflow"

end FrameError

/-- The payload of a frame: at most 64 bytes. -/
structure Payload where
  /-- The bytes carried. -/
  bytes : List UInt8
  /-- They fit one frame. -/
  length_le : bytes.length ≤ maxPayload
  deriving DecidableEq, Repr

namespace Payload

/-- No bytes. -/
def empty : Payload := ⟨[], Nat.zero_le _⟩

/-- The number of bytes carried. -/
def length (payload : Payload) : Nat := payload.bytes.length

/-- Carry `bytes`, if they fit one frame. -/
def ofBytes? (bytes : List UInt8) : Option Payload :=
  if h : bytes.length ≤ maxPayload then some ⟨bytes, h⟩ else none

/-- What is carried is what was handed over. -/
theorem ofBytes?_eq_some_iff {bytes : List UInt8} {payload : Payload} :
    ofBytes? bytes = some payload ↔ payload.bytes = bytes := by
  cases payload with
  | mk held hle =>
    unfold ofBytes?
    split
    · simp [eq_comm]
    · rename_i hlong
      simp only [reduceCtorEq, false_iff]
      rintro rfl
      exact hlong hle

/-- The bytes of a payload are a payload again. -/
@[simp]
theorem ofBytes?_bytes (payload : Payload) : ofBytes? payload.bytes = some payload :=
  ofBytes?_eq_some_iff.2 rfl

end Payload

/-- A command with its payload. -/
structure Frame where
  /-- What the frame asks for or answers. -/
  command : Command
  /-- The data of the command. -/
  payload : Payload
  deriving DecidableEq, Repr

namespace Frame

/-- A frame without payload. -/
def empty (command : Command) : Frame := ⟨command, Payload.empty⟩

/-- A frame carrying `bytes`, which fails if they do not fit. -/
def ofBytes (command : Command) (bytes : List UInt8) : Except FrameError Frame :=
  match Payload.ofBytes? bytes with
  | some payload => .ok ⟨command, payload⟩
  | none => .error .payloadTooLarge

/-- The number of bytes that the frame occupies on the wire. -/
def encodedLength (frame : Frame) : Nat := headerSize + frame.payload.length + 1

/-- The bytes that the checksum covers: start bytes, command, length and payload. -/
def body (frame : Frame) : List UInt8 :=
  [startByte, startByte, frame.command.byte, UInt8.ofNat frame.payload.length]
    ++ frame.payload.bytes

/-- The frame as it stands on the wire. -/
def encode (frame : Frame) : List UInt8 := frame.body ++ [checksum frame.body]

/-- Write the frame over the start of `buffer`, which fails if the buffer is shorter. -/
def encodeInto (frame : Frame) (buffer : List UInt8) : Except FrameError (List UInt8) :=
  if buffer.length < frame.encodedLength then .error .bufferTooSmall
  else .ok (frame.encode ++ buffer.drop frame.encodedLength)

/-- The wire form has the announced length. -/
@[simp]
theorem length_encode (frame : Frame) : frame.encode.length = frame.encodedLength := by
  simp only [encode, body, encodedLength, headerSize, Payload.length, List.length_append,
    List.length_cons, List.length_nil]

/-- A frame may travel in `direction`: its command allows its payload length there. -/
def ValidFor (frame : Frame) (direction : Direction) : Prop :=
  frame.command.allows direction frame.payload.length = true

instance (frame : Frame) (direction : Direction) : Decidable (frame.ValidFor direction) :=
  inferInstanceAs (Decidable (_ = _))

end Frame

end Multimeter
