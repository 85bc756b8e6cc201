import Multimeter.Frame
/-!
# Message codec

What requests and answers have in common when they are written to frames and read from them: the
errors, and the check of a payload length against the sizes that a command allows.
-/

namespace Multimeter

/-- Why a message could not be written to a frame or read from one. -/
inductive CodecError where
  /-- The command has no payload size in this direction, or no message. -/
  | unsupported (command : UInt8)
  /-- The payload length or the answering command is not the expected one. -/
  | dataMismatch
  /-- The frame could not be built. -/
  | frame (error : FrameError)
  deriving DecidableEq, Repr

namespace CodecError

/-- The text shown to a user. -/
def message : CodecError → String
  | unsupported command => "unsupported command 0x" ++ hexByte command
  | dataMismatch => "payload does not match command"
  | frame error => "frame error: " ++ error.message

end CodecError

/-- Check that `command` allows `length` payload bytes in `direction`. -/
def Command.checkSize (command : Command) (direction : Direction) (length : Nat) :
    Except CodecError Unit :=
  match command.size direction with
  | none => .error (.unsupported command.byte)
  | some rule =>
    if length ≤ maxPayload && rule.accepts length then .ok () else .error .dataMismatch

/-- A frame carrying `bytes`, as a step of writing a message. -/
def Frame.build (command : Command) (bytes : List UInt8) : Except CodecError Frame :=
  (Frame.ofBytes command bytes).mapError .frame

end Multimeter
