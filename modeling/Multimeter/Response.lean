import Multimeter.Display
import Multimeter.Information
import Multimeter.Request
/-!
# Responses

What the meter answers. Responses are read from frames by the host and written to frames by a meter.
A frame can be read on its own, or as the answer to a request; then it also has to belong to the
request.
-/

namespace Multimeter

/-- What the meter answers. -/
inductive Response where
  | information (information : Information)
  | display (display : Display)
  /-- Four bytes of unknown layout. -/
  | protocolVersion (block : Vector UInt8 4)
  /-- Four bytes of unknown layout. -/
  | batteryLife (block : Vector UInt8 4)
  /-- A stretch of memory. -/
  | memory (block : Payload)
  | success
  /-- A refusal with the meter's status byte. -/
  | failure (status : UInt8)
  deriving DecidableEq, Repr

namespace Response

/-- The command of a response. -/
def command : Response → Command
  | information _ => .readInformation
  | display _ => .readDisplay
  | protocolVersion _ => .readProtocolVersion
  | batteryLife _ => .readBatteryLife
  | memory _ => .readMemory
  | success => .success
  | failure _ => .failure

/-- The payload of a response. -/
def payload : Response → List UInt8
  | information content => content.encode
  | display content => content.encode
  | protocolVersion block => block.toList
  | batteryLife block => block.toList
  | memory block => block.bytes
  | success => []
  | failure status => [status]

/-- Exactly four bytes. -/
def fourBytes (bytes : List UInt8) : Except CodecError (Vector UInt8 4) :=
  if h : bytes.length = 4 then .ok ⟨bytes.toArray, by simpa using h⟩ else .error .dataMismatch

/-- Read a response. -/
def ofFrame (frame : Frame) : Except CodecError Response := do
  let bytes := frame.payload.bytes
  frame.command.checkSize .response frame.payload.length
  match frame.command with
  | .readInformation => information <$> Information.decode bytes
  | .readDisplay =>
    match Display.decode? bytes with
    | some content => pure (display content)
    | none => .error .dataMismatch
  | .readProtocolVersion => protocolVersion <$> fourBytes bytes
  | .readBatteryLife => batteryLife <$> fourBytes bytes
  | .readMemory => pure (memory frame.payload)
  | .success => pure success
  | .failure => pure (failure (bytes.headD 0))
  | other => .error (.unsupported other.byte)

/-- Read the answer to `request`. A refusal answers every request; any other answer has the command
of the request, and a stretch of memory is no longer than asked for. -/
def answerTo (request : Request) (frame : Frame) : Except CodecError Response :=
  if frame.command ≠ .failure ∧ frame.command ≠ request.command then .error .dataMismatch
  else do
    let response ← ofFrame frame
    match request, response with
    | .readMemory asked, .memory block =>
      if asked.length.toNat < block.length then .error .dataMismatch else pure response
    | _, _ => pure response

/-- Write a response. -/
def toFrame (response : Response) : Except CodecError Frame := do
  let frame ← Frame.build response.command response.payload
  frame.command.checkSize .response frame.payload.length
  pure frame

end Response

end Multimeter
