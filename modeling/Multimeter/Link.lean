import Multimeter.Act
import Multimeter.Config
import Multimeter.Frame.Parser
import Multimeter.Link.Inbox
import Multimeter.Response
/-!
# Link

A link exchanges frames with one meter over a wire. Bytes that were read but lie behind a complete
frame are kept and looked at first when the next frame is looked for, so answers that arrive
together are not lost. Bytes that are no frame are logged and skipped.
-/

namespace Multimeter

/-- The most bytes that one read takes while the line is drained. -/
def drainSize : Nat := 16

/-- A link over a wire with states `ω`. -/
structure Link (ω : Type) where
  /-- The host's end of the serial line. -/
  wire : ω
  /-- Timing. -/
  config : Config
  /-- The frame in flight. -/
  parser : Frame.Parser
  /-- The room for one read. -/
  inbox : Inbox

namespace Link

variable {ω : Type}

/-- A link on which nothing has been received. -/
def new (wire : ω) (config : Config) : Link ω :=
  { wire, config, parser := Frame.Parser.new .response, inbox := Inbox.empty }

/-- The bytes that were read but not yet looked at. -/
def rest (link : Link ω) : List UInt8 := link.inbox.rest

/-- The number of bytes that were read but not yet looked at. -/
def buffered (link : Link ω) : Nat := link.inbox.buffered

variable [Wire ω]

/-! ## Steps on the wire -/

/-- Offer bytes to the wire. -/
def write (bytes : List UInt8) : Act (Link ω) Nat := fun link =>
  let timeout := link.config.writeTimeout
  let (result, wire) := Wire.write bytes timeout link.wire
  { ending := match result with
      | .ok count => .returned count
      | .error fault => .failed (.io fault)
    state := { link with wire }
    events := [.wrote timeout bytes result] }

/-- Read from the wire. -/
def read (wait : Wait) (capacity : Nat) : Act (Link ω) (List UInt8) := fun link =>
  let (result, wire) := Wire.read wait capacity link.wire
  { ending := match result with
      | .ok bytes => .returned bytes
      | .error fault => .failed (.io fault)
    state := { link with wire }
    events := [.read wait result] }

/-- Pause between two looks for an answer. -/
def pause : Act (Link ω) Unit := do
  let link ← Act.get
  Act.report (.paused link.config.pollInterval)

/-- Look for a frame among the bytes that were read but not yet looked at. -/
def search : Act (Link ω) (Option Frame) := fun link =>
  let scan := link.parser.scan link.rest
  let skipped := scan.dropped.map fun error => Event.logged (.dropped error)
  { ending := match scan.found with
      | .ok found => .returned found
      | .error error => .failed (.frame error)
    state := { link with
      parser := scan.parser
      inbox := link.inbox.advance (link.rest.length - scan.rest.length) }
    events := match scan.found with
      | .ok (some frame) => skipped ++ [.logged (.received frame)]
      | _ => skipped }

/-! ## Frames -/

/-- Write one frame. -/
def send (frame : Frame) : Act (Link ω) Unit := do
  Act.log (.sending frame)
  let written ← write frame.encode
  -- what the wire has taken cannot be taken back
  if written < frame.encodedLength then Act.fail (.shortWrite written frame.encodedLength)

/-- Look for one frame, first among the bytes at hand and then in one read. -/
def receive (blocking : Bool) : Act (Link ω) (Option Frame) := do
  match ← search with
  | some frame => pure (some frame)
  | none =>
    let link ← Act.get
    let bytes ← read (if blocking then .upTo link.config.readTimeout else .never) readSize
    -- the search has used up the bytes at hand
    Act.modify fun link => { link with inbox := link.inbox.fill bytes }
    search

/-- Look for a frame up to `cycles` times, with a pause between two looks. -/
def await : (cycles : Nat) → Act (Link ω) (Option Frame)
  | 0 => pure none
  | cycles + 1 => do
    match ← receive false with
    | some frame => pure (some frame)
    | none =>
      if cycles = 0 then pure none
      else
        pause
        await cycles

/-- Write a frame and wait up to `timeout` milliseconds for any frame in return. -/
def sendReceive (frame : Frame) (timeout : UInt32) : Act (Link ω) Frame := do
  send frame
  let link ← Act.get
  match ← await (link.config.cycles timeout) with
  | some answer => pure answer
  | none =>
    Act.log (.timedOut frame.command timeout)
    Act.fail .timeout

/-! ## Messages -/

/-- Read a frame as the answer to `request`; a refusal by the meter is an error. -/
def interpret (request : Request) (answer : Frame) : Act (Link ω) Response := do
  match ← Act.lift .codec (Response.answerTo request answer) with
  | .failure status => Act.fail (.deviceFailure status)
  | response => pure response

/-- Send a request without waiting for the answer. -/
def sendRequest (request : Request) : Act (Link ω) Unit := do
  send (← Act.lift .codec request.toFrame)

/-- Look once for the answer to a request that was sent before. -/
def pollResponse (request : Request) : Act (Link ω) (Option Response) := do
  match ← receive false with
  | some answer => some <$> interpret request answer
  | none => pure none

/-- Send a request and wait for the answer. -/
def request (request : Request) : Act (Link ω) Response := do
  let frame ← Act.lift .codec request.toFrame
  let link ← Act.get
  let answer ← sendReceive frame link.config.receiveTimeout
  interpret request answer

/-! ## Starting afresh -/

/-- Read and discard until a read delivers nothing; the number of bytes discarded. -/
def drain : (patience : Nat) → Act (Link ω) Nat
  | 0 => Act.giveUp
  | patience + 1 => do
    let bytes ← read .never drainSize
    if bytes.isEmpty then pure 0
    else
      let later ← drain patience
      pure (bytes.length + later)

/-- Drop the frame in flight, the bytes at hand and what waits on the wire. -/
def reset (patience : Nat) : Act (Link ω) Unit := do
  Act.modify fun link => { link with parser := link.parser.reset, inbox := link.inbox.clear }
  let _ ← drain patience
  pure ()

end Link

end Multimeter
