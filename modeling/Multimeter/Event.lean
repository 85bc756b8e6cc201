import Multimeter.Log
import Multimeter.Sink
import Multimeter.Wire
/-!
# Events

What an operation does besides changing the state of the session: the calls it makes on the wire
with their results, the pauses it takes, what it logs and what it hands to the sink.
-/

namespace Multimeter

/-- One thing that an operation did. -/
inductive Event where
  /-- Bytes were offered to the wire. -/
  | wrote (timeout : UInt32) (bytes : List UInt8) (result : WriteResult)
  /-- The wire was read. -/
  | read (wait : Wait) (result : ReadResult)
  /-- A pause was taken. -/
  | paused (milliseconds : UInt32)
  /-- An entry was logged. -/
  | logged (entry : Log.Entry)
  /-- The sink was called. -/
  | sank (call : Sink.Call)
  deriving Repr

namespace Event

/-- The event is a write. -/
def isWrite : Event → Bool
  | wrote _ _ _ => true
  | _ => false

/-- The event is a read. -/
def isRead : Event → Bool
  | read _ _ => true
  | _ => false

/-- The event is a pause. -/
def isPause : Event → Bool
  | paused _ => true
  | _ => false

/-- The entry that was logged, if the event is one. -/
def entry? : Event → Option Log.Entry
  | logged entry => some entry
  | _ => none

/-- The call on the sink, if the event is one. -/
def call? : Event → Option Sink.Call
  | sank call => some call
  | _ => none

/-- The bytes that a read delivered. -/
def delivered : Event → List UInt8
  | read _ (.ok bytes) => bytes
  | _ => []

/-- The frame that was handed out, if the event reports one. -/
def frame? : Event → Option Frame
  | logged (.received frame) => some frame
  | _ => none

end Event

end Multimeter
