import Multimeter.Information
import Multimeter.Interpretation
import Multimeter.Storage
/-!
# Log

What a session reports while it runs. An entry says what happened; its level and its text are
functions of that.
-/

namespace Multimeter.Log

/-- How important an entry is. -/
inductive Level where
  | trace
  | debug
  | info
  | warn
  | error
  deriving DecidableEq, Repr

/-- The name of a level. -/
def Level.name : Level → String
  | .trace => "TRACE"
  | .debug => "DEBUG"
  | .info => "INFO"
  | .warn => "WARN"
  | .error => "ERROR"

/-- What happened. -/
inductive Entry where
  /-- A frame is about to be written. -/
  | sending (frame : Frame)
  /-- A frame has been received. -/
  | received (frame : Frame)
  /-- The bytes received are no frame. -/
  | dropped (error : FrameError)
  /-- A request found no answer in its time, in milliseconds. -/
  | timedOut (command : Command) (timeout : UInt32)
  /-- A request is repeated. -/
  | retrying (errors ceiling : UInt8)
  /-- The error counter has passed its ceiling. -/
  | unresponsive (errors : UInt8)
  /-- The meter has identified itself. -/
  | identified (information : Information)
  /-- A storage has been found. -/
  | storage (info : Storage.Info)
  /-- A polled request found no answer within its budget of polls. -/
  | unanswered (command : Command) (polls : Nat)
  /-- The answer to a polled request is refused. -/
  | refused (command : Command)
  /-- A block of entries holds none. -/
  | emptyBlock (kind : Storage.Kind) (entry : Nat)
  /-- Playback has reached the last entry. -/
  | finished (kind : Storage.Kind) (entries : Nat)
  /-- A display shows a word. -/
  | notice (message : Message)
  /-- A display shows a fault. -/
  | fault (message : Message)
  deriving DecidableEq, Repr

namespace Entry

/-- How important an entry is. -/
def level : Entry → Level
  | sending _ | received _ => .trace
  | timedOut _ _ | retrying _ _ | storage _ => .debug
  | identified _ | finished _ _ => .info
  | dropped _ | unanswered _ _ | refused _ | emptyBlock _ _ | notice _ => .warn
  | unresponsive _ | fault _ => .error

/-- The text of an entry. -/
def text : Entry → String
  | sending frame =>
    "TX " ++ frame.command.name ++ " (" ++ toString frame.encodedLength ++ " bytes)"
  | received frame =>
    "RX " ++ frame.command.name ++ " (" ++ toString frame.payload.length ++ " bytes)"
  | dropped error => "Frame dropped: " ++ error.detail
  | timedOut command timeout =>
    "No answer to " ++ command.name ++ " within " ++ toString timeout ++ " ms"
  | retrying errors ceiling =>
    "Retrying, " ++ toString errors ++ " of " ++ toString ceiling ++ " errors"
  | unresponsive errors => "Meter unresponsive after " ++ toString errors ++ " errors"
  | identified information =>
    "Vendor: " ++ information.vendor ++ ", model: " ++ information.modelName ++ " ("
      ++ information.model.name ++ "), serial: " ++ information.serial ++ ", firmware: "
      ++ information.version
  | storage info =>
    info.kind.label ++ " storage: " ++ toString info.amount ++ " entries, rate "
      ++ toString info.rate ++ " s"
  | unanswered command polls =>
    "No answer to " ++ command.name ++ " after " ++ toString polls ++ " polls"
  | refused command => "Dropping answer to " ++ command.name
  | emptyBlock kind entry =>
    "Empty " ++ kind.label ++ " block at entry " ++ toString entry
  | finished kind entries =>
    kind.label ++ " playback finished, " ++ toString entries ++ " entries"
  | notice message =>
    "MESSAGE [" ++ message.channel.label ++ "]: " ++ message.word.text ++ message.suffix
  | fault message => "ERROR [" ++ message.channel.label ++ "]: " ++ message.word.text

end Entry

end Multimeter.Log

namespace Multimeter.Message

/-- How a message is reported: not at all, as a notice or as a fault. -/
def report (message : Message) : List Log.Entry :=
  match message.word.severity with
  | .silent => []
  | .warning => [.notice message]
  | .error => [.fault message]

end Multimeter.Message
