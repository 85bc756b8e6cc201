import Multimeter.Codec
import Multimeter.Storage
/-!
# Session errors

Why an operation on a link or on a meter failed. Soft failures may be repeated: no answer in time,
an answer that does not fit, a refusal by the meter.
-/

namespace Multimeter

/-- A failure of the serial line, in the words of whatever drives it. -/
structure Fault where
  /-- What the line reports. -/
  text : String
  deriving DecidableEq, Repr

/-- Why an operation failed. -/
inductive SessionError where
  /-- The serial line failed. -/
  | io (fault : Fault)
  /-- A write gave up before all bytes were sent. -/
  | shortWrite (written expected : Nat)
  /-- A framing failure that the receiver does not recover from. -/
  | frame (error : FrameError)
  /-- A message that could not be written or does not answer the request. -/
  | codec (error : CodecError)
  /-- The meter refused, with its status byte. -/
  | deviceFailure (status : UInt8)
  /-- No answer in time. -/
  | timeout
  /-- The storage could not be read. -/
  | storage (error : StorageError)
  /-- Too many errors. -/
  | unresponsive
  /-- The operation needs an identified meter. -/
  | notIdentified
  deriving DecidableEq, Repr

namespace SessionError

/-- The operation may be repeated. -/
def isRetryable : SessionError → Bool
  | timeout | codec .dataMismatch | deviceFailure _ => true
  | _ => false

/-- The text shown to a user. -/
def message : SessionError → String
  | io fault => "I/O error: " ++ fault.text
  | shortWrite written expected =>
    "short write: " ++ toString written ++ " of " ++ toString expected ++ " bytes"
  | frame error => error.message
  | codec error => error.message
  | deviceFailure status => "meter reported failure 0x" ++ hexByte status
  | timeout => "no response from meter"
  | storage error => error.message
  | unresponsive => "meter unresponsive, too many errors"
  | notIdentified => "meter not identified"

end SessionError

end Multimeter
