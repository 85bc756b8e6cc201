import Multimeter.Display
import Multimeter.FunctionCode.Coupling
import Multimeter.Model
import Multimeter.Reading.Scale
import Multimeter.Sample
/-!
# Interpretation of readings

A reading means a sample in SI units or, when the display shows a word, a message. The mode of the
meter adds the coupling and the automatic range, and the display tells held values and references
apart. Stored entries carry no mode; they are read in the mode of the last live answer.
-/

namespace Multimeter

/-- The mode in which a reading was taken. -/
structure Context where
  /-- What the meter is set to measure. -/
  function : Coded FunctionCode UInt8 := .known .none
  /-- The meter chose the range by itself. -/
  autoRange : Bool := false
  deriving DecidableEq, Repr

/-- The mode of a display answer. -/
def Display.context (display : Display) : Context :=
  { function := display.function, autoRange := display.autoRange }

/-- A word on a display. -/
structure Message where
  /-- The display that shows it. -/
  channel : Channel
  /-- The word shown. -/
  word : Word
  /-- The unit beside the word. -/
  unit : Coded DisplayUnit UInt8
  deriving DecidableEq, Repr

namespace Message

/-- The temperature scale beside a definition; other words have nothing behind them. -/
def suffix (message : Message) : String :=
  match message.word, message.unit with
  | .known .definition, .known .degreeCelsius => " °C"
  | .known .definition, .known .degreeFahrenheit => " °F"
  | _, _ => ""

end Message

/-- What a reading means. -/
inductive Interpretation where
  /-- A value, or the absence of one. -/
  | sample (sample : Sample)
  /-- A word instead of a number. -/
  | message (message : Message)
  deriving DecidableEq, Repr

namespace Interpretation

/-- The sample to record; a message has no value. -/
def toSample : Interpretation → Sample
  | sample content => content
  | message _ => .noValue

/-- The message, if the display shows a word. -/
def message? : Interpretation → Option Message
  | sample _ => none
  | message content => some content

end Interpretation

/-- The flags that the content of a display stands for. -/
def DataContent.flags (content : DataContent) (channel : Channel) : Flags :=
  let hold := if channel = .secondary then Flags.hold else Flags.none
  match content with
  | .maximum => Flags.max
  | .minimum => Flags.min
  | .average => Flags.avg
  | .peakHoldMax => Flags.max ||| hold
  | .peakHoldMin => Flags.min ||| hold
  | .autoHold | .hold => hold
  | .relativeDelta | .relativePercent =>
    if channel = .secondary then Flags.reference else Flags.relative
  | _ => Flags.none

/-- The flags that the content of a display stands for; an unknown content stands for none. -/
def Coded.contentFlags (content : Coded DataContent UInt8) (channel : Channel) : Flags :=
  match content with
  | .known content => content.flags channel
  | .unknown _ => Flags.none

/-- The flags that a coupling adds. Only electrical quantities are alternating or direct. -/
def Coupling.flags (coupling : Coupling) (electrical : Bool) : Flags :=
  match coupling with
  | .ac => if electrical then Flags.ac ||| Flags.rms else Flags.none
  | .dc => if electrical then Flags.dc else Flags.none
  | .acDc => if electrical then Flags.ac ||| Flags.dc ||| Flags.rms else Flags.none
  | .diode => Flags.diode ||| Flags.dc
  | .continuity | .other => Flags.none

namespace Reading

/-- The word that a display shows in place of a number. Dashes are no such word: they stand for a
number that is still settling. -/
def notice? (reading : Reading) : Option Word := reading.word?.filter fun word => !word.isDash

/-- The number on the display: none while it settles or is beyond the range. -/
def amount? (reading : Reading) : Option Amount :=
  if reading.overload || reading.word?.isSome then none
  else
    some {
      count := reading.count.toInt
      exponent := reading.unit.scale.exponent - Int8.ofNat reading.dot.decimals
      factor := reading.unit.scale.factor }

/-- What is measured: continuity if the meter is set to it, else what the unit says. -/
def quantity? (reading : Reading) (context : Context) : Option Quantity :=
  if context.function.coupling = .continuity then some .continuity
  else reading.unit.scale.quantity

/-- How a value on `channel` was measured. -/
def flags (reading : Reading) (context : Context) (channel : Channel) : Flags :=
  reading.content.contentFlags channel
    ||| (if context.autoRange then Flags.autorange else Flags.none)
    ||| context.function.coupling.flags reading.unit.scale.unit.isElectrical

/-- What a reading means on `channel` in the mode `context`. -/
def interpret (reading : Reading) (context : Context) (channel : Channel) : Interpretation :=
  match reading.notice? with
  | some word => .message { channel, word, unit := reading.unit }
  | none =>
    match reading.quantity? context with
    | none => .sample .noValue
    | some quantity => .sample {
        amount := reading.amount?
        digits := Int8.ofNat reading.dot.decimals - reading.unit.scale.exponent
        unit := reading.unit.scale.unit
        quantity
        flags := reading.flags context channel }

end Reading

end Multimeter
