import Multimeter.Coded
/-!
# Data content

A display can show the running measurement, an extreme value, a value relative to a reference, or
one of the meter's settings.
-/

namespace Multimeter

/-- What a display shows: the measured value itself or something derived from it. -/
inductive DataContent where
  | measuringData
  | frequency
  | cycle
  | duty
  | memoryStamp
  | memorySave
  | memoryLoad
  | logSave
  | logLoad
  | logRate
  | relativeDelta
  | relativePercent
  | relativeReference
  | maximum
  | minimum
  | average
  | peakHoldMax
  | peakHoldMin
  | dbm
  | db
  | autoHold
  | setup
  | logStamp
  | logMax
  | logMin
  | logTp
  | hold
  | currentOutput
  | currentOutput0To20mAPercent
  | currentOutput4To20mAPercent
  deriving DecidableEq, Repr

/-- The wire number and the name of each content. -/
def DataContent.entry : DataContent → UInt8 × String
  | .measuringData => (0x00, "MeasuringData")
  | .frequency => (0x01, "Frequency")
  | .cycle => (0x02, "Cycle")
  | .duty => (0x03, "Duty")
  | .memoryStamp => (0x04, "MemoryStamp")
  | .memorySave => (0x05, "MemorySave")
  | .memoryLoad => (0x06, "MemoryLoad")
  | .logSave => (0x07, "LogSave")
  | .logLoad => (0x08, "LogLoad")
  | .logRate => (0x09, "LogRate")
  | .relativeDelta => (0x0a, "RelativeDelta")
  | .relativePercent => (0x0b, "RelativePercent")
  | .relativeReference => (0x0c, "RelativeReference")
  | .maximum => (0x0d, "Maximum")
  | .minimum => (0x0e, "Minimum")
  | .average => (0x0f, "Average")
  | .peakHoldMax => (0x10, "PeakHoldMax")
  | .peakHoldMin => (0x11, "PeakHoldMin")
  | .dbm => (0x12, "Dbm")
  | .db => (0x13, "Db")
  | .autoHold => (0x14, "AutoHold")
  | .setup => (0x15, "Setup")
  | .logStamp => (0x16, "LogStamp")
  | .logMax => (0x17, "LogMax")
  | .logMin => (0x18, "LogMin")
  | .logTp => (0x19, "LogTp")
  | .hold => (0x1a, "Hold")
  | .currentOutput => (0x1b, "CurrentOutput")
  | .currentOutput0To20mAPercent => (0x1c, "CurrentOutput0To20mAPercent")
  | .currentOutput4To20mAPercent => (0x1d, "CurrentOutput4To20mAPercent")

instance : Code DataContent UInt8 where
  all := [.measuringData, .frequency, .cycle, .duty, .memoryStamp, .memorySave, .memoryLoad,
    .logSave, .logLoad, .logRate, .relativeDelta, .relativePercent, .relativeReference, .maximum,
    .minimum, .average, .peakHoldMax, .peakHoldMin, .dbm, .db, .autoHold, .setup, .logStamp,
    .logMax, .logMin, .logTp, .hold, .currentOutput, .currentOutput0To20mAPercent,
    .currentOutput4To20mAPercent]
  raw code := code.entry.1
  name code := code.entry.2
  find?_raw code := by cases code <;> rfl

end Multimeter
