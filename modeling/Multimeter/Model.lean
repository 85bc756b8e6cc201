import Multimeter.Coded
/-!
# Meter models

The model number in the identification answer, the text printed on the meter, and the hardware
family, which decides the storage layout and whether a second display is reported.
-/

namespace Multimeter

/-- A meter of the product line. -/
inductive Model where
  | invalid
  | appa150
  | appa150B
  | appa208
  | appa208B
  | appa506
  | appa506B
  /-- A number that some meters of type 506B report. -/
  | appa506BAlt
  | appa501
  | appa502
  | s1
  | s2
  | s3
  | appa172
  | appa173
  | appa175
  | appa177
  | sFlex10A
  | sFlex18A
  | a17N
  | s0
  | appa179
  | appa503
  | appa505
  deriving DecidableEq, Repr

/-- The wire number and the name of each model. -/
def Model.entry : Model → UInt16 × String
  | .invalid => (0x0000, "Invalid")
  | .appa150 => (0x0001, "Appa150")
  | .appa150B => (0x0002, "Appa150B")
  | .appa208 => (0x0003, "Appa208")
  | .appa208B => (0x0004, "Appa208B")
  | .appa506 => (0x0005, "Appa506")
  | .appa506B => (0x0006, "Appa506B")
  | .appa506BAlt => (0x0600, "Appa506BAlt")
  | .appa501 => (0x0007, "Appa501")
  | .appa502 => (0x0008, "Appa502")
  | .s1 => (0x0009, "S1")
  | .s2 => (0x000a, "S2")
  | .s3 => (0x000b, "S3")
  | .appa172 => (0x000c, "Appa172")
  | .appa173 => (0x000d, "Appa173")
  | .appa175 => (0x000e, "Appa175")
  | .appa177 => (0x000f, "Appa177")
  | .sFlex10A => (0x0010, "SFlex10A")
  | .sFlex18A => (0x0011, "SFlex18A")
  | .a17N => (0x0012, "A17N")
  | .s0 => (0x0013, "S0")
  | .appa179 => (0x0014, "Appa179")
  | .appa503 => (0x0015, "Appa503")
  | .appa505 => (0x0016, "Appa505")

instance : Code Model UInt16 where
  all := [.invalid, .appa150, .appa150B, .appa208, .appa208B, .appa506, .appa506B, .appa506BAlt,
    .appa501, .appa502, .s1, .s2, .s3, .appa172, .appa173, .appa175, .appa177, .sFlex10A,
    .sFlex18A, .a17N, .s0, .appa179, .appa503, .appa505]
  raw code := code.entry.1
  name code := code.entry.2
  find?_raw code := by cases code <;> rfl

/-- Meters of one hardware family share the storage layout and the displays. -/
inductive Family where
  | series150
  | series200
  | series500
  | series170
  | seriesS
  | sFlex
  | a17N
  | unknown
  deriving DecidableEq, Repr

/-- The name of a family. -/
def Family.name : Family → String
  | .series150 => "Series150"
  | .series200 => "Series200"
  | .series500 => "Series500"
  | .series170 => "Series170"
  | .seriesS => "SeriesS"
  | .sFlex => "SFlex"
  | .a17N => "A17N"
  | .unknown => "Unknown"

namespace Model

/-- The model as printed on the meter. -/
def text : Model → String
  | .invalid => "invalid"
  | .appa150 => "150"
  | .appa150B => "150B"
  | .appa208 => "208"
  | .appa208B => "208B"
  | .appa506 => "506"
  | .appa506B | .appa506BAlt => "506B"
  | .appa501 => "501"
  | .appa502 => "502"
  | .s1 => "S1"
  | .s2 => "S2"
  | .s3 => "S3"
  | .appa172 => "172"
  | .appa173 => "173"
  | .appa175 => "175"
  | .appa177 => "177"
  | .sFlex10A => "sFlex-10A"
  | .sFlex18A => "sFlex-18A"
  | .a17N => "A17N"
  | .s0 => "S0"
  | .appa179 => "179"
  | .appa503 => "503"
  | .appa505 => "505"

/-- The hardware family of a model. -/
def family : Model → Family
  | .appa150 | .appa150B => .series150
  | .appa208 | .appa208B => .series200
  | .appa501 | .appa502 | .appa503 | .appa505 | .appa506 | .appa506B | .appa506BAlt => .series500
  | .appa172 | .appa173 | .appa175 | .appa177 | .appa179 => .series170
  | .s0 | .s1 | .s2 | .s3 => .seriesS
  | .sFlex10A | .sFlex18A => .sFlex
  | .a17N => .a17N
  | .invalid => .unknown

end Model

/-- The model number of a meter. -/
abbrev ModelId := Coded Model UInt16

namespace ModelId

/-- The model as printed on the meter. -/
def text : ModelId → String
  | .known model => model.text
  | .unknown _ => "unknown"

/-- The hardware family of a model. -/
def family : ModelId → Family
  | .known model => model.family
  | .unknown _ => .unknown

end ModelId

/-- A display of the meter. -/
inductive Channel where
  /-- The main display. -/
  | primary
  /-- The sub display. -/
  | secondary
  deriving DecidableEq, Repr

namespace Channel

/-- Both displays, the main one first. -/
def all : List Channel := [primary, secondary]

/-- The label of a display in reports. -/
def label : Channel → String
  | primary => "Main"
  | secondary => "Sub"

end Channel

/-- The display of this model is reported: the main display always, the sub display for the 200 and
500 series. -/
def ModelId.supports (model : ModelId) : Channel → Bool
  | .primary => true
  | .secondary => model.family == .series200 || model.family == .series500

end Multimeter
