import Multimeter.Coded
/-!
# Function codes

The function code in the head of a display answer says what the meter is set to measure.
-/

namespace Multimeter

/-- The position of the rotary switch, or the measuring mode chosen with the keys. -/
inductive FunctionCode where
  | none
  | acV
  | dcV
  | acMv
  | dcMv
  | ohm
  | continuity
  | diode
  | capacitance
  | acA
  | dcA
  | acMa
  | dcMa
  | degreeCelsius
  | degreeFahrenheit
  | frequency
  | duty
  | hzV
  | hzMv
  | hzA
  | hzMa
  | acDcV
  | acDcMv
  | acDcA
  | acDcMa
  | lpfV
  | lpfMv
  | lpfA
  | lpfMa
  | acUa
  | dcUa
  | dcAOut
  | dcAOutSlowLinear
  | dcAOutFastLinear
  | dcAOutSlowStep
  | dcAOutFastStep
  | loopPower
  | hart250Ohm
  | voltSense
  | peakHoldV
  | peakHoldMv
  | peakHoldA
  | peakHoldMa
  | lozAcV
  | lozDcV
  | lozAcDcV
  | lozLpfV
  | lozHzV
  | lozPeakHoldV
  | battery
  | acW
  | dcW
  | powerFactor
  | flexAcA
  | flexLpfA
  | flexPeakHoldA
  | flexHzA
  | vHarmonics
  | inrush
  | aHarmonics
  | flexInrush
  | flexAHarmonics
  | peakHoldUa
  | acUaHfr
  | acVHfr
  | acMvHfr
  | acAHfr
  | acMaHfr
  | acUaHfr2
  | dcVPv
  | acVPv
  | acVPvHfr
  | acDcVPv
  deriving DecidableEq, Repr

/-- The wire number and the name of each function. -/
def FunctionCode.entry : FunctionCode → UInt8 × String
  | .none => (0x00, "None")
  | .acV => (0x01, "AcV")
  | .dcV => (0x02, "DcV")
  | .acMv => (0x03, "AcMv")
  | .dcMv => (0x04, "DcMv")
  | .ohm => (0x05, "Ohm")
  | .continuity => (0x06, "Continuity")
  | .diode => (0x07, "Diode")
  | .capacitance => (0x08, "Capacitance")
  | .acA => (0x09, "AcA")
  | .dcA => (0x0a, "DcA")
  | .acMa => (0x0b, "AcMa")
  | .dcMa => (0x0c, "DcMa")
  | .degreeCelsius => (0x0d, "DegreeCelsius")
  | .degreeFahrenheit => (0x0e, "DegreeFahrenheit")
  | .frequency => (0x0f, "Frequency")
  | .duty => (0x10, "Duty")
  | .hzV => (0x11, "HzV")
  | .hzMv => (0x12, "HzMv")
  | .hzA => (0x13, "HzA")
  | .hzMa => (0x14, "HzMa")
  | .acDcV => (0x15, "AcDcV")
  | .acDcMv => (0x16, "AcDcMv")
  | .acDcA => (0x17, "AcDcA")
  | .acDcMa => (0x18, "AcDcMa")
  | .lpfV => (0x19, "LpfV")
  | .lpfMv => (0x1a, "LpfMv")
  | .lpfA => (0x1b, "LpfA")
  | .lpfMa => (0x1c, "LpfMa")
  | .acUa => (0x1d, "AcUa")
  | .dcUa => (0x1e, "DcUa")
  | .dcAOut => (0x1f, "DcAOut")
  | .dcAOutSlowLinear => (0x20, "DcAOutSlowLinear")
  | .dcAOutFastLinear => (0x21, "DcAOutFastLinear")
  | .dcAOutSlowStep => (0x22, "DcAOutSlowStep")
  | .dcAOutFastStep => (0x23, "DcAOutFastStep")
  | .loopPower => (0x24, "LoopPower")
  | .hart250Ohm => (0x25, "Hart250Ohm")
  | .voltSense => (0x26, "VoltSense")
  | .peakHoldV => (0x27, "PeakHoldV")
  | .peakHoldMv => (0x28, "PeakHoldMv")
  | .peakHoldA => (0x29, "PeakHoldA")
  | .peakHoldMa => (0x2a, "PeakHoldMa")
  | .lozAcV => (0x2b, "LozAcV")
  | .lozDcV => (0x2c, "LozDcV")
  | .lozAcDcV => (0x2d, "LozAcDcV")
  | .lozLpfV => (0x2e, "LozLpfV")
  | .lozHzV => (0x2f, "LozHzV")
  | .lozPeakHoldV => (0x30, "LozPeakHoldV")
  | .battery => (0x31, "Battery")
  | .acW => (0x32, "AcW")
  | .dcW => (0x33, "DcW")
  | .powerFactor => (0x34, "PowerFactor")
  | .flexAcA => (0x35, "FlexAcA")
  | .flexLpfA => (0x36, "FlexLpfA")
  | .flexPeakHoldA => (0x37, "FlexPeakHoldA")
  | .flexHzA => (0x38, "FlexHzA")
  | .vHarmonics => (0x39, "VHarmonics")
  | .inrush => (0x3a, "Inrush")
  | .aHarmonics => (0x3b, "AHarmonics")
  | .flexInrush => (0x3c, "FlexInrush")
  | .flexAHarmonics => (0x3d, "FlexAHarmonics")
  | .peakHoldUa => (0x3e, "PeakHoldUa")
  | .acUaHfr => (0x3f, "AcUaHfr")
  | .acVHfr => (0x40, "AcVHfr")
  | .acMvHfr => (0x41, "AcMvHfr")
  | .acAHfr => (0x42, "AcAHfr")
  | .acMaHfr => (0x43, "AcMaHfr")
  | .acUaHfr2 => (0x44, "AcUaHfr2")
  | .dcVPv => (0x45, "DcVPv")
  | .acVPv => (0x46, "AcVPv")
  | .acVPvHfr => (0x47, "AcVPvHfr")
  | .acDcVPv => (0x48, "AcDcVPv")

instance : Code FunctionCode UInt8 where
  all := [.none, .acV, .dcV, .acMv, .dcMv, .ohm, .continuity, .diode, .capacitance, .acA, .dcA,
    .acMa, .dcMa, .degreeCelsius, .degreeFahrenheit, .frequency, .duty, .hzV, .hzMv, .hzA, .hzMa,
    .acDcV, .acDcMv, .acDcA, .acDcMa, .lpfV, .lpfMv, .lpfA, .lpfMa, .acUa, .dcUa, .dcAOut,
    .dcAOutSlowLinear, .dcAOutFastLinear, .dcAOutSlowStep, .dcAOutFastStep, .loopPower, .hart250Ohm,
    .voltSense, .peakHoldV, .peakHoldMv, .peakHoldA, .peakHoldMa, .lozAcV, .lozDcV, .lozAcDcV,
    .lozLpfV, .lozHzV, .lozPeakHoldV, .battery, .acW, .dcW, .powerFactor, .flexAcA, .flexLpfA,
    .flexPeakHoldA, .flexHzA, .vHarmonics, .inrush, .aHarmonics, .flexInrush, .flexAHarmonics,
    .peakHoldUa, .acUaHfr, .acVHfr, .acMvHfr, .acAHfr, .acMaHfr, .acUaHfr2, .dcVPv, .acVPv,
    .acVPvHfr, .acDcVPv]
  raw code := code.entry.1
  name code := code.entry.2
  find?_raw code := by cases code <;> rfl

end Multimeter
