import Multimeter.FunctionCode
/-!
# Coupling

What the function of a meter says about the coupling of the measured quantity.
-/

namespace Multimeter

/-- The coupling that a function implies. -/
inductive Coupling where
  | ac
  | dc
  | acDc
  | continuity
  | diode
  /-- Nothing is implied. -/
  | other
  deriving DecidableEq, Repr

/-- The coupling that a function implies. -/
def FunctionCode.coupling : FunctionCode → Coupling
  | .peakHoldUa | .acUa | .acMv | .acMa | .lpfMv | .lpfMa | .acV | .acA | .lpfV | .lpfA | .lozAcV
  | .acW | .lozLpfV | .vHarmonics | .inrush | .aHarmonics | .flexInrush | .flexAHarmonics
  | .acUaHfr | .acAHfr | .acMaHfr | .acUaHfr2 | .acVHfr | .acMvHfr | .acVPv | .acVPvHfr => .ac
  | .dcUa | .dcMv | .dcMa | .dcV | .dcA | .dcAOut | .dcAOutSlowLinear | .dcAOutFastLinear
  | .dcAOutSlowStep | .dcAOutFastStep | .loopPower | .lozDcV | .dcW | .flexAcA | .flexLpfA
  | .flexPeakHoldA | .dcVPv => .dc
  | .acDcMv | .acDcMa | .acDcV | .acDcA | .voltSense | .lozAcDcV | .acDcVPv => .acDc
  | .continuity => .continuity
  | .diode => .diode
  | _ => .other

/-- The coupling that a function implies; an unknown function implies none. -/
def Coded.coupling : Coded FunctionCode UInt8 → Coupling
  | .known function => function.coupling
  | .unknown _ => .other

end Multimeter
