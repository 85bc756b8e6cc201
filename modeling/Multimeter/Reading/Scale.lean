import Multimeter.Reading.DisplayUnit
import Multimeter.Sample.Quantity
/-!
# Scale of display units

How a unit on a display relates to the SI: the SI unit, the quantity, the decimal exponent of the
metric scale, and a whole factor for minutes.
-/

namespace Multimeter

/-- How a display unit relates to the SI. -/
structure Scale where
  /-- The SI unit. -/
  unit : SiUnit
  /-- The quantity, `none` where no unit is shown. -/
  quantity : Option Quantity
  /-- The decimal exponent of the metric scale. -/
  exponent : Int8 := 0
  /-- A factor that is no power of ten. -/
  factor : Nat := 1
  deriving DecidableEq, Repr

/-- The scale of a display unit. -/
def DisplayUnit.scale : DisplayUnit → Scale
  | .none => { unit := .unitless, quantity := .none }
  | .volt => { unit := .volt, quantity := some .voltage }
  | .milliVolt => { unit := .volt, quantity := some .voltage, exponent := -3 }
  | .ampere => { unit := .ampere, quantity := some .current }
  | .milliAmpere => { unit := .ampere, quantity := some .current, exponent := -3 }
  | .microAmpere => { unit := .ampere, quantity := some .current, exponent := -6 }
  | .decibel => { unit := .decibelVolt, quantity := some .power }
  | .decibelMilliwatt => { unit := .decibelMw, quantity := some .power }
  | .milliFarad => { unit := .farad, quantity := some .capacitance, exponent := -3 }
  | .microFarad => { unit := .farad, quantity := some .capacitance, exponent := -6 }
  | .nanoFarad => { unit := .farad, quantity := some .capacitance, exponent := -9 }
  | .gigaOhm => { unit := .ohm, quantity := some .resistance, exponent := 9 }
  | .megaOhm => { unit := .ohm, quantity := some .resistance, exponent := 6 }
  | .kiloOhm => { unit := .ohm, quantity := some .resistance, exponent := 3 }
  | .ohm => { unit := .ohm, quantity := some .resistance }
  | .percent => { unit := .percentage, quantity := some .difference }
  | .megaHertz => { unit := .hertz, quantity := some .frequency, exponent := 6 }
  | .kiloHertz => { unit := .hertz, quantity := some .frequency, exponent := 3 }
  | .hertz => { unit := .hertz, quantity := some .frequency }
  | .degreeCelsius => { unit := .celsius, quantity := some .temperature }
  | .degreeFahrenheit => { unit := .fahrenheit, quantity := some .temperature }
  | .second => { unit := .second, quantity := some .time }
  | .milliSecond => { unit := .second, quantity := some .time, exponent := -3 }
  | .microSecond => { unit := .second, quantity := some .time, exponent := -6 }
  | .nanoSecond => { unit := .second, quantity := some .time, exponent := -9 }
  | .minute => { unit := .second, quantity := some .time, factor := 60 }
  | .kiloWatt => { unit := .watt, quantity := some .power, exponent := 3 }
  | .powerFactor => { unit := .unitless, quantity := some .powerFactor }

/-- The scale of a display unit; an unknown unit counts as none. -/
def Coded.scale : Coded DisplayUnit UInt8 → Scale
  | .known unit => unit.scale
  | .unknown _ => DisplayUnit.none.scale

/-- Metric scales reach from nano to giga. -/
theorem Coded.scale_exponent_bounds (unit : Coded DisplayUnit UInt8) :
    -9 ≤ unit.scale.exponent.toInt ∧ unit.scale.exponent.toInt ≤ 9 := by
  cases unit with
  | known unit => cases unit <;> decide
  | unknown raw =>
    show -9 ≤ DisplayUnit.none.scale.exponent.toInt ∧ DisplayUnit.none.scale.exponent.toInt ≤ 9
    decide

end Multimeter
