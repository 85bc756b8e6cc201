/-!
# Quantities and SI units

What a sample measures and the unit of its value, without metric scale.
-/

namespace Multimeter

/-- What a sample measures. -/
inductive Quantity where
  | voltage
  | current
  | resistance
  | capacitance
  | frequency
  | temperature
  | time
  | power
  | powerFactor
  /-- A difference to a reference, in percent. -/
  | difference
  | continuity
  /-- A plain count, where nothing better is known. -/
  | count
  deriving DecidableEq, Repr

/-- The name of a quantity. -/
def Quantity.name : Quantity → String
  | .voltage => "Voltage"
  | .current => "Current"
  | .resistance => "Resistance"
  | .capacitance => "Capacitance"
  | .frequency => "Frequency"
  | .temperature => "Temperature"
  | .time => "Time"
  | .power => "Power"
  | .powerFactor => "PowerFactor"
  | .difference => "Difference"
  | .continuity => "Continuity"
  | .count => "Count"

/-- The unit of a sample's value. -/
inductive SiUnit where
  | unitless
  | volt
  | ampere
  | ohm
  | farad
  | hertz
  | celsius
  | fahrenheit
  | second
  | watt
  | decibelVolt
  | decibelMw
  | percentage
  deriving DecidableEq, Repr

/-- The name of a unit. -/
def SiUnit.name : SiUnit → String
  | .unitless => "Unitless"
  | .volt => "Volt"
  | .ampere => "Ampere"
  | .ohm => "Ohm"
  | .farad => "Farad"
  | .hertz => "Hertz"
  | .celsius => "Celsius"
  | .fahrenheit => "Fahrenheit"
  | .second => "Second"
  | .watt => "Watt"
  | .decibelVolt => "DecibelVolt"
  | .decibelMw => "DecibelMw"
  | .percentage => "Percentage"

/-- Voltage, current and power have a coupling. -/
def SiUnit.isElectrical : SiUnit → Bool
  | .volt | .ampere | .watt => true
  | _ => false

end Multimeter
