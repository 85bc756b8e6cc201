import Multimeter.Coded
/-!
# Display units

The units that a meter shows beside a reading, each with its metric scale.
-/

namespace Multimeter

/-- The unit shown beside a reading, with its metric scale. -/
inductive DisplayUnit where
  | none
  | volt
  | milliVolt
  | ampere
  | milliAmpere
  | decibel
  | decibelMilliwatt
  | milliFarad
  | microFarad
  | nanoFarad
  | gigaOhm
  | megaOhm
  | kiloOhm
  | ohm
  | percent
  | megaHertz
  | kiloHertz
  | hertz
  | degreeCelsius
  | degreeFahrenheit
  | second
  | milliSecond
  | microSecond
  | nanoSecond
  | microAmpere
  | minute
  | kiloWatt
  | powerFactor
  deriving DecidableEq, Repr

/-- The wire number and the name of each unit. -/
def DisplayUnit.entry : DisplayUnit → UInt8 × String
  | .none => (0x00, "None")
  | .volt => (0x01, "Volt")
  | .milliVolt => (0x02, "MilliVolt")
  | .ampere => (0x03, "Ampere")
  | .milliAmpere => (0x04, "MilliAmpere")
  | .decibel => (0x05, "Decibel")
  | .decibelMilliwatt => (0x06, "DecibelMilliwatt")
  | .milliFarad => (0x07, "MilliFarad")
  | .microFarad => (0x08, "MicroFarad")
  | .nanoFarad => (0x09, "NanoFarad")
  | .gigaOhm => (0x0a, "GigaOhm")
  | .megaOhm => (0x0b, "MegaOhm")
  | .kiloOhm => (0x0c, "KiloOhm")
  | .ohm => (0x0d, "Ohm")
  | .percent => (0x0e, "Percent")
  | .megaHertz => (0x0f, "MegaHertz")
  | .kiloHertz => (0x10, "KiloHertz")
  | .hertz => (0x11, "Hertz")
  | .degreeCelsius => (0x12, "DegreeCelsius")
  | .degreeFahrenheit => (0x13, "DegreeFahrenheit")
  | .second => (0x14, "Second")
  | .milliSecond => (0x15, "MilliSecond")
  | .microSecond => (0x16, "MicroSecond")
  | .nanoSecond => (0x17, "NanoSecond")
  | .microAmpere => (0x18, "MicroAmpere")
  | .minute => (0x19, "Minute")
  | .kiloWatt => (0x1a, "KiloWatt")
  | .powerFactor => (0x1b, "PowerFactor")

instance : Code DisplayUnit UInt8 where
  all := [.none, .volt, .milliVolt, .ampere, .milliAmpere, .decibel, .decibelMilliwatt, .milliFarad,
    .microFarad, .nanoFarad, .gigaOhm, .megaOhm, .kiloOhm, .ohm, .percent, .megaHertz, .kiloHertz,
    .hertz, .degreeCelsius, .degreeFahrenheit, .second, .milliSecond, .microSecond, .nanoSecond,
    .microAmpere, .minute, .kiloWatt, .powerFactor]
  raw code := code.entry.1
  name code := code.entry.2
  find?_raw code := by cases code <;> rfl

end Multimeter
