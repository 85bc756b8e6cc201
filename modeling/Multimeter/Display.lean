import Multimeter.FunctionCode
import Multimeter.Model
import Multimeter.Reading
/-!
# Display answers

The live answer of a meter: a head of two bytes with the function and the range, and the readings of
the main and the sub display.
-/

namespace Multimeter

/-- What both displays show, and the mode that the meter is in. -/
structure Display where
  /-- What the meter is set to measure. -/
  function : Coded FunctionCode UInt8
  /-- The meter chose the function by itself. -/
  autoTest : Bool
  /-- The measuring range. -/
  range : UInt8
  /-- The meter chose the range by itself. -/
  autoRange : Bool
  /-- The main display. -/
  primary : Reading
  /-- The sub display. -/
  secondary : Reading
  deriving DecidableEq, Repr

namespace Display

/-- The length of a display answer, in bytes. -/
def size : Nat := 2 + 2 * Reading.size

/-- Read a display answer, which has exactly its length. -/
def decode? (bytes : List UInt8) : Option Display :=
  if bytes.length = size then
    match bytes with
    | mode :: range :: readings => do
      let primary ← Reading.decode? readings
      let secondary ← Reading.decode? (readings.drop Reading.size)
      some {
        function := .ofRaw (mode &&& 0x7f)
        autoTest := mode &&& 0x80 != 0
        range := range &&& 0x7f
        autoRange := range &&& 0x80 != 0
        primary
        secondary }
    | _ => none
  else none

/-- The bytes of a display answer. Each field keeps only the bits that it has on the wire. -/
def encode (display : Display) : List UInt8 :=
  [(display.function.raw &&& 0x7f) ||| (if display.autoTest then 0x80 else 0),
   (display.range &&& 0x7f) ||| (if display.autoRange then 0x80 else 0)]
    ++ display.primary.encode ++ display.secondary.encode

/-- A display mode and two readings fill the payload of a display. -/
@[simp]
theorem length_encode (display : Display) : display.encode.length = size := rfl

/-- The reading of one display. -/
def reading (display : Display) : Channel → Reading
  | .primary => display.primary
  | .secondary => display.secondary

end Display

end Multimeter
