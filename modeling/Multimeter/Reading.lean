import Multimeter.Reading.DataContent
import Multimeter.Reading.DisplayUnit
import Multimeter.Reading.Dot
import Multimeter.Reading.Word
/-!
# Readings

What one display shows: a count with the position of its decimal point, a unit, the kind of content
and the overload mark. On the wire a reading is five bytes: the count in three, unit and point in
one, content and overload in one. Stored entries are bare readings.

Counts travel in two's complement, low byte first. Writing keeps the low 24 bits of a number, so it
is undone by reading exactly for the numbers that 24 bits can hold.
-/

namespace Multimeter

namespace Int24

/-- The three low bytes of a number, low byte first. -/
def encode (n : Int32) : List UInt8 :=
  let low := (n.toInt % 0x1000000).toNat
  [UInt8.ofNat low, UInt8.ofNat (low / 0x100), UInt8.ofNat (low / 0x10000)]

/-- The number with these bytes, low byte first. -/
def decode (low middle high : UInt8) : Int32 :=
  let value := low.toNat + 0x100 * middle.toNat + 0x10000 * high.toNat
  Int32.ofInt (Int.bmod value 0x1000000)

end Int24

/-- What one display shows. -/
structure Reading where
  /-- The count shown, or the number of a word. -/
  count : Int32
  /-- The position of the decimal point. -/
  dot : Coded Dot UInt8
  /-- The unit beside the count. -/
  unit : Coded DisplayUnit UInt8
  /-- What the count means. -/
  content : Coded DataContent UInt8
  /-- The value is beyond the range of the display. -/
  overload : Bool
  deriving DecidableEq, Repr

namespace Reading

/-- The length of a reading on the wire, in bytes. -/
def size : Nat := 5

/-- Read the first five bytes; shorter input is no reading. -/
def decode? : List UInt8 → Option Reading
  | low :: middle :: high :: scale :: mode :: _ => some {
      count := Int24.decode low middle high
      dot := .ofRaw (scale &&& 0x07)
      unit := .ofRaw (scale >>> 3)
      content := .ofRaw (mode &&& 0x7f)
      overload := mode &&& 0x80 != 0 }
  | _ => none

/-- The five bytes of a reading. Each field keeps only the bits that it has on the wire. -/
def encode (reading : Reading) : List UInt8 :=
  Int24.encode reading.count ++
    [(reading.unit.raw <<< 3) ||| (reading.dot.raw &&& 0x07),
     (reading.content.raw &&& 0x7f) ||| (if reading.overload then 0x80 else 0)]

/-- The word shown instead of a number, if any. -/
def word? (reading : Reading) : Option Word := Word.ofCount? reading.count

/-- A reading has five bytes. -/
@[simp]
theorem length_encode (reading : Reading) : reading.encode.length = size := rfl

end Reading

end Multimeter
