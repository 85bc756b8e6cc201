import Multimeter.Codec
import Multimeter.Model
import Multimeter.Text.Blank
import Multimeter.Text.Padded
import Multimeter.TwoBytes
/-!
# Identification

The identification answer: the model name with its vendor, the serial number, the model number and
the firmware version.
-/

namespace Multimeter

/-- The vendor of a meter whose name has none. -/
def defaultVendor : String := "APPA"

/-- The width of the model name field, in bytes. -/
def nameWidth : Nat := 32

/-- The width of the serial number field, in bytes. -/
def serialWidth : Nat := 16

/-- How a meter identifies itself. -/
structure Information where
  /-- Vendor and model. -/
  name : String
  /-- Serial number. -/
  serial : String
  /-- Model number. -/
  model : ModelId
  /-- Firmware version times 100. -/
  firmware : UInt16
  /-- The name fits its field. -/
  name_fits : (Text.utf8 name).length ≤ nameWidth
  /-- The serial number fits its field. -/
  serial_fits : (Text.utf8 serial).length ≤ serialWidth
  deriving DecidableEq, Repr

namespace Information

/-- The length of an identification answer, in bytes. -/
def size : Nat := nameWidth + serialWidth + 4

/-- Put an identification together from texts that fit their fields. -/
def ofParts? (name serial : String) (model : ModelId) (firmware : UInt16) : Option Information :=
  if h : (Text.utf8 name).length ≤ nameWidth ∧ (Text.utf8 serial).length ≤ serialWidth then
    some { name, serial, model, firmware, name_fits := h.1, serial_fits := h.2 }
  else none

/-- Read the parts of an identification answer. -/
def decode? (bytes : List UInt8) : Option Information := do
  let name ← Text.ofField? (bytes.take nameWidth)
  let serial ← Text.ofField? ((bytes.drop nameWidth).take serialWidth)
  match bytes.drop (nameWidth + serialWidth) with
  | [modelLow, modelHigh, firmwareLow, firmwareHigh] =>
    ofParts? name serial (.ofRaw (TwoBytes.join modelHigh modelLow))
      (TwoBytes.join firmwareHigh firmwareLow)
  | _ => none

/-- Read an identification answer, which has exactly its length and well-formed texts. -/
def decode (bytes : List UInt8) : Except CodecError Information :=
  match decode? bytes with
  | some information => .ok information
  | none => .error .dataMismatch

/-- Write an identification answer. -/
def encode (information : Information) : List UInt8 :=
  Text.toField nameWidth information.name ++ Text.toField serialWidth information.serial ++
    [TwoBytes.low information.model.raw, TwoBytes.high information.model.raw,
     TwoBytes.low information.firmware, TwoBytes.high information.firmware]

/-- Two padded texts and a model number fill the payload of an identification. -/
@[simp]
theorem length_encode (information : Information) : information.encode.length = size := by
  simp [encode, size, Nat.add_assoc]

/-- The vendor and the model: the name is split at its last space, and a name without a space is a
model of the default vendor. -/
def vendorAndModel (information : Information) : String × String :=
  match Text.splitLast? information.name.toList with
  | some (vendor, model) => (String.ofList (Text.trimEnd vendor), String.ofList model)
  | none => (defaultVendor, information.name)

/-- The vendor. -/
def vendor (information : Information) : String := information.vendorAndModel.1

/-- The model within the vendor's range. -/
def modelName (information : Information) : String := information.vendorAndModel.2

/-- The firmware version with two places behind the point. -/
def version (information : Information) : String :=
  let hundredths := information.firmware.toNat % 100
  toString (information.firmware.toNat / 100) ++ "." ++ toString (hundredths / 10)
    ++ toString (hundredths % 10)

end Information

end Multimeter
