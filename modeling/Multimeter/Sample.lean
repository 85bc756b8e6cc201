import Multimeter.Sample.Amount
import Multimeter.Sample.Flags
import Multimeter.Sample.Quantity
/-!
# Samples

One measured value in SI units, with the number of decimal places that the display showed.
-/

namespace Multimeter

/-- A value ready to be recorded. -/
structure Sample where
  /-- The value, `none` where the display shows no number. -/
  amount : Option Amount
  /-- Decimal places relative to the SI unit; negative for large metric scales. -/
  digits : Int8
  /-- The unit of the value. -/
  unit : SiUnit
  /-- What was measured. -/
  quantity : Quantity
  /-- How it was measured. -/
  flags : Flags
  deriving DecidableEq, Repr

namespace Sample

/-- The value, infinite where the display shows no number. -/
def value (sample : Sample) : Float :=
  match sample.amount with
  | some amount => amount.toFloat
  | none => 1.0 / 0.0

/-- The display shows a number. -/
def isFinite (sample : Sample) : Bool := sample.amount.isSome

/-- The sample of a display without a number. -/
def noValue : Sample :=
  { amount := none, digits := 0, unit := .unitless, quantity := .count, flags := .none }

/-- The number of a stored entry, counted from one. -/
def entryNumber (index : Nat) : Sample :=
  { noValue with amount := some { count := index + 1, exponent := 0, factor := 1 } }

end Sample

end Multimeter
