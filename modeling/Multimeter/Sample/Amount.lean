/-!
# Amounts

A number that a display shows: a whole count moved by a number of decimal places, times a whole
factor for units that are no power of ten of the SI unit. The amount can be worked out in any
numbers with multiplication and division; samples carry it in binary floating point.
-/

namespace Multimeter

/-- A count times a power of ten times a factor. -/
structure Amount where
  /-- The whole number shown. -/
  count : Int
  /-- The decimal exponent of the number and its unit together. -/
  exponent : Int8
  /-- The factor of a unit such as minutes. -/
  factor : Nat
  deriving DecidableEq, Repr

namespace Amount

/-- The largest power of ten that an amount is scaled by: four digits behind the point with nano. -/
def maxPower : Nat := 13

/-- The power of ten to scale by, whichever way. -/
def power (amount : Amount) : Nat :=
  Nat.pow 10 (min amount.exponent.toInt.natAbs maxPower)

/-- Work the amount out, given how whole numbers are represented: divide by the power of ten for a
negative exponent and multiply otherwise, then apply the factor. -/
def eval {α : Type} [Mul α] [Div α] (ofInt : Int → α) (amount : Amount) : α :=
  let scaled :=
    if amount.exponent < 0 then ofInt amount.count / ofInt amount.power
    else ofInt amount.count * ofInt amount.power
  scaled * ofInt amount.factor

/-- The amount in binary floating point. -/
def toFloat (amount : Amount) : Float := amount.eval Float.ofInt

end Amount

end Multimeter
