import Multimeter.Coded
/-!
# Decimal point

A display shows a whole number with a decimal point in one of five positions.
-/

namespace Multimeter

/-- The position of the decimal point on a display. -/
inductive Dot where
  | zero
  | one
  | two
  | three
  | four
  deriving DecidableEq, Repr

/-- The wire number and the name of each position. -/
def Dot.entry : Dot → UInt8 × String
  | .zero => (0x00, "None")
  | .one => (0x01, "One")
  | .two => (0x02, "Two")
  | .three => (0x03, "Three")
  | .four => (0x04, "Four")

instance : Code Dot UInt8 where
  all := [.zero, .one, .two, .three, .four]
  raw code := code.entry.1
  name code := code.entry.2
  find?_raw code := by cases code <;> rfl

/-- The number of digits behind the point. -/
def Dot.decimals : Dot → Nat
  | .zero => 0
  | .one => 1
  | .two => 2
  | .three => 3
  | .four => 4

/-- The number of digits behind the point; an unknown position counts as none. -/
def Coded.decimals : Coded Dot UInt8 → Nat
  | .known dot => dot.decimals
  | .unknown _ => 0

/-- A display has at most four digits behind the point. -/
theorem Coded.decimals_le (dot : Coded Dot UInt8) : dot.decimals ≤ 4 := by
  cases dot with
  | known dot => cases dot <;> decide
  | unknown raw => exact Nat.zero_le _

end Multimeter
