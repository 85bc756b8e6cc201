import Multimeter.Toml.Numeral
/-!
# Decimals

Numbers with a fraction or an exponent, and the words for infinity and for no number. Decimals keep
their exact value; whether it can be represented is asked only where the number is used.
-/

namespace Multimeter.Toml

/-- A number with a fraction or an exponent. -/
inductive Decimal where
  /-- Infinity of either sign. -/
  | infinity (negative : Bool)
  /-- No number. -/
  | nan
  /-- The number `digits * 10 ^ exponent` with a sign. -/
  | finite (negative : Bool) (digits : Nat) (exponent : Int)
  deriving DecidableEq, Repr

namespace Decimal

/-- The least magnitude that rounds to infinity in double precision. -/
def overflowLimit : Nat := Nat.pow 2 1024 - Nat.pow 2 970

/-- The number is within the range of double precision. It is decided by the position of the leading
digit, unless that is the one of the limit. -/
def fits : Decimal → Bool
  | infinity _ | nan => true
  | finite _ digits exponent =>
    let position := (Nat.toDigits 10 digits).length + exponent
    let limit := (Nat.toDigits 10 overflowLimit).length
    digits = 0 || position < limit ||
      (position = limit &&
        digits * Nat.pow 10 exponent.toNat < overflowLimit * Nat.pow 10 (-exponent).toNat)

/-- The decimal digits that a text spells, at least one. -/
def digits? (text : List Char) : Option (List Nat) := do
  guard (text ≠ [])
  text.mapM (digit? 10)

/-- The digits of a fraction with its point, or of no fraction. -/
def fraction? : List Char → Option (List Nat)
  | [] => some []
  | '.' :: rest => digits? rest
  | _ => none

/-- The value of an exponent with its mark, or of no exponent. -/
def exponent? : List Char → Option Int
  | [] => some 0
  | _ :: rest =>
    let (negative, digits) := splitSign rest
    (digits? digits).map (signed negative)

/-- The number that a text without a sign spells with a fraction, an exponent or both. -/
def magnitude? (text : List Char) : Option (Nat × Int) := do
  let (significand, exponent) := text.span fun c => c != 'e' && c != 'E'
  let (whole, fraction) := significand.span (· != '.')
  guard (fraction ≠ [] ∨ exponent ≠ [])
  let whole ← digits? whole
  let fraction ← fraction? fraction
  let exponent ← exponent? exponent
  return (ofDigits 10 (whole ++ fraction), exponent - fraction.length)

/-- The number that a text spells. Its whole part begins with no zero but a single one. -/
def ofChars? (text : List Char) : Option Decimal :=
  let (negative, body) := splitSign text
  if body = ['i', 'n', 'f'] then some (.infinity negative)
  else if body = ['n', 'a', 'n'] then some .nan
  else do
    let plain ← ungroup? Char.isDigit false body
    guard (body.head? = some '0' → (plain.takeWhile Char.isDigit).length = 1)
    let (digits, exponent) ← magnitude? plain
    return .finite negative digits exponent

end Decimal

end Multimeter.Toml
