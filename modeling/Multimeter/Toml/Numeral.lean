import Multimeter.Toml.Quoted
/-!
# Numerals

Whole numbers as they are written, in one of four bases. A text is taken for a numeral by its outer
form, and what the digits spell is asked only where the number is used: a numeral may have no
digits, letters or tabs among its decimal digits, or more digits than can be represented. Such a
numeral has no value.
-/

namespace Multimeter.Toml

/-- A digit of any base. -/
def isAnyDigit (c : Char) : Bool := (digit? 16 c).isSome

/-- Drop underscores. Each stands between two digits; `behind` says whether the text stands behind a
digit. -/
def ungroup? (isDigit : Char → Bool) : (behind : Bool) → List Char → Option (List Char)
  | _, [] => some []
  | behind, c :: rest =>
    if c = '_' then
      if behind && rest.head?.any isDigit then ungroup? isDigit false rest else none
    else (ungroup? isDigit (isDigit c) rest).map (c :: ·)

/-- Split off a sign; the sign is negative. -/
def splitSign : List Char → Bool × List Char
  | '-' :: rest => (true, rest)
  | '+' :: rest => (false, rest)
  | text => (false, text)

/-- The number with a sign that digits spell. -/
def signed (negative : Bool) (digits : List Nat) : Int :=
  if negative then -(ofDigits 10 digits : Int) else ofDigits 10 digits

/-- A whole number as it is written. -/
structure Numeral where
  /-- The base of the digits. -/
  base : Nat
  /-- There is a minus sign. -/
  negative : Bool
  /-- What is written for the digits, without underscores. -/
  digits : List Char
  deriving DecidableEq, Repr

namespace Numeral

/-- The number can be represented in 128 bits, with or without a sign. -/
def fits (value : Int) : Bool := -(Nat.pow 2 127 : Int) ≤ value && value < (Nat.pow 2 128 : Int)

/-- The number that a numeral spells. -/
def value? (numeral : Numeral) : Option Int := do
  let digits ← numeral.digits.mapM (digit? numeral.base)
  let magnitude : Int := ofDigits numeral.base digits
  let value := if numeral.negative then -magnitude else magnitude
  if digits ≠ [] ∧ fits value then some value else none

/-- A numeral with these digits, perhaps none, in another base than ten. It has no sign. -/
def based? (base : Nat) (text : List Char) : Option Numeral := do
  let digits ← ungroup? isAnyDigit false text
  guard (digits.all fun c => (digit? base c).isSome)
  return { base, negative := false, digits }

/-- A decimal numeral: digits without a leading zero, or digits and something behind an underscore
that has no space, no fraction and no exponent. -/
def decimal? (text : List Char) : Option Numeral := do
  let (negative, body) := splitSign text
  let more := body.dropWhile Char.isDigit
  guard (body ≠ [] ∧ (body = ['0'] ∨ body.head? ≠ some '0'))
  guard (more = [] ∨ more.head? = some '_' ∧ more.all fun c => c ∉ [' ', '.', 'e', 'E'])
  let digits ← ungroup? isAnyDigit false body
  return { base := 10, negative, digits }

/-- The numeral that a text is taken for. -/
def ofChars? : List Char → Option Numeral
  | '0' :: 'x' :: rest => based? 16 rest
  | '0' :: 'o' :: rest => based? 8 rest
  | '0' :: 'b' :: rest => based? 2 rest
  | text => decimal? text

end Numeral

end Multimeter.Toml
