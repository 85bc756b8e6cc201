import Multimeter.Toml.Decimal
import Multimeter.Toml.Moment
/-!
# Values

The values of a TOML document. Tables remember how they came to be, because that decides what later
lines may add to them.
-/

namespace Multimeter.Toml

/-- How a table came to be. -/
inductive Origin where
  /-- Written in braces; nothing can be added. -/
  | braces
  /-- Named by its own header, or the document itself. -/
  | header
  /-- Named by a header only on the way to another table; it may still have a header of its own. -/
  | passed
  /-- Named by a dotted key on the way to a value; other dotted keys may add to it. -/
  | dotted
  deriving DecidableEq, Repr

/-- A value. -/
inductive Value where
  | text (content : String)
  | integer (numeral : Numeral)
  | decimal (value : Decimal)
  | boolean (value : Bool)
  | moment (value : Moment)
  /-- Values in brackets. -/
  | array (items : List Value)
  /-- Tables that each have a header in double brackets. -/
  | tables (elements : List Value)
  /-- Values under keys, each key once. -/
  | table (origin : Origin) (entries : List (String × Value))
  deriving Repr

/-- The contents of a table: values under keys. -/
abbrev Entries := List (String × Value)

namespace Value

mutual

/-- Every number within the value can be represented. -/
def fits : Value → Bool
  | integer numeral => numeral.value?.isSome
  | decimal value => value.fits
  | array items => fitAll items
  | tables elements => fitAll elements
  | table _ entries => fitEntries entries
  | text _ | boolean _ | moment _ => true

/-- Every number within the values can be represented. -/
def fitAll : List Value → Bool
  | [] => true
  | value :: later => fits value && fitAll later

/-- Every number under the keys can be represented. -/
def fitEntries : List (String × Value) → Bool
  | [] => true
  | (_, value) :: later => fits value && fitEntries later

end

end Value

end Multimeter.Toml
