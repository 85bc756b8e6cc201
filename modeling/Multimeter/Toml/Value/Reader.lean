import Multimeter.Toml.Table
/-!
# Reading keys and values

Keys are bare or quoted, and a dotted key is a path. Values may span lines within brackets and
braces. Paths and nesting are limited in depth.
-/

namespace Multimeter.Toml

/-- The most keys in a path, and the most brackets and braces around a value. -/
def maxDepth : Nat := 80

/-- A character of a bare key. -/
def isBareKey (c : Char) : Bool := c.isAlphanum || c == '-' || c == '_'

/-- Read one key. -/
def key : Reader String := do
  match ← takeWhile isBareKey with
  | [] => quotedLine
  | bare => return String.ofList bare

/-- Read a path of keys with dots between them. -/
def dottedKey : (limit : Nat) → Reader (List String)
  | 0 => failure
  | limit + 1 => do
    let first ← key
    blanks
    if ← char? '.' then
      blanks
      return first :: (← dottedKey limit)
    else return [first]

/-- Read a path of keys, as the keys before the last one and the last one. -/
def path : Reader (List String × String) := do
  let keys ← dottedKey maxDepth
  match keys.getLast? with
  | some last => return (keys.dropLast, last)
  | none => failure

/-- The value that an unquoted text spells. -/
def unquoted? (text : List Char) : Option Value :=
  if text = ['t', 'r', 'u', 'e'] then some (.boolean true)
  else if text = ['f', 'a', 'l', 's', 'e'] then some (.boolean false)
  else
    (Numeral.ofChars? text).map .integer <|> (Decimal.ofChars? text).map .decimal
      <|> (moment? text).map .moment

/-- A character that ends an unquoted value. -/
def endsUnquoted (c : Char) : Bool := c ∈ ['\n', '#', ',', '=', '[', ']', '{', '}']

/-- No word of the text begins with a quote; `behindBlank` says whether the text stands behind a
blank. -/
def startsNoQuote : (behindBlank : Bool) → List Char → Bool
  | _, [] => true
  | behindBlank, c :: rest =>
    !(behindBlank && (c == '"' || c == '\'')) && startsNoQuote (isBlank c) rest

/-- Read an unquoted value. All the words up to its end belong to it, with the blanks between them,
such as a day and a time of day. -/
def unquoted : Reader Value := do
  let text ← takeWhile (!endsUnquoted ·)
  guard (startsNoQuote false text)
  unquoted? (text.reverse.dropWhile isBlank).reverse

/-- Read a value that is no list and no table. -/
def scalar : Reader Value := do
  match ← peek? with
  | some '"' | some '\'' => return .text (← quoted)
  | _ => unquoted

/-- Read a key and a value within braces, where lines may end around the equals sign. -/
def bracedPair (value : Reader Value) : Reader ((List String × String) × Value) := do
  let path ← path
  gap
  char '='
  gap
  return (path, ← value)

/-- The table that pairs in braces make. -/
def braced (pairs : List ((List String × String) × Value)) : Option Value := do
  let entries ← pairs.foldlM
    (fun entries ((path, key), value) => Entries.insert path key value .braces entries) []
  return .table .braces entries

/-- Read a value with at most `depth` brackets and braces around its parts. -/
def value : (depth : Nat) → Reader Value
  | 0 => scalar
  | depth + 1 => do
    match ← peek? with
    | some '[' =>
      char '['
      return .array (← items (value depth) ']')
    | some '{' =>
      char '{'
      braced (← items (bracedPair (value depth)) '}')
    | _ => scalar

end Multimeter.Toml
