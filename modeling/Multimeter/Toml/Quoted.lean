import Multimeter.Toml.Reader
/-!
# Quoted texts

A text in double quotes may hold escapes, one in single quotes stands for itself. Three quotes open
a text of several lines: a line end directly behind them is dropped, up to two quotes may stand
directly before the three that close it, and in double quotes a backslash at the end of a line joins
it with the next line that is not blank.
-/

namespace Multimeter.Toml

/-- The value of a digit; letters of either case count from ten on. -/
def digit? (base : Nat) (c : Char) : Option Nat :=
  let value :=
    if '0' ≤ c && c ≤ '9' then c.toNat - '0'.toNat
    else if 'a' ≤ c && c ≤ 'z' then c.toNat - 'a'.toNat + 10
    else if 'A' ≤ c && c ≤ 'Z' then c.toNat - 'A'.toNat + 10
    else base
  if value < base then some value else none

/-- The number that digits spell. -/
def ofDigits (base : Nat) (digits : List Nat) : Nat :=
  digits.foldl (fun value digit => value * base + digit) 0

/-- The character whose code point the first `count` characters spell in hexadecimal. -/
def codePoint? (count : Nat) (text : List Char) : Option Char := do
  let digits ← (text.take count).mapM (digit? 16)
  let code := ofDigits 16 digits
  if digits.length = count ∧ code.isValidChar then some (Char.ofNat code) else none

/-- What the escape at the front of a text stands for, and how many characters spell it. -/
def escape? : List Char → Option (Char × Nat)
  | [] => none
  | c :: rest =>
    match c with
    | 'b' => some ('\x08', 1)
    | 't' => some ('\t', 1)
    | 'n' => some ('\n', 1)
    | 'f' => some ('\x0c', 1)
    | 'r' => some ('\r', 1)
    | 'e' => some ('\x1b', 1)
    | '"' => some ('"', 1)
    | '\\' => some ('\\', 1)
    | 'x' => (codePoint? 2 rest).map (·, 3)
    | 'u' => (codePoint? 4 rest).map (·, 5)
    | 'U' => (codePoint? 8 rest).map (·, 9)
    | _ => none

/-- Replace the escapes, and join lines at a backslash. -/
def unescape (text : List Char) : Option (List Char) :=
  match text with
  | [] => some []
  | c :: rest =>
    if c = '\\' then
      -- a backslash at the end of a line takes the white space of the next lines with it
      if (rest.dropWhile isBlank).head? = some '\n' then
        unescape (rest.dropWhile fun c => isBlank c || c == '\n')
      else
        match escape? rest with
        | some (meaning, length) => (unescape (rest.drop length)).map (meaning :: ·)
        | none => none
    else (unescape rest).map (c :: ·)
termination_by text.length
decreasing_by
  · exact Nat.lt_succ_of_le (List.dropWhile_suffix _).length_le
  · exact Nat.lt_succ_of_le (by simp)
  · exact Nat.lt_succ_self _

/-- How a text is quoted. -/
structure Quoting where
  /-- The quote. -/
  quote : Char
  /-- The text may have several lines, and stands between three quotes. -/
  multiline : Bool
  deriving DecidableEq, Repr

namespace Quoting

/-- The text may hold escapes. -/
def escapes (quoting : Quoting) : Bool := quoting.quote == '"'

/-- The number of quotes at each end. -/
def width (quoting : Quoting) : Nat := if quoting.multiline then 3 else 1

/-- The quotes at each end. -/
def quotes (quoting : Quoting) : List Char := List.replicate quoting.width quoting.quote

/-- Split a text at the closing quotes. A backslash hides the character behind it. -/
def split (quoting : Quoting) : List Char → Option (List Char × List Char)
  | [] => none
  | c :: rest =>
    if quoting.escapes && c = '\\' then
      match rest with
      | [] => none
      | hidden :: rest => (split quoting rest).map fun (text, rest) => (c :: hidden :: text, rest)
    else if quoting.quotes.isPrefixOf (c :: rest) then
      let rest := (c :: rest).drop quoting.width
      -- quotes directly before the closing ones belong to the text
      let inner := if quoting.multiline then (rest.take 2).takeWhile (· == quoting.quote) else []
      some (inner, rest.drop inner.length)
    else (split quoting rest).map fun (text, rest) => (c :: text, rest)

/-- The character may stand between the quotes. -/
def allows (quoting : Quoting) (c : Char) : Bool := isPlain c || (quoting.multiline && c == '\n')

/-- Read what follows the opening quotes. -/
def read (quoting : Quoting) : Reader String := fun rest => do
  let (content, rest) ← quoting.split rest
  guard (content.all quoting.allows)
  let content := if content.head? = some '\n' then content.tail else content
  let text ← if quoting.escapes then unescape content else some content
  return (String.ofList text, rest)

end Quoting

/-- Read a quoted text of one line. -/
def quotedLine : Reader String := do
  match ← peek? with
  | some quote =>
    guard (quote = '"' ∨ quote = '\'')
    char quote
    Quoting.read { quote, multiline := false }
  | none => failure

/-- Read a quoted text. -/
def quoted : Reader String := do
  match ← get with
  | a :: b :: c :: rest =>
    if (a = '"' ∨ a = '\'') ∧ b = a ∧ c = a then
      set rest
      Quoting.read { quote := a, multiline := true }
    else quotedLine
  | _ => quotedLine

end Multimeter.Toml
