/-!
# Reading text

A reader takes something off the front of a text or refuses it. This module holds the readers that
every part of a TOML document needs: single characters, runs of characters, blank space with
comments, and lists in brackets. Line ends are single line feeds.
-/

namespace Multimeter.Toml

/-- A reader of something at the front of a text. -/
abbrev Reader (α : Type) := StateT (List Char) Option α

/-- The next character, if there is one. -/
def peek? : Reader (Option Char) := do return (← get).head?

/-- Read one character, which must be `c`. -/
def char (c : Char) : Reader Unit := do
  match ← get with
  | next :: rest => if next = c then set rest else failure
  | [] => failure

/-- Read one character if it satisfies `p`. -/
def charIf? (p : Char → Bool) : Reader (Option Char) := do
  match ← get with
  | next :: rest =>
    if p next then
      set rest
      return some next
    else return none
  | [] => return none

/-- Read one character if it is `c`; whether it was there. -/
def char? (c : Char) : Reader Bool := do return (← charIf? (· == c)).isSome

/-- Read characters as long as they satisfy `p`. -/
def takeWhile (p : Char → Bool) : Reader (List Char) := do
  let text ← get
  set (text.dropWhile p)
  return text.takeWhile p

/-- Read a whole text. -/
def Reader.whole? {α : Type} (reader : Reader α) (text : List Char) : Option α :=
  match reader.run text with
  | some (value, []) => some value
  | _ => none

/-! ## Blank space -/

/-- A character that separates tokens within a line. -/
def isBlank (c : Char) : Bool := c == ' ' || c == '\t'

/-- A character that may stand in a comment or in quotes: no control character but the tab. -/
def isPlain (c : Char) : Bool := c == '\t' || (' ' ≤ c && c != '\x7f')

/-- Skip blanks. -/
def blanks : Reader Unit := do
  let _ ← takeWhile isBlank

/-- Skip a comment, if there is one. -/
def comment : Reader Unit := do
  if ← char? '#' then
    let text ← takeWhile (· != '\n')
    guard (text.all isPlain)

/-- Skip what may follow a statement on its line. -/
def lineEnd : Reader Unit := do
  blanks
  comment
  if (← peek?).isSome then char '\n'

/-- Drop blanks, line ends and comments from the front of a text. -/
def dropGap : (inComment : Bool) → List Char → Option (List Char)
  | _, [] => some []
  | inComment, c :: rest =>
    if c = '\n' then dropGap false rest
    else if inComment then if isPlain c then dropGap true rest else none
    else if isBlank c then dropGap false rest
    else if c = '#' then dropGap true rest
    else some (c :: rest)

/-- Skip blanks, line ends and comments. -/
def gap : Reader Unit := do
  match dropGap false (← get) with
  | some rest => set rest
  | none => failure

/-! ## Lists -/

/-- Read items separated by commas up to the closing character. A comma may follow the last item. -/
def items {α : Type} (item : Reader α) (close : Char) (text : List Char) :
    Option (List α × List Char) := do
  let (_, start) ← gap.run text
  let (done, rest) ← (char? close).run start
  if done then return ([], rest)
  let (first, rest) ← item.run start
  let (_, rest) ← gap.run rest
  let (more, rest) ← (char? ',').run rest
  if more then
    -- a comma has been read, so the rest is shorter
    if _shorter : rest.length < text.length then
      let (later, rest) ← items item close rest
      return (first :: later, rest)
    else none
  else
    let (_, rest) ← (char close).run rest
    return ([first], rest)
termination_by text.length

end Multimeter.Toml
