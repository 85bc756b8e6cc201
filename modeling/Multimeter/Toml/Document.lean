import Multimeter.Toml.Value.Reader
/-!
# Documents

A TOML document is a sequence of statements, one a line: a value under a key, the header of a table,
or the header of one more table in a list. Keys belong to the table of the last header before them.
-/

namespace Multimeter.Toml

/-- A statement of a document. -/
inductive Statement where
  /-- A value under a dotted key. -/
  | pair (path : List String) (key : String) (value : Value)
  /-- The header of a table. -/
  | table (path : List String) (key : String)
  /-- The header of one more table in a list. -/
  | element (path : List String) (key : String)
  deriving Repr

/-- Read a statement. -/
def statement : Reader Statement := do
  if ← char? '[' then
    let double ← char? '['
    blanks
    let (path, key) ← path
    blanks
    char ']'
    if double then
      char ']'
      return .element path key
    else return .table path key
  else
    let (path, key) ← path
    blanks
    char '='
    blanks
    return .pair path key (← value maxDepth)

/-- Read statements to the end of a text. -/
def statements (text : List Char) : Option (List Statement) := do
  let (_, start) ← gap.run text
  if start = [] then return []
  let (first, rest) ← statement.run start
  let (_, rest) ← lineEnd.run rest
  -- a statement is never empty, so the rest is shorter
  if _shorter : rest.length < text.length then return first :: (← statements rest)
  else none
termination_by text.length

/-- A document as it is read: its table and the path of the last header. -/
structure Document where
  /-- The values so far. -/
  entries : Entries := []
  /-- The table to which keys belong. -/
  current : List String := []
  deriving Repr

namespace Document

/-- Obey one more statement. -/
def add (document : Document) : Statement → Option Document
  | .pair path key value => do
    let entries ← Entries.change .passed (Entries.insert path key value) document.current .header
      document.entries
    return { document with entries }
  | .table path key => do
    return { entries := ← Entries.openTable path key document.entries, current := path ++ [key] }
  | .element path key => do
    return { entries := ← Entries.openElement path key document.entries, current := path ++ [key] }

end Document

/-- Write every line end as a line feed. A carriage return belongs to a line end only. -/
def unifyLines : List Char → Option (List Char)
  | [] => some []
  | '\r' :: '\n' :: rest => (unifyLines rest).map ('\n' :: ·)
  | c :: rest => if c = '\r' then none else (unifyLines rest).map (c :: ·)

/-- Drop the mark that may open a text. -/
def dropMark : List Char → List Char
  | c :: rest => if c = '\ufeff' then rest else c :: rest
  | [] => []

/-- Read a document. -/
def parse? (text : String) : Option Entries := do
  let statements ← statements (← unifyLines (dropMark text.toList))
  let document ← statements.foldlM Document.add {}
  return document.entries

end Multimeter.Toml
