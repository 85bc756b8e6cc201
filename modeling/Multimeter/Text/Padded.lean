/-!
# Padded text fields

A text field of a record has a fixed width in bytes. The text stands in it as UTF-8, filled up with
spaces. Reading stops at the first zero byte, refuses bytes that are not UTF-8, and drops the spaces
at both ends.
-/

namespace Multimeter.Text

/-- Drop the spaces at both ends. -/
def trimSpaces (text : List Char) : List Char :=
  ((text.dropWhile (· == ' ')).reverse.dropWhile (· == ' ')).reverse

/-- The bytes of a text in UTF-8. -/
def utf8 (text : String) : List UInt8 := text.toUTF8.data.toList

/-- The text that a byte string spells in UTF-8, if it is well formed. -/
def ofUtf8? (bytes : List UInt8) : Option String := String.fromUTF8? ⟨bytes.toArray⟩

/-- Read a text field. -/
def ofField? (field : List UInt8) : Option String :=
  (ofUtf8? (field.takeWhile (· != 0))).map fun text => String.ofList (trimSpaces text.toList)

/-- Write a text field of `width` bytes. -/
def toField (width : Nat) (text : String) : List UInt8 :=
  (utf8 text ++ List.replicate width 0x20).take width

/-- A field has its width. -/
@[simp]
theorem length_toField (width : Nat) (text : String) : (toField width text).length = width := by
  simp [toField]

/-- Split a text at its last space. -/
def splitLast? (text : List Char) : Option (List Char × List Char) :=
  if ' ' ∈ text then
    some ((text.reverse.dropWhile (· != ' ')).tail.reverse,
      (text.reverse.takeWhile (· != ' ')).reverse)
  else none

end Multimeter.Text
