import Mathlib.Data.List.DropRight
import Mathlib.Data.List.Flatten
import Multimeter.Text.Padded
/-!
# What a padded field carries

A text stands in its field up to the first zero character, and the spaces at its ends are not told
from the filling. So a field carries a text unchanged exactly when it is plain.

* `utf8_eq_flatMap`: the bytes of a text, character by character.
* `takeWhile_utf8`: the bytes before the first zero byte spell the characters before the first zero
  character, so they are always well formed.
* `ofField?_toField`: a text that fits its field is read back as what a field carries of it.
* `carried_eq_iff`: this is the text itself exactly when the text is plain.
-/

namespace Multimeter.Text

/-! ## UTF-8 -/

/-- A text is encoded character by character. -/
theorem utf8_eq_flatMap (text : String) :
    utf8 text = text.toList.flatMap String.utf8EncodeChar := by
  rw [utf8, String.toUTF8_eq_toByteArray, ← String.utf8Encode_toList, List.utf8Encode]
  simp

/-- The encoding of a list of characters is that of each of them. -/
theorem utf8_ofList (chars : List Char) :
    utf8 (String.ofList chars) = chars.flatMap String.utf8EncodeChar := by
  rw [utf8_eq_flatMap, String.toList_ofList]

/-- The bytes of a text are read as the text. -/
@[simp]
theorem ofUtf8?_utf8 (text : String) : ofUtf8? (utf8 text) = some text := by
  have hbytes : (⟨(utf8 text).toArray⟩ : ByteArray) = text.toByteArray := rfl
  rw [ofUtf8?, hbytes, String.fromUTF8?, dif_pos text.isValidUTF8]
  rfl

/-- Each byte of a character is its own number or is marked, so it is the number of no other ASCII
character. -/
theorem toNat_ne_of_mem_utf8EncodeChar {c : Char} {n : Nat} (hn : n < 0x80) (hc : c.toNat ≠ n)
    {byte : UInt8} (h : byte ∈ String.utf8EncodeChar c) : byte.toNat ≠ n := by
  have hc : c.val.toNat ≠ n := hc
  revert h
  fun_cases String.utf8EncodeChar c
  all_goals simp only [List.mem_cons, List.not_mem_nil, or_false]
  case case1 =>
    rintro rfl
    rw [UInt8.toNat_ofNat']
    omega
  case case2 => rintro (rfl | rfl) <;> (rw [UInt8.toNat_ofNat']; omega)
  case case3 => rintro (rfl | rfl | rfl) <;> (rw [UInt8.toNat_ofNat']; omega)
  case case4 => rintro (rfl | rfl | rfl | rfl) <;> (rw [UInt8.toNat_ofNat']; omega)

/-- A character other than zero has no zero byte. -/
theorem ne_zero_of_mem_utf8EncodeChar {c : Char} (hc : c ≠ '\x00') {byte : UInt8}
    (h : byte ∈ String.utf8EncodeChar c) : byte ≠ 0 := fun hzero =>
  toNat_ne_of_mem_utf8EncodeChar (by decide) (fun heq => hc (Char.toNat_inj.1 heq)) h
    (congrArg UInt8.toNat hzero)

/-- The bytes before the first zero byte spell the characters before the first zero character. -/
theorem takeWhile_utf8 (chars : List Char) :
    (utf8 (String.ofList chars)).takeWhile (· != 0) =
      utf8 (String.ofList (chars.takeWhile (· != '\x00'))) := by
  rw [utf8_ofList, utf8_ofList]
  induction chars with
  | nil => rfl
  | cons c chars ih =>
    rw [List.flatMap_cons]
    by_cases hc : c = '\x00'
    · rw [hc]
      rfl
    · have hbytes : ∀ byte ∈ String.utf8EncodeChar c, (byte != 0) = true := fun byte hbyte =>
        bne_iff_ne.2 (ne_zero_of_mem_utf8EncodeChar hc hbyte)
      have hkept : (c :: chars).takeWhile (· != '\x00') = c :: chars.takeWhile (· != '\x00') :=
        List.takeWhile_cons_of_pos (bne_iff_ne.2 hc)
      rw [List.takeWhile_append_of_pos hbytes, ih, hkept, List.flatMap_cons]

/-! ## Trimming -/

/-- Spaces are trimmed at the front, and then from behind. -/
theorem trimSpaces_eq_rdropWhile (chars : List Char) :
    trimSpaces chars = (chars.dropWhile (· == ' ')).rdropWhile (· == ' ') := rfl

/-- Trimming only drops characters. -/
theorem trimSpaces_sublist (chars : List Char) : (trimSpaces chars).Sublist chars :=
  (List.rdropWhile_prefix _ _).sublist.trans (List.dropWhile_sublist _)

/-- Filling up with spaces and trimming is trimming. -/
theorem trimSpaces_append_spaces (chars : List Char) (count : Nat) :
    trimSpaces (chars ++ List.replicate count ' ') = trimSpaces chars := by
  have hspaces : ∀ c ∈ List.replicate count ' ', (c == ' ') = true := fun c hc =>
    beq_iff_eq.2 (List.eq_of_mem_replicate hc)
  rw [trimSpaces_eq_rdropWhile, trimSpaces_eq_rdropWhile, List.dropWhile_append]
  split
  -- nothing but spaces
  · rename_i hempty
    rw [List.isEmpty_iff.1 hempty, List.dropWhile_eq_nil_iff.2 hspaces]
  · rw [List.rdropWhile, List.reverse_append, List.reverse_replicate,
      List.dropWhile_append_of_pos hspaces, List.rdropWhile]

/-- Nothing is trimmed at the front just when the first character is no space. -/
theorem dropWhile_space_eq_self_iff {chars : List Char} :
    chars.dropWhile (· == ' ') = chars ↔ chars.head? ≠ some ' ' := by
  cases chars with
  | nil => simp
  | cons c chars => simp [List.dropWhile_eq_self_iff]

/-- Nothing is trimmed from behind just when the last character is no space. -/
theorem rdropWhile_space_eq_self_iff {chars : List Char} :
    chars.rdropWhile (· == ' ') = chars ↔ chars.getLast? ≠ some ' ' := by
  rw [List.rdropWhile, List.reverse_eq_iff, dropWhile_space_eq_self_iff, List.head?_reverse]

/-! ## Fields -/

/-- What a field carries of a text: the part before the first zero character, without the spaces at
both ends. -/
def carried (text : String) : String :=
  String.ofList (trimSpaces (text.toList.takeWhile (· != '\x00')))

/-- A text without zero characters that neither starts nor ends with a space. -/
structure IsPlain (text : String) : Prop where
  zero_notMem : '\x00' ∉ text.toList
  head : text.toList.head? ≠ some ' '
  last : text.toList.getLast? ≠ some ' '

/-- A field carries exactly the plain texts unchanged. -/
theorem carried_eq_iff {text : String} : carried text = text ↔ IsPlain text := by
  rw [carried, ← String.toList_inj, String.toList_ofList]
  constructor
  · intro h
    -- each step only leaves characters out, so here none of them does
    have hkept : (text.toList.takeWhile (· != '\x00')) = text.toList := by
      refine (List.takeWhile_sublist _).antisymm ?_
      have hsublist := trimSpaces_sublist (text.toList.takeWhile (· != '\x00'))
      rwa [h] at hsublist
    rw [hkept, trimSpaces_eq_rdropWhile] at h
    have hhead : text.toList.dropWhile (· == ' ') = text.toList := by
      refine (List.dropWhile_sublist _).antisymm ?_
      have hprefix := List.rdropWhile_prefix (· == ' ') (text.toList.dropWhile (· == ' '))
      rw [h] at hprefix
      exact hprefix.sublist
    rw [hhead] at h
    refine ⟨fun hmem => ?_, dropWhile_space_eq_self_iff.1 hhead, rdropWhile_space_eq_self_iff.1 h⟩
    exact bne_iff_ne.1 (List.takeWhile_eq_self_iff.1 hkept _ hmem) rfl
  · intro h
    have hkept : (text.toList.takeWhile (· != '\x00')) = text.toList :=
      List.takeWhile_eq_self_iff.2 fun c hc => bne_iff_ne.2 fun hzero => h.zero_notMem (hzero ▸ hc)
    rw [hkept, trimSpaces_eq_rdropWhile, dropWhile_space_eq_self_iff.2 h.head,
      rdropWhile_space_eq_self_iff.2 h.last]

/-- The bytes of a text, taken for a field, carry the text. -/
theorem ofField?_utf8 (text : String) : ofField? (utf8 text) = some (carried text) := by
  have hbytes := takeWhile_utf8 text.toList
  rw [String.ofList_toList] at hbytes
  rw [ofField?, hbytes, ofUtf8?_utf8, Option.map_some, String.toList_ofList, carried]

/-- Each space is encoded in one byte. -/
theorem utf8_spaces (count : Nat) :
    utf8 (String.ofList (List.replicate count ' ')) = List.replicate count 0x20 := by
  rw [utf8_ofList]
  induction count with
  | zero => rfl
  | succ count ih =>
    rw [List.replicate_succ, List.flatMap_cons, ih, List.replicate_succ]
    rfl

/-- A text that fits is filled up with spaces. -/
theorem toField_of_length_le {width : Nat} {text : String} (h : (utf8 text).length ≤ width) :
    toField width text =
      utf8 (String.ofList (text.toList ++ List.replicate (width - (utf8 text).length) ' ')) := by
  have hspaces := utf8_spaces (width - (utf8 text).length)
  rw [utf8_ofList] at hspaces
  rw [utf8_ofList, List.flatMap_append, hspaces, ← utf8_eq_flatMap, toField, List.take_append,
    List.take_of_length_le h, List.take_replicate, Nat.min_eq_left (Nat.sub_le _ _)]

/-- A text that fits its field is read back as what the field carries of it. -/
theorem ofField?_toField {width : Nat} {text : String} (h : (utf8 text).length ≤ width) :
    ofField? (toField width text) = some (carried text) := by
  rw [toField_of_length_le h, ofField?_utf8, carried, carried, String.toList_ofList,
    List.takeWhile_append]
  split
  -- without a zero character the filling is reached, and trimmed
  · rename_i hlength
    rw [(List.takeWhile_prefix _).eq_of_length hlength, List.takeWhile_replicate,
      if_pos (by decide), trimSpaces_append_spaces]
  · rfl

/-- What a field carries of a text is no longer than the text. -/
theorem length_utf8_carried_le (text : String) :
    (utf8 (carried text)).length ≤ (utf8 text).length := by
  rw [carried, utf8_ofList, utf8_eq_flatMap text]
  have hsublist : (trimSpaces (text.toList.takeWhile (· != '\x00'))).Sublist text.toList :=
    (trimSpaces_sublist _).trans (List.takeWhile_sublist _)
  exact (hsublist.flatMap String.utf8EncodeChar).length_le

end Multimeter.Text
