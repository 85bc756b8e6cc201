import Mathlib.Data.List.TakeWhile
import Multimeter.Proofs.Codec.Padded
/-!
# Fields read and written back

A field may be filled up with zeros or spaces and may have anything behind a zero byte. It is
written with spaces behind its text. So writing what was read does not give the field back: only the
part that spells the text stays, and it moves to the front.

* `ofField?_eq_none_iff`: a field is refused exactly if no text is spelled before its first zero
  byte.
* `utf8_of_ofField?`: the part of a field that spells the text that is read.
* `isPlain_of_ofField?`: a text that was read is carried unchanged.
* `toField_of_ofField?`: the field that it is written to.
-/

namespace Multimeter.Text

/-- The bytes spell a text in UTF-8. -/
def IsUtf8 (bytes : List UInt8) : Prop := ∃ text, utf8 text = bytes

/-- The part of a field that spells its text: the bytes before the first zero byte, without the
spaces at both ends. -/
def kept (field : List UInt8) : List UInt8 :=
  ((field.takeWhile (· != 0)).dropWhile (· == 0x20)).rdropWhile (· == 0x20)

/-- A field of `width` bytes with the part kept of another one, filled up with spaces. -/
def refilled (width : Nat) (field : List UInt8) : List UInt8 :=
  kept field ++ List.replicate (width - (kept field).length) 0x20

variable {bytes field : List UInt8} {text : String} {chars : List Char}

/-! ## Bytes that spell a text -/

/-- Bytes are read as a text just when they are its encoding. -/
theorem ofUtf8?_eq_some_iff : ofUtf8? bytes = some text ↔ utf8 text = bytes := by
  constructor
  · intro h
    unfold ofUtf8? String.fromUTF8? at h
    split at h
    · obtain rfl := Option.some.inj h
      rfl
    · cases h
  · rintro rfl
    exact ofUtf8?_utf8 text

/-- Bytes are refused just when they encode no text. -/
theorem ofUtf8?_eq_none_iff : ofUtf8? bytes = none ↔ ¬ IsUtf8 bytes := by
  rw [Option.eq_none_iff_forall_ne_some]
  exact ⟨fun h ⟨text, htext⟩ => h text (ofUtf8?_eq_some_iff.2 htext),
    fun h text htext => h ⟨text, ofUtf8?_eq_some_iff.1 htext⟩⟩

/-- A field is refused exactly if the bytes before its first zero byte spell no text. -/
theorem ofField?_eq_none_iff :
    ofField? field = none ↔ ¬ IsUtf8 (field.takeWhile (· != 0)) := by
  rw [ofField?, Option.map_eq_none_iff, ofUtf8?_eq_none_iff]

/-- A field that is read has bytes before its first zero byte that spell a text, of which the spaces
at both ends are left out. -/
theorem exists_of_ofField? (h : ofField? field = some text) :
    ∃ chars, utf8 (String.ofList chars) = field.takeWhile (· != 0) ∧
      text = String.ofList (trimSpaces chars) := by
  obtain ⟨spelled, hspelled, rfl⟩ := Option.map_eq_some_iff.1 h
  refine ⟨spelled.toList, ?_, rfl⟩
  rw [String.ofList_toList, ofUtf8?_eq_some_iff.1 hspelled]

/-! ## Trimming bytes -/

/-- If a space is spelled by its own byte, and no other character has this byte, then leaving out
the spaces in front is the same for characters and for the bytes that spell them. -/
theorem dropWhile_flatMap (spell : Char → List UInt8) (hspace : spell ' ' = [0x20])
    (hother : ∀ c, c ≠ ' ' → spell c ≠ [] ∧ ∀ byte ∈ spell c, byte ≠ 0x20) (chars : List Char) :
    (chars.flatMap spell).dropWhile (· == 0x20) =
      (chars.dropWhile (· == ' ')).flatMap spell := by
  induction chars with
  | nil => rfl
  | cons c chars ih =>
    rw [List.flatMap_cons]
    by_cases hc : c = ' '
    · rw [hc, hspace]
      simpa using ih
    · obtain ⟨hnonempty, hbytes⟩ := hother c hc
      obtain ⟨byte, rest, hcons⟩ := List.exists_cons_of_ne_nil hnonempty
      have hbyte : byte ≠ 0x20 := hbytes byte (hcons ▸ List.mem_cons_self)
      rw [hcons]
      simp [hc, hbyte, hcons]

/-- The encoding of any other character has no byte of a space in it. -/
theorem ne_space_of_mem_utf8EncodeChar {c : Char} (hc : c ≠ ' ') {byte : UInt8}
    (h : byte ∈ String.utf8EncodeChar c) : byte ≠ 0x20 := fun hspace =>
  toNat_ne_of_mem_utf8EncodeChar (by decide) (fun heq => hc (Char.toNat_inj.1 heq)) h
    (congrArg UInt8.toNat hspace)

/-- Trimming the bytes of a text trims the text. -/
theorem trim_utf8 (chars : List Char) :
    ((utf8 (String.ofList chars)).dropWhile (· == 0x20)).rdropWhile (· == 0x20) =
      utf8 (String.ofList (trimSpaces chars)) := by
  have hfront := dropWhile_flatMap String.utf8EncodeChar rfl
    fun _ hc => ⟨String.utf8EncodeChar_ne_nil, fun _ => ne_space_of_mem_utf8EncodeChar hc⟩
  -- seen from behind, the bytes of each character come in the other order
  have hback := dropWhile_flatMap (List.reverse ∘ String.utf8EncodeChar) rfl
    fun _ hc => ⟨fun hnil => String.utf8EncodeChar_ne_nil (List.reverse_eq_nil_iff.1 hnil),
      fun _ hmem => ne_space_of_mem_utf8EncodeChar hc (List.mem_reverse.1 hmem)⟩
  have hunreverse : List.reverse ∘ List.reverse ∘ String.utf8EncodeChar = String.utf8EncodeChar :=
    funext fun c => List.reverse_reverse _
  rw [utf8_ofList, utf8_ofList, hfront, List.rdropWhile, List.reverse_flatMap, hback,
    List.reverse_flatMap, hunreverse, trimSpaces]

/-- A text that is read is spelled by the part that is kept of its field. -/
theorem utf8_of_ofField? (h : ofField? field = some text) : utf8 text = kept field := by
  obtain ⟨chars, hchars, rfl⟩ := exists_of_ofField? h
  rw [kept, ← hchars, trim_utf8]

/-! ## Texts that were read -/

/-- Characters without a zero are a plain text once the spaces around them are gone. -/
theorem isPlain_trimSpaces (h : '\x00' ∉ chars) : IsPlain (String.ofList (trimSpaces chars)) := by
  have hfront : (chars.dropWhile (· == ' ')).head? ≠ some ' ' :=
    dropWhile_space_eq_self_iff.1 (List.dropWhile_idempotent _ _)
  have hback : (trimSpaces chars).rdropWhile (· == ' ') = trimSpaces chars :=
    List.rdropWhile_idempotent _ _
  refine ⟨?_, ?_, ?_⟩ <;> rw [String.toList_ofList]
  · exact fun hmem => h ((trimSpaces_sublist chars).mem hmem)
  -- what is left out behind leaves the front as it is, or nothing
  · intro hhead
    obtain ⟨left, hleft⟩ := List.rdropWhile_prefix (· == ' ') (chars.dropWhile (· == ' '))
    rw [← trimSpaces_eq_rdropWhile] at hleft
    rw [← hleft, List.head?_append, hhead] at hfront
    exact hfront rfl
  · exact rdropWhile_space_eq_self_iff.1 hback

/-- A text that was read is plain, so a field carries it unchanged. -/
theorem isPlain_of_ofField? (h : ofField? field = some text) : IsPlain text := by
  obtain ⟨chars, hchars, rfl⟩ := exists_of_ofField? h
  refine isPlain_trimSpaces fun hmem => ?_
  -- a zero character would be spelled by a zero byte
  have hzero : (0 : UInt8) ∈ utf8 (String.ofList chars) := by
    rw [utf8_ofList]
    exact List.mem_flatMap.2 ⟨'\x00', hmem, List.mem_singleton.2 rfl⟩
  rw [hchars] at hzero
  have hother := @List.mem_takeWhile_imp _ (· != 0) _ _ hzero
  exact bne_iff_ne.1 hother rfl

/-- A field keeps no more bytes than it has. -/
theorem length_kept_le (field : List UInt8) : (kept field).length ≤ field.length :=
  ((List.rdropWhile_prefix _ _).sublist.trans
    ((List.dropWhile_sublist _).trans (List.takeWhile_sublist _))).length_le

/-- A text that was read from a field fits into it again. -/
theorem length_utf8_le_of_ofField? (h : ofField? field = some text) :
    (utf8 text).length ≤ field.length := by
  rw [utf8_of_ofField? h]
  exact length_kept_le field

/-- A text that is read from a field is written as the part that is kept of it. -/
theorem toField_of_ofField? {width : Nat} (hwidth : field.length ≤ width)
    (h : ofField? field = some text) : toField width text = refilled width field := by
  have hkept := (length_kept_le field).trans hwidth
  rw [toField, utf8_of_ofField? h, refilled, List.take_append, List.take_of_length_le hkept,
    List.take_replicate, Nat.min_eq_left (Nat.sub_le _ _)]

end Multimeter.Text
