import Mathlib.Data.List.DropRight
import Multimeter.Proofs.Codec.Reencoding
/-!
# Vendor and model

A meter gives its vendor and its model in one text. The model is what stands behind the last space,
and the vendor is what stands before it, without the white space at its end. Nothing else is lost.
Two notions of a blank meet here: a space is the character itself, and white space has the Unicode
property, so a text without spaces at its ends may still begin with white space, and a vendor may be
empty.

* `Text.splitLast?_append_space`, `Text.exists_eq_append_space`: a text is cut at its last space.
* `Text.trimEnd_append_blanks_of_isTrimmed`: only the white space at the end is trimmed.
* `Information.vendorAndModel_eq_iff_splits`: there is one way to take a name with a space apart.
* `Information.vendorAndModel_of_decode`: vendor and model of an identification that was read.
-/

namespace Multimeter

/-! ## Cutting and trimming a text -/

namespace Text

variable {text front back blanks : List Char}

/-- A text is not split just when it has no space. -/
theorem splitLast?_eq_none_iff : splitLast? text = none ↔ ' ' ∉ text := by
  simp [splitLast?]

/-- A text is cut at a space behind which there is no other one. -/
theorem splitLast?_append_space (hback : ' ' ∉ back) :
    splitLast? (front ++ ' ' :: back) = some (front, back) := by
  have hkept : ∀ c ∈ back.reverse, (c != ' ') = true := by
    intro c hc
    rw [bne_iff_ne]
    rintro rfl
    exact hback (List.mem_reverse.1 hc)
  have hreverse : (front ++ ' ' :: back).reverse = back.reverse ++ ' ' :: front.reverse := by simp
  rw [splitLast?, if_pos (by simp), hreverse, List.dropWhile_append_of_pos hkept,
    List.takeWhile_append_of_pos hkept]
  simp

/-- A text with a space has a last one. -/
theorem exists_eq_append_space (h : ' ' ∈ text) :
    ∃ front back, text = front ++ ' ' :: back ∧ ' ' ∉ back := by
  -- the last space is the first one from behind
  obtain ⟨behind, before, hreverse, hbehind⟩ := List.eq_append_cons_of_mem (List.mem_reverse.2 h)
  refine ⟨before.reverse, behind.reverse, ?_, ?_⟩
  · apply List.reverse_injective
    simp [hreverse]
  · simpa using hbehind

/-- The text does not end in white space. -/
def IsTrimmed (text : List Char) : Prop := ∀ c, text.getLast? = some c → isBlank c = false

/-- What is trimmed does not end in white space any more. -/
theorem isTrimmed_trimEnd (text : List Char) : IsTrimmed (trimEnd text) := by
  intro c hc
  rw [trimEnd, List.getLast?_reverse] at hc
  have hhead := List.head?_dropWhile_not isBlank text.reverse
  rw [hc] at hhead
  exact hhead

/-- White space behind a trimmed text is all that is left out. -/
theorem trimEnd_append_blanks_of_isTrimmed (hfront : IsTrimmed front)
    (hblanks : ∀ c ∈ blanks, isBlank c = true) : trimEnd (front ++ blanks) = front := by
  have hreverse : ∀ c ∈ blanks.reverse, isBlank c = true := fun c hc =>
    hblanks c (List.mem_reverse.1 hc)
  rw [trimEnd, List.reverse_append, List.dropWhile_append_of_pos hreverse, List.reverse_eq_iff]
  -- behind the white space, seen from the end, the last character of the front stops the trimming
  cases hlast : front.reverse with
  | nil => rfl
  | cons c rest =>
    have hc : front.getLast? = some c := by
      rw [List.getLast?_eq_head?_reverse, hlast, List.head?_cons]
    rw [List.dropWhile_cons_of_neg (by simp [hfront c hc])]

end Text

/-! ## The parts of a name -/

/-- The name is the vendor, white space, a space and the model. -/
structure Splits (name vendor model : String) : Prop where
  /-- The space before the model is the last one. -/
  space_notMem : ' ' ∉ model.toList
  /-- The vendor does not end in white space. -/
  trimmed : Text.IsTrimmed vendor.toList
  /-- What stands between the two is white space, and a space at the end of it. -/
  joined : ∃ blanks : String, (∀ c ∈ blanks.toList, Text.isBlank c = true) ∧
    name = vendor ++ blanks ++ " " ++ model

/-- A name that does not end in a space has a model behind its last one. -/
theorem Splits.model_ne_empty {name vendor model : String} (h : Splits name vendor model)
    (hlast : name.toList.getLast? ≠ some ' ') : model ≠ "" := by
  obtain ⟨blanks, -, rfl⟩ := h.joined
  rintro rfl
  simp at hlast

namespace Information

variable {information : Information} {bytes : List UInt8} {vendor model : String}
  {front back : List Char}

/-- A name without a space is a model of the default vendor. -/
theorem vendorAndModel_of_space_notMem (h : ' ' ∉ information.name.toList) :
    information.vendorAndModel = (defaultVendor, information.name) := by
  rw [vendorAndModel, Text.splitLast?_eq_none_iff.2 h]

/-- Behind the last space of a name stands the model, before it the vendor. -/
theorem vendorAndModel_of_eq_append_space (hname : information.name.toList = front ++ ' ' :: back)
    (hback : ' ' ∉ back) :
    information.vendorAndModel = (String.ofList (Text.trimEnd front), String.ofList back) := by
  rw [vendorAndModel, hname, Text.splitLast?_append_space hback]

/-- The vendor and the model that are read split the name at its last space. -/
theorem splits_of_vendorAndModel (hspace : ' ' ∈ information.name.toList)
    (h : information.vendorAndModel = (vendor, model)) : Splits information.name vendor model := by
  obtain ⟨front, back, hname, hback⟩ := Text.exists_eq_append_space hspace
  rw [vendorAndModel_of_eq_append_space hname hback] at h
  obtain ⟨rfl, rfl⟩ := Prod.mk.inj h
  obtain ⟨blanks, hfront, hblanks⟩ := Text.trimEnd_append_blanks front
  refine ⟨?_, ?_, String.ofList blanks, ?_, ?_⟩
  · simpa using hback
  · simpa using Text.isTrimmed_trimEnd front
  · simpa using hblanks
  · apply String.toList_inj.1
    calc information.name.toList
        = Text.trimEnd front ++ blanks ++ ' ' :: back := by rw [← hfront, hname]
      _ = _ := by simp

/-- No other split of the name at its last space is read. -/
theorem vendorAndModel_of_splits (h : Splits information.name vendor model) :
    information.vendorAndModel = (vendor, model) := by
  obtain ⟨blanks, hblanks, hname⟩ := h.joined
  have hsplit : information.name.toList =
      (vendor.toList ++ blanks.toList) ++ ' ' :: model.toList := by simp [hname]
  rw [vendorAndModel_of_eq_append_space hsplit h.space_notMem,
    Text.trimEnd_append_blanks_of_isTrimmed h.trimmed hblanks, String.ofList_toList,
    String.ofList_toList]

/-- A name with a space falls into a vendor and a model in one way. -/
theorem vendorAndModel_eq_iff_splits (hspace : ' ' ∈ information.name.toList) :
    information.vendorAndModel = (vendor, model) ↔ Splits information.name vendor model :=
  ⟨splits_of_vendorAndModel hspace, vendorAndModel_of_splits⟩

/-! ## Names that were read -/

/-- An identification is read from no other number of bytes. -/
theorem length_of_decode (h : decode bytes = .ok information) : bytes.length = size := by
  obtain ⟨-, -, _, _, _, _, hnumbers, -, -⟩ := fields_of_decode h
  have hlength := congrArg List.length hnumbers
  rw [List.length_drop] at hlength
  simp only [List.length_cons, List.length_nil] at hlength
  rw [size]
  omega

/-- An identification that is read has the text of its name field for a name, without the spaces at
both ends. A name with a space falls into a vendor and a model that is not empty, with nothing but
white space lost between them, and there is no other way to take it apart. A name without a space is
a model of the default vendor. -/
theorem vendorAndModel_of_decode (h : decode bytes = .ok information) :
    bytes.length = size ∧
    Text.utf8 information.name = Text.kept (bytes.take nameWidth) ∧
    (Text.utf8 information.name).length ≤ nameWidth ∧
    Text.IsPlain information.name ∧
    (' ' ∈ information.name.toList → information.modelName ≠ "" ∧
      ∀ vendor model, information.vendorAndModel = (vendor, model) ↔
        Splits information.name vendor model) ∧
    (' ' ∉ information.name.toList →
      information.vendorAndModel = ("APPA", information.name)) := by
  obtain ⟨hname, -⟩ := fields_of_decode h
  have hplain := Text.isPlain_of_ofField? hname
  refine ⟨length_of_decode h, Text.utf8_of_ofField? hname, ?_, hplain, ?_,
    vendorAndModel_of_space_notMem⟩
  · exact (Text.length_utf8_le_of_ofField? hname).trans (List.length_take_le _ _)
  · intro hspace
    have hsplits : Splits information.name information.vendor information.modelName :=
      splits_of_vendorAndModel hspace rfl
    exact ⟨hsplits.model_ne_empty hplain.last, fun _ _ => vendorAndModel_eq_iff_splits hspace⟩

/-- The name field has spaces at both ends of its text, white space of other kinds within,
characters of two and three bytes, and a byte behind the first zero byte that belongs to no text. -/
theorem vendorAndModel_of_decode_spaced :
    let bytes := Text.utf8 "  BENNING\u00a0 MM \u2003  12\u20ac " ++
      [0x00, 0xff, 0x20, 0x41, 0x00, 0x00] ++ List.replicate serialWidth 0x20 ++
      [0x06, 0x00, 0xc9, 0x00]
    ∃ information, decode bytes = .ok information ∧
      information.name = "BENNING\u00a0 MM \u2003  12\u20ac" ∧
      ' ' ∈ information.name.toList ∧
      information.vendorAndModel = ("BENNING\u00a0 MM", "12\u20ac") ∧
      Splits information.name "BENNING\u00a0 MM" "12\u20ac" := by
  intro bytes
  let information : Information :=
    ⟨"BENNING\u00a0 MM \u2003  12\u20ac", "", .ofRaw 6, 201, by decide +kernel, by decide +kernel⟩
  have hdecode : decode bytes = .ok information := by decide +kernel
  have hspace : ' ' ∈ information.name.toList := by decide +kernel
  have hparts : information.vendorAndModel = ("BENNING\u00a0 MM", "12\u20ac") := by
    decide +kernel
  obtain ⟨-, -, -, -, hsplits, -⟩ := vendorAndModel_of_decode hdecode
  exact ⟨information, hdecode, rfl, hspace, hparts, ((hsplits hspace).2 _ _).1 hparts⟩

end Information

end Multimeter
