import Multimeter.Proofs.Codec
import Multimeter.Proofs.Codec.Field
import Multimeter.Proofs.Parser.Soundness
/-!
# Messages in received frames

A parser and the reading of messages apply the same table of payload sizes. So what a parser reports
is never refused for its length, and no byte is missing where one is looked at. It is refused only
if its command has no message of that direction, or if it identifies a meter by bytes that spell no
text.

* `Response.reception_of_validFor`, `Request.reception_of_validFor`: what is read from a frame that
  may travel in its direction.
* `Frame.Parser.reception_of_reported`: the same for every frame that a parser reports.
-/

namespace Multimeter

/-! ## Payloads of the right length -/

/-- Twelve bytes are a display answer, whatever they say. -/
theorem Display.isSome_decode? {bytes : List UInt8} (h : bytes.length = size) :
    (decode? bytes).isSome = true := by
  match bytes, h with
  | [_, _, _, _, _, _, _, _, _, _, _, _], _ => rfl

/-- Any four bytes name a stretch of memory. -/
theorem MemoryBlock.exists_decode {bytes : List UInt8} (h : bytes.length = 4) :
    ∃ block, decode bytes = .ok block := by
  match bytes, h with
  | [_, _, _, _], _ => exact ⟨_, rfl⟩

namespace Information

/-- The name or the serial number is no text: the bytes before the first zero byte of its field are
not well formed. -/
def IsIllegible (bytes : List UInt8) : Prop :=
  ¬ Text.IsUtf8 ((bytes.take nameWidth).takeWhile (· != 0)) ∨
    ¬ Text.IsUtf8 (((bytes.drop nameWidth).take serialWidth).takeWhile (· != 0))

variable {bytes : List UInt8}

/-- An identification with a field that is no text is refused as a mismatch. -/
theorem decode_of_isIllegible (h : IsIllegible bytes) : decode bytes = .error .dataMismatch := by
  have hnone : decode? bytes = none := by
    rcases h with hname | hserial
    · rw [decode?, Text.ofField?_eq_none_iff.2 hname]
      rfl
    · rw [decode?, Text.ofField?_eq_none_iff.2 hserial]
      cases Text.ofField? (bytes.take nameWidth) <;> rfl
  rw [decode, hnone]

/-- With two texts, bytes of the right length are an identification. -/
theorem exists_decode (hsize : bytes.length = size) (h : ¬ IsIllegible bytes) :
    ∃ information, decode bytes = .ok information := by
  obtain ⟨hname, hserial⟩ := not_or.1 h
  obtain ⟨name, hname⟩ := Option.ne_none_iff_exists'.1 (mt Text.ofField?_eq_none_iff.1 hname)
  obtain ⟨serial, hserial⟩ := Option.ne_none_iff_exists'.1 (mt Text.ofField?_eq_none_iff.1 hserial)
  -- a text that was read is no longer than its field
  have hfits : (Text.utf8 name).length ≤ nameWidth ∧ (Text.utf8 serial).length ≤ serialWidth :=
    ⟨(Text.length_utf8_le_of_ofField? hname).trans (List.length_take_le _ _),
      (Text.length_utf8_le_of_ofField? hserial).trans (List.length_take_le _ _)⟩
  have hnumbers : (bytes.drop (nameWidth + serialWidth)).length = 4 := by
    rw [List.length_drop, hsize]
    rfl
  match hdrop : bytes.drop (nameWidth + serialWidth), hnumbers with
  | [_, _, _, _], _ =>
    rw [decode, decode?, hname, hserial]
    simp only [Option.bind_eq_bind, Option.bind_some, hdrop, ofParts?, dif_pos hfits]
    exact ⟨_, rfl⟩

end Information

/-! ## Responses -/

namespace Response

/-- A meter answers the command, but there is no response with what it answers. -/
def IsUntyped (command : Command) : Prop := command = .calReading ∨ command = .readHarmonicsData

/-- The frame identifies a meter by bytes that spell no text. -/
def IsIllegible (frame : Frame) : Prop :=
  frame.command = .readInformation ∧ Information.IsIllegible frame.payload.bytes

/-- What comes of reading a response from a frame. -/
structure Reception (frame : Frame) : Prop where
  /-- The length of the payload passes the check. -/
  checked : frame.command.checkSize .response frame.payload.length = .ok ()
  /-- An identification has all its bytes. -/
  information : frame.command = .readInformation → frame.payload.length = Information.size
  /-- A display answer has all its bytes. -/
  display : frame.command = .readDisplay → frame.payload.length = Display.size
  /-- A refusal has its status byte. -/
  failure : frame.command = .failure → ∃ status, frame.payload.bytes = [status] ∧
    ofFrame frame = .ok (.failure status)
  /-- Two commands have no response. -/
  unsupported : ofFrame frame = .error (.unsupported frame.command.byte) ↔ IsUntyped frame.command
  /-- Only an identification can be refused for its payload. -/
  mismatch : ofFrame frame = .error .dataMismatch ↔ IsIllegible frame
  /-- All other frames are responses. -/
  accepted : (∃ response, ofFrame frame = .ok response) ↔
    ¬ IsUntyped frame.command ∧ ¬ IsIllegible frame

variable {frame : Frame}

/-- Any four bytes are taken as they are. -/
theorem exists_fourBytes {bytes : List UInt8} (h : bytes.length = 4) :
    ∃ block, fourBytes bytes = .ok block := ⟨_, dif_pos h⟩

/-- A frame whose command no response has is refused as unsupported. -/
theorem ofFrame_of_isUntyped (hvalid : frame.ValidFor .response)
    (h : IsUntyped frame.command) : ofFrame frame = .error (.unsupported frame.command.byte) := by
  rw [ofFrame, Command.checkSize_of_allows hvalid]
  rcases h with h | h <;> rw [h] <;> rfl

/-- A frame with an identification that is no text is refused as a mismatch. -/
theorem ofFrame_of_isIllegible (hvalid : frame.ValidFor .response) (h : IsIllegible frame) :
    ofFrame frame = .error .dataMismatch := by
  obtain ⟨hcommand, hillegible⟩ := h
  rw [ofFrame, Command.checkSize_of_allows hvalid, hcommand]
  exact congrArg (information <$> ·) (Information.decode_of_isIllegible hillegible)

/-- Any other frame that may travel from the meter is a response. -/
theorem exists_ofFrame (hvalid : frame.ValidFor .response) (htyped : ¬ IsUntyped frame.command)
    (hlegible : ¬ IsIllegible frame) : ∃ response, ofFrame frame = .ok response := by
  obtain ⟨command, payload⟩ := frame
  rw [ofFrame, Command.checkSize_of_allows hvalid]
  cases command with
  | readInformation =>
    have hlength : payload.bytes.length = Information.size := Command.length_eq_of_allows rfl hvalid
    obtain ⟨content, hdecode⟩ :=
      Information.exists_decode hlength fun hillegible => hlegible ⟨rfl, hillegible⟩
    exact ⟨information content, congrArg (information <$> ·) hdecode⟩
  | readDisplay =>
    have hlength : payload.bytes.length = Display.size := Command.length_eq_of_allows rfl hvalid
    obtain ⟨content, hdecode⟩ := Option.isSome_iff_exists.1 (Display.isSome_decode? hlength)
    refine ⟨display content, ?_⟩
    simp only [hdecode]
    rfl
  | readProtocolVersion =>
    obtain ⟨block, hblock⟩ := exists_fourBytes (Command.length_eq_of_allows rfl hvalid)
    exact ⟨protocolVersion block, congrArg (protocolVersion <$> ·) hblock⟩
  | readBatteryLife =>
    obtain ⟨block, hblock⟩ := exists_fourBytes (Command.length_eq_of_allows rfl hvalid)
    exact ⟨batteryLife block, congrArg (batteryLife <$> ·) hblock⟩
  | readMemory | success | failure => exact ⟨_, rfl⟩
  | calReading => exact absurd (.inl rfl) htyped
  | readHarmonicsData => exact absurd (.inr rfl) htyped
  -- the others are answered by an acknowledgement
  | _ => cases hvalid

/-- A frame that may travel from the meter is refused for its command, or for its text, or it
is read. -/
theorem ofFrame_cases (hvalid : frame.ValidFor .response) :
    (IsUntyped frame.command ∧ ¬ IsIllegible frame ∧
      ofFrame frame = .error (.unsupported frame.command.byte)) ∨
    (¬ IsUntyped frame.command ∧ IsIllegible frame ∧ ofFrame frame = .error .dataMismatch) ∨
    ¬ IsUntyped frame.command ∧ ¬ IsIllegible frame ∧
      ∃ response, ofFrame frame = .ok response := by
  have hexclusive : IsUntyped frame.command → ¬ IsIllegible frame := by
    rintro huntyped ⟨hcommand, -⟩
    rw [hcommand] at huntyped
    rcases huntyped with h | h <;> cases h
  by_cases huntyped : IsUntyped frame.command
  · exact .inl ⟨huntyped, hexclusive huntyped, ofFrame_of_isUntyped hvalid huntyped⟩
  by_cases hillegible : IsIllegible frame
  · exact .inr (.inl ⟨huntyped, hillegible, ofFrame_of_isIllegible hvalid hillegible⟩)
  · exact .inr (.inr ⟨huntyped, hillegible, exists_ofFrame hvalid huntyped hillegible⟩)

/-- From a frame that may travel from the meter a response is read, unless there is none with its
command or it identifies the meter by bytes that spell no text. -/
theorem reception_of_validFor (hvalid : frame.ValidFor .response) : Reception frame where
  checked := Command.checkSize_of_allows hvalid
  information hcommand := Command.length_eq_of_allows (by rw [hcommand]; rfl) hvalid
  display hcommand := Command.length_eq_of_allows (by rw [hcommand]; rfl) hvalid
  failure hcommand := by
    have hlength : frame.payload.bytes.length = 1 :=
      Command.length_eq_of_allows (by rw [hcommand]; rfl) hvalid
    obtain ⟨status, hstatus⟩ := List.length_eq_one_iff.1 hlength
    refine ⟨status, hstatus, ?_⟩
    rw [ofFrame, Command.checkSize_of_allows hvalid, hcommand, hstatus]
    rfl
  unsupported := by
    rcases ofFrame_cases hvalid with ⟨h, -, hread⟩ | ⟨h, -, hread⟩ | ⟨h, -, response, hread⟩ <;>
      simp [h, hread]
  mismatch := by
    rcases ofFrame_cases hvalid with ⟨-, h, hread⟩ | ⟨-, h, hread⟩ | ⟨-, h, response, hread⟩ <;>
      simp [h, hread]
  accepted := by
    rcases ofFrame_cases hvalid with ⟨h, h', hread⟩ | ⟨h, h', hread⟩ | ⟨h, h', response, hread⟩ <;>
      simp [h, h', hread]

end Response

/-! ## Requests -/

namespace Request

/-- There is a request with the command. -/
def IsTyped (command : Command) : Prop := ∃ request : Request, request.command = command

/-- What comes of reading a request from a frame. -/
structure Reception (frame : Frame) : Prop where
  /-- The length of the payload passes the check. -/
  checked : frame.command.checkSize .request frame.payload.length = .ok ()
  /-- Some commands have no request. -/
  unsupported : ofFrame frame = .error (.unsupported frame.command.byte) ↔
    ¬ IsTyped frame.command
  /-- All other frames are requests. -/
  accepted : (∃ request, ofFrame frame = .ok request) ↔ IsTyped frame.command

variable {frame : Frame}

/-- A frame that may travel to the meter is read if requests have its command. -/
theorem exists_ofFrame (hvalid : frame.ValidFor .request) (htyped : IsTyped frame.command) :
    ∃ request, ofFrame frame = .ok request := by
  obtain ⟨command, payload⟩ := frame
  obtain ⟨request, rfl⟩ := htyped
  rw [ofFrame, Command.checkSize_of_allows hvalid]
  cases request with
  | readMemory block =>
    obtain ⟨block, hblock⟩ := MemoryBlock.exists_decode (Command.length_eq_of_allows rfl hvalid)
    exact ⟨readMemory block, congrArg (readMemory <$> ·) hblock⟩
  | _ => exact ⟨_, rfl⟩

/-- A frame whose command no request has is refused as unsupported. -/
theorem ofFrame_of_not_isTyped (hvalid : frame.ValidFor .request) (h : ¬ IsTyped frame.command) :
    ofFrame frame = .error (.unsupported frame.command.byte) := by
  obtain ⟨command, payload⟩ := frame
  rw [ofFrame, Command.checkSize_of_allows hvalid]
  cases command with
  | readInformation => exact absurd ⟨readInformation, rfl⟩ h
  | readDisplay => exact absurd ⟨readDisplay, rfl⟩ h
  | readProtocolVersion => exact absurd ⟨readProtocolVersion, rfl⟩ h
  | readBatteryLife => exact absurd ⟨readBatteryLife, rfl⟩ h
  | readMemory => exact absurd ⟨readMemory ⟨0, 0, 0⟩, rfl⟩ h
  -- the host never acknowledges
  | failure | success => cases hvalid
  | _ => rfl

/-- From a frame that may travel to the meter a request is read, unless there is none with its
command. -/
theorem reception_of_validFor (hvalid : frame.ValidFor .request) : Reception frame where
  checked := Command.checkSize_of_allows hvalid
  unsupported := by
    refine ⟨fun hread htyped => ?_, ofFrame_of_not_isTyped hvalid⟩
    obtain ⟨request, hrequest⟩ := exists_ofFrame hvalid htyped
    rw [hread] at hrequest
    cases hrequest
  accepted := by
    refine ⟨fun ⟨request, hread⟩ => ?_, exists_ofFrame hvalid⟩
    exact ⟨request, (command_of_ofFrame hread).symm⟩

end Request

/-! ## Received frames -/

namespace Frame.Parser

/-- Every frame that a parser reports may travel in its direction. -/
theorem validFor_of_reported {direction : Direction} {inputs : List Input} {frame : Frame}
    (h : frame ∈ reported direction inputs) : frame.ValidFor direction := by
  obtain ⟨sightings, gap, htracks⟩ := tracks_run direction inputs
  rw [htracks.reported_eq] at h
  exact htracks.valid frame h

/-- Whatever the bytes on the line are, the frames that a parser reports on either side pass the
check of their length and have all the bytes that are looked at. A host reads a response from each
of them, unless there is none with its command or it identifies the meter by bytes that spell no
text. A meter reads a request from each of them, unless there is none with its command. -/
theorem reception_of_reported (inputs : List Input) :
    (∀ frame ∈ reported .response inputs, Response.Reception frame) ∧
      ∀ frame ∈ reported .request inputs, Request.Reception frame :=
  ⟨fun _ hframe => Response.reception_of_validFor (validFor_of_reported hframe),
    fun _ hframe => Request.reception_of_validFor (validFor_of_reported hframe)⟩

/-- Behind stray bytes and an acknowledgement with a wrong checksum there are a refusal, a
calibration reading, and an identification that begins with the byte FF; to the meter goes a request
for memory. -/
theorem reception_of_reported_noisy :
    let refusal : Frame := ⟨.failure, [0x02], by decide⟩
    let reading : Frame := ⟨.calReading, List.replicate 23 0x55, by decide⟩
    let illegible : Frame := ⟨.readInformation, 0xff :: List.replicate 51 0x00, by decide⟩
    let answers := ([0x55, 0x12, 0x55, 0x55, 0x7f, 0x00, 0x00] ++ refusal.encode ++
      reading.encode ++ illegible.encode).map Input.byte
    let asked : Frame := ⟨.readMemory, [0x01, 0x00, 0x02, 0xff], by decide⟩
    reported .response answers = [refusal, reading, illegible] ∧
      Response.ofFrame refusal = .ok (.failure 0x02) ∧
      Response.ofFrame reading = .error (.unsupported 0x10) ∧
      Response.ofFrame illegible = .error .dataMismatch ∧
      asked ∈ reported .request (asked.encode.map .byte) ∧
      ∃ request, Request.ofFrame asked = .ok request := by
  intro refusal reading illegible answers asked
  have hreported : reported .response answers = [refusal, reading, illegible] := by decide +kernel
  have hasked : asked ∈ reported .request (asked.encode.map .byte) := by decide +kernel
  have hreception := (reception_of_reported answers).1
  rw [hreported] at hreception
  obtain ⟨status, hstatus, hrefusal⟩ := (hreception refusal (by simp)).failure rfl
  cases hstatus
  have hbytes : ¬ Text.IsUtf8 [0xff] := Text.ofUtf8?_eq_none_iff.1 (by decide +kernel)
  exact ⟨hreported, hrefusal, (hreception reading (by simp)).unsupported.2 (.inl rfl),
    (hreception illegible (by simp)).mismatch.2 ⟨rfl, .inl hbytes⟩, hasked,
    ((reception_of_reported _).2 asked hasked).accepted.2 ⟨.readMemory ⟨0, 0, 0⟩, rfl⟩⟩

end Frame.Parser

end Multimeter
