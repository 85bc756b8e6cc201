import Multimeter.Proofs.Codec.Field
import Multimeter.Proofs.Codec.RoundTrip
import Multimeter.Proofs.Parser.Soundness
/-!
# Messages written back

A message that was read from a frame is written to a frame again. Nothing that a frame says is lost
in between: bits and numbers without a known meaning are kept as they are. Only the text fields of
an identification are filled up anew.

* `Information.encode_of_decode`: the bytes that an identification is written to.
* `Response.payload_eq_of_ofFrame`: every other response has the payload that it was read from.
* `Response.toFrame_of_ofFrame`: the frame that a response is written back to.
* `Request.ofFrame_eq_ok_iff`: a meter reads what is written, and requests for more memory than an
  answer carries, which are not written.
-/

namespace Multimeter

/-! ## Identification -/

namespace Information

/-- The bytes of an identification with both texts at the front of their fields and
spaces behind. -/
def refilled (bytes : List UInt8) : List UInt8 :=
  Text.refilled nameWidth (bytes.take nameWidth) ++
    Text.refilled serialWidth ((bytes.drop nameWidth).take serialWidth) ++
    bytes.drop (nameWidth + serialWidth)

variable {bytes : List UInt8} {information : Information}

/-- Both texts are read from their fields, and the numbers from the four bytes behind these. -/
theorem fields_of_decode (h : decode bytes = .ok information) :
    Text.ofField? (bytes.take nameWidth) = some information.name ∧
      Text.ofField? ((bytes.drop nameWidth).take serialWidth) = some information.serial ∧
      ∃ modelLow modelHigh firmwareLow firmwareHigh,
        bytes.drop (nameWidth + serialWidth) = [modelLow, modelHigh, firmwareLow, firmwareHigh] ∧
        information.model = .ofRaw (TwoBytes.join modelHigh modelLow) ∧
        information.firmware = TwoBytes.join firmwareHigh firmwareLow := by
  have hdecode : decode? bytes = some information := by
    unfold decode at h
    split at h
    · rename_i hread
      rw [hread, Except.ok.inj h]
    · cases h
  obtain ⟨name, hname, hdecode⟩ := Option.bind_eq_some_iff.1 hdecode
  obtain ⟨serial, hserial, hdecode⟩ := Option.bind_eq_some_iff.1 hdecode
  split at hdecode
  · rename_i modelLow modelHigh firmwareLow firmwareHigh hnumbers
    unfold ofParts? at hdecode
    split at hdecode
    · obtain rfl := Option.some.inj hdecode
      exact ⟨hname, hserial, _, _, _, _, hnumbers, rfl, rfl⟩
    · cases hdecode
  · cases hdecode

/-- An identification that was read is carried unchanged. -/
theorem representable_of_decode (h : decode bytes = .ok information) :
    information.Representable := by
  obtain ⟨hname, hserial, _, _, _, _, -, hmodel, -⟩ := fields_of_decode h
  refine ⟨Text.isPlain_of_ofField? hname, Text.isPlain_of_ofField? hserial, ?_⟩
  rw [hmodel]
  exact Coded.canonical_ofRaw _

/-- An identification that was read is written with its text fields filled up anew and the same four
bytes behind them. -/
theorem encode_of_decode (h : decode bytes = .ok information) :
    information.encode = refilled bytes := by
  obtain ⟨hname, hserial, modelLow, modelHigh, firmwareLow, firmwareHigh, hnumbers, hmodel,
    hfirmware⟩ := fields_of_decode h
  have hnameField := Text.toField_of_ofField? (List.length_take_le _ _) hname
  have hserialField := Text.toField_of_ofField? (List.length_take_le _ _) hserial
  rw [encode, refilled, hnameField, hserialField, hnumbers, hmodel, hfirmware, Coded.raw_ofRaw]
  simp only [TwoBytes.low_join, TwoBytes.high_join]

end Information

/-! ## Responses -/

namespace Response

variable {frame : Frame} {response : Response}

/-- The four bytes that were taken are the bytes that were given. -/
theorem toList_of_fourBytes {bytes : List UInt8} {block : Vector UInt8 4}
    (h : fourBytes bytes = .ok block) : block.toList = bytes := by
  unfold fourBytes at h
  split at h
  · obtain rfl := Except.ok.inj h
    rfl
  · cases h

/-- Every response but an identification has the payload of the frame that it was read from. -/
theorem payload_eq_of_ofFrame (h : ofFrame frame = .ok response)
    (hcommand : frame.command ≠ .readInformation) : response.payload = frame.payload.bytes := by
  obtain ⟨⟨⟩, hsize, hread⟩ := exists_ok_of_bind h
  have hallows := Command.allows_of_checkSize hsize
  split at hread
  case h_1 hinformation => exact absurd hinformation hcommand
  case h_2 =>
    split at hread
    · rename_i content hdecode
      cases hread
      exact Display.encode_of_decode? hdecode
    · cases hread
  case h_3 | h_4 =>
    obtain ⟨block, hblock, rfl⟩ := exists_ok_of_map hread
    exact toList_of_fourBytes hblock
  case h_5 =>
    cases hread
    rfl
  -- the length that was checked leaves no more bytes than are read
  case h_6 hsuccess =>
    cases hread
    have hlength : frame.payload.bytes.length = 0 :=
      Command.length_eq_of_allows (by rw [hsuccess]; rfl) hallows
    exact (List.length_eq_zero_iff.1 hlength).symm
  case h_7 hfailure =>
    cases hread
    have hlength : frame.payload.bytes.length = 1 :=
      Command.length_eq_of_allows (by rw [hfailure]; rfl) hallows
    obtain ⟨status, hstatus⟩ := List.length_eq_one_iff.1 hlength
    rw [hstatus]
    rfl
  case h_8 => cases hread

/-- A response read from the answer to an identification holds what was decoded of its payload. -/
theorem exists_information (h : ofFrame frame = .ok response)
    (hcommand : frame.command = .readInformation) :
    ∃ content, Information.decode frame.payload.bytes = .ok content ∧
      information content = response := by
  obtain ⟨-, -, hread⟩ := exists_ok_of_bind h
  rw [hcommand] at hread
  exact exists_ok_of_map hread

/-- An identification that was read has its text fields filled up anew. -/
theorem payload_refilled_of_ofFrame (h : ofFrame frame = .ok response)
    (hcommand : frame.command = .readInformation) :
    response.payload = Information.refilled frame.payload.bytes := by
  obtain ⟨content, hdecode, rfl⟩ := exists_information h hcommand
  exact Information.encode_of_decode hdecode

/-- A frame carries a response that was read from one unchanged. -/
theorem representable_of_ofFrame (h : ofFrame frame = .ok response) : response.Representable := by
  by_cases hcommand : frame.command = .readInformation
  · obtain ⟨content, hdecode, rfl⟩ := exists_information h hcommand
    exact Information.representable_of_decode hdecode
  · -- the frame that it is written to is the one that it was read from
    have hframe : response.frame = frame :=
      Frame.eq_of_bytes (command_of_ofFrame h) (payload_eq_of_ofFrame h hcommand)
    have hagain := response.ofFrame_frame
    rw [hframe, h] at hagain
    exact carried_eq_iff.1 (Except.ok.inj hagain).symm

/-- A response that was read from a frame is written to a frame that is read as the same response.
This is the frame that it was read from, unless it identifies the meter: then the text fields are
filled up anew, and the four bytes behind them are the same. -/
theorem toFrame_of_ofFrame (h : ofFrame frame = .ok response) :
    ∃ again, response.toFrame = .ok again ∧ ofFrame again = .ok response ∧
      (frame.command ≠ .readInformation → again = frame) ∧
      (frame.command = .readInformation → again.command = .readInformation ∧
        again.payload.bytes = Information.refilled frame.payload.bytes) := by
  have hcommand := command_of_ofFrame h
  have hagain := response.ofFrame_frame
  rw [carried_eq_iff.2 (representable_of_ofFrame h)] at hagain
  refine ⟨response.frame, response.toFrame_eq, hagain, fun hother => ?_, fun hinformation => ?_⟩
  · exact Frame.eq_of_bytes hcommand (payload_eq_of_ofFrame h hother)
  · exact ⟨hcommand.trans hinformation, payload_refilled_of_ofFrame h hinformation⟩

/-- The name of a meter stands between spaces, with garbage behind a zero byte, its serial number
field begins with a zero byte, and its model number has no known meaning. -/
theorem toFrame_of_ofFrame_of_garbled :
    let frame : Frame := ⟨.readInformation,
      [0x20, 0x20, 0xc3, 0x84, 0x20, 0x42, 0x20, 0x00] ++ List.replicate 24 0xff ++
        0x00 :: List.replicate 15 0xff ++ [0x42, 0x00, 0xc9, 0x00], by decide⟩
    let response : Response := .information
      { name := "Ä B", serial := "", model := .unknown 0x42, firmware := 201,
        name_fits := by decide, serial_fits := by decide }
    ofFrame frame = .ok response ∧ ∃ again, response.toFrame = .ok again ∧
      ofFrame again = .ok response ∧ again.payload.bytes =
        [0xc3, 0x84, 0x20, 0x42] ++ List.replicate 44 0x20 ++ [0x42, 0x00, 0xc9, 0x00] := by
  intro frame response
  have h : ofFrame frame = .ok response := by decide +kernel
  obtain ⟨again, hwritten, hread, -, hpayload⟩ := toFrame_of_ofFrame h
  refine ⟨h, again, hwritten, hread, ?_⟩
  rw [(hpayload rfl).2]
  decide +kernel

end Response

/-! ## Requests -/

/-- A stretch of memory is written with the bytes that name it. -/
theorem MemoryBlock.encode_of_decode {bytes : List UInt8} {block : MemoryBlock}
    (h : decode bytes = .ok block) : block.encode = bytes := by
  unfold decode at h
  split at h
  · obtain rfl := Except.ok.inj h
    simp only [encode, TwoBytes.low_join, TwoBytes.high_join]
  · cases h

namespace Request

/-- The payload of a request. -/
def payload : Request → List UInt8
  | readMemory block => block.encode
  | _ => []

/-- The payload of every request has a length that its command allows. -/
theorem allows_payload (request : Request) :
    request.command.allows .request request.payload.length = true := by
  cases request <;> rfl

/-- The frame of a request, also of one for more memory than an answer carries. -/
def frame (request : Request) : Frame :=
  ⟨request.command, request.payload, Command.le_maxPayload_of_allows request.allows_payload⟩

/-- The frame of every request is read as the request. -/
theorem ofFrame_frame (request : Request) : ofFrame request.frame = .ok request := by
  cases request with
  | readMemory block =>
    show readMemory <$> MemoryBlock.decode block.encode = .ok (readMemory block)
    rw [MemoryBlock.decode_encode]
    rfl
  | _ => rfl

/-- No other frame is read as the request. -/
theorem eq_frame_of_ofFrame {frame : Frame} {request : Request}
    (h : ofFrame frame = .ok request) : frame = request.frame := by
  have hcommand := command_of_ofFrame h
  refine Frame.eq_of_bytes hcommand ?_
  obtain ⟨⟨⟩, hsize, hread⟩ := exists_ok_of_bind h
  have hallows := Command.allows_of_checkSize hsize
  split at hread
  -- these requests have no payload
  case h_1 hname | h_2 hname | h_3 hname | h_4 hname =>
    cases hread
    have hlength : frame.payload.bytes.length = 0 :=
      Command.length_eq_of_allows (by rw [hname]; rfl) hallows
    exact List.length_eq_zero_iff.1 hlength
  case h_5 =>
    obtain ⟨block, hblock, rfl⟩ := exists_ok_of_map hread
    exact (MemoryBlock.encode_of_decode hblock).symm
  case h_6 => cases hread

/-- A request that is written has its frame. -/
theorem eq_frame_of_toFrame {frame : Frame} {request : Request}
    (h : request.toFrame = .ok frame) : frame = request.frame :=
  eq_frame_of_ofFrame (ofFrame_of_toFrame h).1

/-- A meter reads a frame as a request exactly if the request is written to this frame, or if it
asks for more memory than an answer carries and is not written, but this would be its frame. -/
theorem ofFrame_eq_ok_iff {frame : Frame} {request : Request} :
    ofFrame frame = .ok request ↔ request.toFrame = .ok frame ∨
      request.IsOversized ∧ request.toFrame = .error .dataMismatch ∧ frame = request.frame := by
  constructor
  · intro h
    obtain rfl := eq_frame_of_ofFrame h
    by_cases hoversized : request.IsOversized
    · exact .inr ⟨hoversized, toFrame_of_isOversized hoversized, rfl⟩
    · obtain ⟨written, hwritten⟩ := exists_toFrame hoversized
      rw [eq_frame_of_toFrame hwritten] at hwritten
      exact .inl hwritten
  · rintro (h | ⟨-, -, rfl⟩)
    · exact (ofFrame_of_toFrame h).1
    · exact request.ofFrame_frame

open Frame.Parser in
/-- A receiver reports the frame of a request for 65 bytes, and a meter reads the request from it,
but the request is not written. -/
theorem ofFrame_accepts_oversized :
    let request : Request := .readMemory { device := 0, address := 0, length := 65 }
    let frame : Frame := ⟨.readMemory, [0, 0, 0, 65], by decide⟩
    reported .request (frame.encode.map .byte) = [frame] ∧ ofFrame frame = .ok request ∧
      request.toFrame = .error .dataMismatch :=
  ⟨by decide +kernel, rfl, rfl⟩

end Request

end Multimeter
