import Multimeter.Proofs.Codec
import Multimeter.Proofs.Codec.Display
import Multimeter.Proofs.Codec.Padded
import Multimeter.Proofs.Parser.Completeness
/-!
# Round trip of messages

A message is written to a frame, the frame travels as bytes, a receiver finds it in them, and the
message is read from it. A request always comes back, unless it asks for more memory than an answer
carries and is not written at all. A response comes back as what its frame carries of it: the same
message exactly when the texts, readings and numbers in it are representable.

* `Response.toFrame_eq`: every response is written to its frame.
* `Response.ofFrame_frame`: what a response's frame is read as.
* `Response.carried_eq_iff`: when this is the response.
* `messages_round_trip`: both directions, through the encoding and the parser.
-/

namespace Multimeter

/-! ## Identification -/

namespace Information

/-- What the bytes of an identification carry. -/
def carried (information : Information) : Information where
  name := Text.carried information.name
  serial := Text.carried information.serial
  model := .ofRaw information.model.raw
  firmware := information.firmware
  name_fits := (Text.length_utf8_carried_le _).trans information.name_fits
  serial_fits := (Text.length_utf8_carried_le _).trans information.serial_fits

/-- Both texts are plain, and the model number does not hold a known model by its bare number. -/
structure Representable (information : Information) : Prop where
  name : Text.IsPlain information.name
  serial : Text.IsPlain information.serial
  model : information.model.Canonical

/-- The fields of an identification stand one behind the other. -/
theorem fields_encode (information : Information) :
    information.encode.take nameWidth = Text.toField nameWidth information.name ∧
      (information.encode.drop nameWidth).take serialWidth =
        Text.toField serialWidth information.serial ∧
      information.encode.drop (nameWidth + serialWidth) =
        [TwoBytes.low information.model.raw, TwoBytes.high information.model.raw,
         TwoBytes.low information.firmware, TwoBytes.high information.firmware] := by
  have hname := Text.length_toField nameWidth information.name
  have hserial := Text.length_toField serialWidth information.serial
  rw [encode, List.append_assoc, ← List.drop_drop, List.take_left' hname, List.drop_left' hname,
    List.take_left' hserial, List.drop_left' hserial]
  exact ⟨rfl, rfl, rfl⟩

/-- An identification is read as what its bytes carry. -/
theorem decode_encode (information : Information) :
    decode information.encode = .ok information.carried := by
  obtain ⟨hname, hserial, hnumbers⟩ := information.fields_encode
  have hparts : ofParts? information.carried.name information.carried.serial
      information.carried.model information.carried.firmware = some information.carried :=
    dif_pos ⟨information.carried.name_fits, information.carried.serial_fits⟩
  have hdecode : decode? information.encode = some information.carried := by
    simp only [decode?, hname, hserial, hnumbers, Text.ofField?_toField information.name_fits,
      Text.ofField?_toField information.serial_fits, TwoBytes.join_high_low, Option.bind_eq_bind,
      Option.bind_some]
    exact hparts
  rw [decode, hdecode]

/-- The bytes of an identification carry exactly the representable ones unchanged. -/
theorem carried_eq_iff {information : Information} :
    information.carried = information ↔ information.Representable := by
  have hiff : information.carried = information ↔
      Text.carried information.name = information.name ∧
      Text.carried information.serial = information.serial ∧
      .ofRaw information.model.raw = information.model := by
    obtain ⟨name, serial, model, firmware, _, _⟩ := information
    simp only [carried, Information.mk.injEq, and_true]
  rw [hiff, Text.carried_eq_iff, Text.carried_eq_iff, Coded.ofRaw_eq_iff]
  exact ⟨fun ⟨name, serial, _, model⟩ => ⟨name, serial, model⟩,
    fun h => ⟨h.name, h.serial, rfl, h.model⟩⟩

end Information

/-! ## Responses -/

namespace Response

/-- What the frame of a response carries. -/
def carried : Response → Response
  | information content => information content.carried
  | display content => display content.carried
  | response => response

/-- All that the response holds is representable. -/
def Representable : Response → Prop
  | information content => content.Representable
  | display content => content.Representable
  | _ => True

/-- What a frame carries of a response has the same command. -/
theorem command_carried (response : Response) : response.carried.command = response.command := by
  cases response <;> rfl

/-- A frame carries exactly the representable responses unchanged. -/
theorem carried_eq_iff {response : Response} :
    response.carried = response ↔ response.Representable := by
  cases response with
  | information content =>
    rw [carried, information.injEq, Information.carried_eq_iff]
    rfl
  | display content =>
    rw [carried, display.injEq, Display.carried_eq_iff]
    rfl
  | _ => exact ⟨fun _ => trivial, fun _ => rfl⟩

/-- Every response is written to its frame. -/
theorem toFrame_eq (response : Response) : response.toFrame = .ok response.frame := by
  have hbuild : Frame.build response.command response.payload = .ok response.frame := by
    have hpayload := Payload.ofBytes?_bytes response.frame.payload
    rw [show response.frame.payload.bytes = response.payload from rfl] at hpayload
    rw [Frame.build, Frame.ofBytes, hpayload]
    rfl
  have hsize := Command.checkSize_of_allows (validFor_frame response)
  rw [toFrame, hbuild]
  show (response.frame.command.checkSize .response _ >>= fun _ => pure response.frame) = _
  rw [hsize]
  rfl

/-- Four bytes are taken as they are. -/
theorem fourBytes_toList (block : Vector UInt8 4) : fourBytes block.toList = .ok block := by
  rw [fourBytes, dif_pos block.length_toList]
  exact congrArg Except.ok (Vector.toArray_inj.1 Array.toArray_toList)

/-- The frame of a response is read as what it carries. -/
theorem ofFrame_frame (response : Response) : ofFrame response.frame = .ok response.carried := by
  have hsize := Command.checkSize_of_allows (validFor_frame response)
  unfold ofFrame
  rw [hsize]
  -- the command of the frame chooses the reader for its payload
  cases response with
  | information content =>
    show information <$> Information.decode content.encode = _
    rw [Information.decode_encode]
    rfl
  | display content =>
    have hdecode : Display.decode? (display content).frame.payload.bytes = some content.carried :=
      Display.decode?_encode content
    simp only [hdecode]
    rfl
  | protocolVersion block =>
    show protocolVersion <$> fourBytes block.toList = _
    rw [fourBytes_toList]
    rfl
  | batteryLife block =>
    show batteryLife <$> fourBytes block.toList = _
    rw [fourBytes_toList]
    rfl
  | memory block | success | failure status => rfl

end Response

/-! ## Requests -/

namespace Request

/-- A request for more memory than one answer carries. -/
def IsOversized : Request → Prop
  | readMemory block => 64 < block.length.toNat
  | _ => False

/-- Every other request is written to a frame. -/
theorem exists_toFrame {request : Request} (h : ¬ request.IsOversized) :
    ∃ frame, request.toFrame = .ok frame := by
  cases request with
  | readMemory block => exact toFrame_of_length_le (Nat.le_of_not_lt h)
  | _ => exact ⟨_, rfl⟩

/-- A request for more memory than one answer holds has no frame. -/
theorem toFrame_of_isOversized {request : Request} (h : request.IsOversized) :
    request.toFrame = .error .dataMismatch := by
  cases request with
  | readMemory block => exact if_pos h
  | _ => exact h.elim

end Request

/-! ## Both directions -/

open Frame.Parser in
/-- A request that is not oversized is written to a frame, which a new receiver finds with the last
byte of its encoding, and which is read as the request; an oversized one is refused. Every response
is written to a frame that is found in the same way and read as a response with its command, and as
the response itself exactly when it is representable. -/
theorem messages_round_trip :
    (∀ request : Request,
      request.IsOversized ∧ request.toFrame = .error .dataMismatch ∨
      ¬ request.IsOversized ∧ ∃ frame, request.toFrame = .ok frame ∧
        (new .request).feedAll frame.encode = (announcement frame, new .request) ∧
        Request.ofFrame frame = .ok request) ∧
    ∀ response : Response, ∃ frame result, response.toFrame = .ok frame ∧
      (new .response).feedAll frame.encode = (announcement frame, new .response) ∧
      Response.ofFrame frame = .ok result ∧ result.command = response.command ∧
      (result = response ↔ response.Representable) := by
  -- a new receiver has seen no start byte
  have hfound : ∀ {direction : Direction} {frame : Frame}, frame.ValidFor direction →
      (new direction).feedAll frame.encode = (announcement frame, new direction) :=
    fun hvalid => feedAll_encode hvalid 0
  constructor
  · intro request
    by_cases h : request.IsOversized
    · exact .inl ⟨h, Request.toFrame_of_isOversized h⟩
    · obtain ⟨frame, hframe⟩ := Request.exists_toFrame h
      obtain ⟨hread, hvalid⟩ := Request.ofFrame_of_toFrame hframe
      exact .inr ⟨h, frame, hframe, hfound hvalid, hread⟩
  · intro response
    exact ⟨response.frame, response.carried, response.toFrame_eq, hfound response.validFor_frame,
      response.ofFrame_frame, response.command_carried, Response.carried_eq_iff⟩

end Multimeter
