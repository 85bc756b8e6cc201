import Multimeter.Proofs.Codec.Acceptance
import Multimeter.Proofs.Codec.Reencoding
/-!
# Answers to a request

Which frames are taken for the answer to a request, and what is read from them. A refusal answers
every request. Any other frame needs the command of the request, and a stretch of memory must not be
longer than asked for. Apart from that, a frame counts that may travel from a meter and can be read.

* `Answers`: the frame is an answer to the request.
* `Conveys`: a response says what stands in the frame.
* `ofFrame_eq_ok_iff_conveys`: what is read from a frame.
* `answerTo_exact`: what is taken for an answer, and how everything else is refused.
-/

namespace Multimeter

/-- A payload is its bytes. -/
theorem Payload.eq_of_bytes {first second : Payload} (h : first.bytes = second.bytes) :
    first = second := by
  obtain ⟨bytes, hlength⟩ := first
  cases h
  rfl

namespace Response

/-- The frame is an answer to the request. -/
structure Answers (request : Request) (frame : Frame) : Prop where
  /-- It is a refusal, or it has the command of the request. -/
  command : frame.command = .failure ∨ frame.command = request.command
  /-- Its payload has a length that its command allows a meter. -/
  valid : frame.ValidFor .response
  /-- If it identifies the meter, its texts are well formed. -/
  legible : ¬ IsIllegible frame
  /-- If it carries memory, this is no more than was asked for. -/
  fits : ∀ asked, request = .readMemory asked → frame.command = .readMemory →
    frame.payload.length ≤ asked.length.toNat

/-- The response has the command of the frame and says what stands in its payload. -/
structure Conveys (frame : Frame) (response : Response) : Prop where
  /-- The response has the command of the frame. -/
  command : response.command = frame.command
  /-- An identification is read from the payload. -/
  information : ∀ content, response = information content →
    Information.decode frame.payload.bytes = .ok content
  /-- What the displays show is read from the payload. -/
  display : ∀ content, response = display content →
    Display.decode? frame.payload.bytes = some content
  /-- Every other response has the payload as it is. -/
  payload : response.command ≠ .readInformation → response.payload = frame.payload.bytes

variable {request : Request} {frame : Frame} {response : Response}

/-! ## Reading a frame -/

/-- What is read of a frame is what the frame conveys. -/
theorem conveys_of_ofFrame (h : ofFrame frame = .ok response) : Conveys frame response where
  command := command_of_ofFrame h
  information content heq := by
    subst heq
    obtain ⟨content', hdecode, heq⟩ := exists_information h (command_of_ofFrame h).symm
    rw [← Response.information.inj heq]
    exact hdecode
  display content heq := by
    subst heq
    have hcommand : frame.command = .readDisplay := (command_of_ofFrame h).symm
    obtain ⟨-, -, hread⟩ := exists_ok_of_bind h
    simp only [hcommand] at hread
    split at hread
    · rename_i hdecode
      cases hread
      exact hdecode
    · cases hread
  payload hcommand := payload_eq_of_ofFrame h (command_of_ofFrame h ▸ hcommand)

/-- No two responses convey the same frame. -/
theorem Conveys.eq {response' : Response} (h : Conveys frame response)
    (h' : Conveys frame response') : response = response' := by
  have hcommand := h.command.trans h'.command.symm
  -- apart from identifications, equal payloads are equal bytes
  have hpayload (hne : response.command ≠ .readInformation) :
      response.payload = response'.payload :=
    (h.payload hne).trans (h'.payload (hcommand ▸ hne)).symm
  -- the command tells which response it is, the payload what it says
  cases response with
  | information content =>
    cases response' <;> cases hcommand
    exact congrArg _ (Except.ok.inj ((h.information _ rfl).symm.trans (h'.information _ rfl)))
  | display content =>
    cases response' <;> cases hcommand
    exact congrArg _ (Option.some.inj ((h.display _ rfl).symm.trans (h'.display _ rfl)))
  | protocolVersion block | batteryLife block =>
    cases response' <;> cases hcommand
    exact congrArg _ (Vector.toList_inj.1 (hpayload nofun))
  | memory block =>
    cases response' <;> cases hcommand
    exact congrArg _ (Payload.eq_of_bytes (hpayload nofun))
  | success =>
    cases response' <;> cases hcommand
    rfl
  | failure status =>
    cases response' <;> cases hcommand
    exact congrArg _ (List.singleton_inj.1 (hpayload nofun))

/-- A response is read from a frame exactly if a meter may send it, there is a response with its
command, it can be read, and the response says what stands in it. -/
theorem ofFrame_eq_ok_iff_conveys :
    ofFrame frame = .ok response ↔ frame.ValidFor .response ∧ ¬ IsUntyped frame.command ∧
      ¬ IsIllegible frame ∧ Conveys frame response := by
  constructor
  · intro h
    obtain ⟨⟨⟩, hsize, -⟩ := exists_ok_of_bind h
    have hvalid : frame.ValidFor .response := Command.allows_of_checkSize hsize
    obtain ⟨htyped, hlegible⟩ := (reception_of_validFor hvalid).accepted.1 ⟨response, h⟩
    exact ⟨hvalid, htyped, hlegible, conveys_of_ofFrame h⟩
  · rintro ⟨hvalid, htyped, hlegible, hconveys⟩
    obtain ⟨response', h⟩ := exists_ofFrame hvalid htyped hlegible
    rwa [hconveys.eq (conveys_of_ofFrame h)]

/-! ## Reading an answer -/

/-- A frame that answers a request has the command of a response. -/
theorem not_isUntyped_of_answers (h : Answers request frame) : ¬ IsUntyped frame.command := by
  rcases h.command with hcommand | hcommand
  · rw [hcommand]
    exact fun huntyped => huntyped.elim nofun nofun
  · -- every request is answered by a response of its own
    rw [hcommand]
    cases request <;> exact fun huntyped => huntyped.elim nofun nofun

/-- Only a frame that answers the request is accepted. -/
theorem answers_of_answerTo (h : answerTo request frame = .ok response) :
    Answers request frame := by
  have hread := ofFrame_of_answerTo h
  obtain ⟨hvalid, -, hlegible, -⟩ := ofFrame_eq_ok_iff_conveys.1 hread
  refine ⟨?_, hvalid, hlegible, ?_⟩
  · rw [← command_of_ofFrame hread]
    exact command_of_answerTo h
  · rintro asked rfl hmemory
    have hcommand := command_of_ofFrame hread
    rw [hmemory] at hcommand
    cases response <;> cases hcommand
    rw [payload_of_ofFrame hread]
    exact length_le_of_answerTo h

/-- What is read from a frame that answers the request is taken for the answer. -/
theorem answerTo_of_answers (h : Answers request frame) (hread : ofFrame frame = .ok response) :
    answerTo request frame = .ok response := by
  have hcommand : ¬ (frame.command ≠ .failure ∧ frame.command ≠ request.command) :=
    fun hother => h.command.elim hother.1 hother.2
  rw [answerTo, if_neg hcommand, hread]
  -- only a stretch of memory that was asked for is looked at again
  cases request with
  | readMemory asked =>
    cases response with
    | memory block =>
      have hfits := h.fits asked rfl (command_of_ofFrame hread).symm
      rw [payload_of_ofFrame hread] at hfits
      exact if_neg (Nat.not_lt.2 hfits)
    | _ => rfl
  | _ => rfl

/-- A frame is accepted with a response just when it answers the request and conveys
the response. -/
theorem answerTo_eq_ok_iff_conveys :
    answerTo request frame = .ok response ↔ Answers request frame ∧ Conveys frame response := by
  constructor
  · intro h
    exact ⟨answers_of_answerTo h, conveys_of_ofFrame (ofFrame_of_answerTo h)⟩
  · rintro ⟨hanswers, hconveys⟩
    have hread := ofFrame_eq_ok_iff_conveys.2 ⟨hanswers.valid, not_isUntyped_of_answers hanswers,
      hanswers.legible, hconveys⟩
    exact answerTo_of_answers hanswers hread

/-- A frame is taken for the answer to a request exactly if it is one, and what is read from it then
is what it conveys. Every other frame is refused as a mismatch. -/
theorem answerTo_exact (request : Request) (frame : Frame) :
    (∀ response, answerTo request frame = .ok response ↔
      Answers request frame ∧ Conveys frame response) ∧
    ((∃ response, answerTo request frame = .ok response) ↔ Answers request frame) ∧
    (answerTo request frame = .error .dataMismatch ↔ ¬ Answers request frame) ∧
    ∀ error, answerTo request frame = .error error → error = .dataMismatch := by
  have hexists : (∃ response, answerTo request frame = .ok response) ↔ Answers request frame := by
    refine ⟨fun ⟨response, h⟩ => answers_of_answerTo h, fun h => ?_⟩
    obtain ⟨response, hread⟩ := exists_ofFrame h.valid (not_isUntyped_of_answers h) h.legible
    exact ⟨response, answerTo_of_answers h hread⟩
  refine ⟨fun _ => answerTo_eq_ok_iff_conveys, hexists, ?_, fun _ => error_of_answerTo⟩
  rw [← hexists]
  cases hanswer : answerTo request frame with
  | ok response => simp
  | error error =>
    rw [error_of_answerTo hanswer]
    simp

end Response

end Multimeter
