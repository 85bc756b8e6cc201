import Multimeter.Response
/-!
# Messages in frames

What is known of a frame that was read as a request, as a response or as the answer to a request,
and of the frame that a response is written to.

* `Request.command_of_ofFrame`, `Response.command_of_ofFrame`: a message has the command of its
  frame.
* `Response.command_of_answerTo`: an answer has the command of the request, unless it is a refusal.
* `Response.length_le_of_answerTo`: a stretch of memory is no longer than asked for.
* `Response.error_of_answerTo`: a frame that is no answer to a request is refused as a mismatch.
* `Request.ofFrame_of_toFrame`: a meter reads a request as it was written.
* `Request.toFrame_of_length_le`: a request for no more memory than an answer carries is written.
* `Response.frame`: the frame of a response, which may travel from the meter.
-/

namespace Multimeter

section Inversion

variable {ε α β : Type} {result : Except ε α} {value : β}

/-- A computation that succeeds has succeeded in its first step. -/
theorem exists_ok_of_bind {next : α → Except ε β} (h : result >>= next = .ok value) :
    ∃ first, result = .ok first ∧ next first = .ok value := by
  cases result with
  | ok first => exact ⟨first, rfl, h⟩
  | error error => cases h

/-- A result with a function applied to it is a value only if the result was one. -/
theorem exists_ok_of_map {change : α → β} (h : change <$> result = .ok value) :
    ∃ first, result = .ok first ∧ change first = value := by
  cases result with
  | ok first => exact ⟨first, rfl, Except.ok.inj h⟩
  | error error => cases h

/-- A computation that fails has failed in its first step or behind it. -/
theorem error_of_bind {next : α → Except ε β} {error : ε} (h : result >>= next = .error error) :
    result = .error error ∨ ∃ first, result = .ok first ∧ next first = .error error := by
  cases result with
  | ok first => exact .inr ⟨first, rfl, h⟩
  | error error' => exact .inl (congrArg _ (Except.error.inj h))

/-- A function applied to a result leaves its error alone. -/
theorem error_of_map {change : α → β} {error : ε} (h : change <$> result = .error error) :
    result = .error error := by
  cases result with
  | ok first => cases h
  | error error' => exact congrArg _ (Except.error.inj h)

end Inversion

/-- A command with a size rule refuses only lengths that the rule does not accept. -/
theorem Command.error_of_checkSize {command : Command} {direction : Direction} {length : Nat}
    {rule : SizeRule} {error : CodecError} (hrule : command.size direction = some rule)
    (h : command.checkSize direction length = .error error) : error = .dataMismatch := by
  simp only [checkSize, hrule] at h
  split at h
  · cases h
  · exact (Except.error.inj h).symm

/-- A length that a command allows passes the check. -/
theorem Command.checkSize_of_allows {command : Command} {direction : Direction} {length : Nat}
    (h : command.allows direction length = true) :
    command.checkSize direction length = .ok () := by
  have hlength := le_maxPayload_of_allows h
  unfold allows at h
  rcases hrule : command.size direction with _ | rule
  · simp [hrule] at h
  · rw [hrule] at h
    have haccepts : rule.accepts length = true := h
    simp [checkSize, hrule, hlength, haccepts]

/-- Only lengths that a command allows pass the check. -/
theorem Command.allows_of_checkSize {command : Command} {direction : Direction} {length : Nat}
    (h : command.checkSize direction length = .ok ()) : command.allows direction length = true := by
  unfold checkSize at h
  unfold allows
  split at h
  · cases h
  · rename_i rule hrule
    split at h
    · rename_i hfits
      rw [hrule]
      exact (Bool.and_eq_true_iff.1 hfits).2
    · cases h

/-- A command with a single payload length allows no other. -/
theorem Command.length_eq_of_allows {command : Command} {direction : Direction} {length only : Nat}
    (hsize : command.size direction = some (.exactly only))
    (h : command.allows direction length = true) : length = only := by
  rw [allows, hsize] at h
  exact beq_iff_eq.1 h

/-- A request has the command of the frame that it was read from. -/
theorem Request.command_of_ofFrame {frame : Frame} {request : Request}
    (h : ofFrame frame = .ok request) : frame.command = request.command := by
  obtain ⟨-, -, hread⟩ := exists_ok_of_bind h
  split at hread
  case h_1 hcommand | h_2 hcommand | h_3 hcommand | h_4 hcommand =>
    cases hread
    exact hcommand
  case h_5 hcommand =>
    obtain ⟨block, -, rfl⟩ := exists_ok_of_map hread
    exact hcommand
  case h_6 => cases hread

/-! ## Frames of requests -/

/-- A frame is its command and its payload bytes. -/
theorem Frame.eq_of_bytes {first second : Frame} (hcommand : first.command = second.command)
    (hbytes : first.payload.bytes = second.payload.bytes) : first = second := by
  obtain ⟨command, bytes, hlength⟩ := first
  obtain ⟨command', bytes', hlength'⟩ := second
  cases hcommand
  cases hbytes
  rfl

/-- Frames with the same bytes are the same. -/
theorem Frame.encode_injective {first second : Frame} (h : first.encode = second.encode) :
    first = second := by
  -- the checksum is the last byte, and the header is as long in both
  obtain ⟨hbody, -⟩ := List.append_inj' h rfl
  obtain ⟨hheader, hbytes⟩ := List.append_inj hbody rfl
  have hbyte : first.command.byte = second.command.byte := by
    injection hheader with _ hheader
    injection hheader with _ hheader
    injection hheader
  have hcommand : first.command = second.command := by
    have hfirst := Command.ofByte?_byte first.command
    rw [hbyte, Command.ofByte?_byte] at hfirst
    exact (Option.some.inj hfirst).symm
  exact eq_of_bytes hcommand hbytes

/-- What a request is written to is read as this request by a meter, to which it may travel. -/
theorem Request.ofFrame_of_toFrame {request : Request} {frame : Frame}
    (h : request.toFrame = .ok frame) :
    ofFrame frame = .ok request ∧ frame.ValidFor .request := by
  cases request with
  | readMemory block =>
    simp only [toFrame] at h
    by_cases hlong : maxPayload < block.length.toNat
    · rw [if_pos hlong] at h
      cases h
    -- the block that is decoded is the one that was encoded
    · rw [if_neg hlong] at h
      cases h
      refine ⟨?_, rfl⟩
      show readMemory <$> MemoryBlock.decode block.encode = .ok (readMemory block)
      rw [MemoryBlock.decode_encode]
      rfl
  | _ =>
    cases h
    exact ⟨rfl, rfl⟩

/-- A request for memory that fits into one answer has a frame. -/
theorem Request.toFrame_of_length_le {block : MemoryBlock} (h : block.length.toNat ≤ maxPayload) :
    ∃ frame, (readMemory block).toFrame = .ok frame := by
  refine ⟨⟨.readMemory, block.encode, by simp [MemoryBlock.encode, maxPayload]⟩, ?_⟩
  simp only [toFrame, if_neg (Nat.not_lt.2 h)]
  rfl

/-- Only a request for more memory than an answer carries is refused. -/
theorem Request.error_of_toFrame {request : Request} {error : CodecError}
    (h : request.toFrame = .error error) : error = .dataMismatch := by
  rcases request with _ | _ | _ | _ | block
  case readMemory =>
    by_cases hlength : block.length.toNat ≤ maxPayload
    · obtain ⟨frame, hframe⟩ := toFrame_of_length_le hlength
      rw [hframe] at h
      cases h
    · simp only [toFrame, if_pos (Nat.lt_of_not_le hlength)] at h
      exact (Except.error.inj h).symm
  all_goals cases h

/-- The frame asks something of the meter. -/
def Frame.IsRequest (frame : Frame) : Prop := ∃ request : Request, request.toFrame = .ok frame

/-! ## Responses -/

namespace Response

section Reading

variable {request : Request} {frame : Frame} {response : Response}

/-- A response has the command of the frame that it was read from. -/
theorem command_of_ofFrame (h : ofFrame frame = .ok response) :
    response.command = frame.command := by
  -- the first step checks the size rule and tells nothing of the message
  obtain ⟨-, -, hread⟩ := exists_ok_of_bind h
  split at hread
  -- commands whose payload has to be decoded
  case h_1 hcommand | h_3 hcommand | h_4 hcommand =>
    obtain ⟨content, -, rfl⟩ := exists_ok_of_map hread
    exact hcommand.symm
  case h_2 hcommand =>
    split at hread
    · cases hread
      exact hcommand.symm
    · cases hread
  -- commands whose payload is taken as it is
  case h_5 hcommand | h_6 hcommand | h_7 hcommand =>
    cases hread
    exact hcommand.symm
  case h_8 => cases hread

/-- A stretch of memory is the whole payload of its frame. -/
theorem payload_of_ofFrame {block : Payload} (h : ofFrame frame = .ok (.memory block)) :
    frame.payload = block := by
  have hcommand : frame.command = .readMemory := (command_of_ofFrame h).symm
  obtain ⟨-, -, hread⟩ := exists_ok_of_bind h
  rw [hcommand] at hread
  cases hread
  rfl

/-- An answer is what its frame says on its own. -/
theorem ofFrame_of_answerTo (h : answerTo request frame = .ok response) :
    ofFrame frame = .ok response := by
  unfold answerTo at h
  -- a frame of another command is refused before it is read
  split at h
  · cases h
  · obtain ⟨read, hread, hfits⟩ := exists_ok_of_bind h
    rw [hread]
    split at hfits
    · split at hfits
      · cases hfits
      · exact hfits
    · exact hfits

/-- An answer has the command of the request, unless it is a refusal. -/
theorem command_of_answerTo (h : answerTo request frame = .ok response) :
    response.command = .failure ∨ response.command = request.command := by
  rw [command_of_ofFrame (ofFrame_of_answerTo h)]
  unfold answerTo at h
  split at h
  · cases h
  · rename_i hcommand
    by_cases hfailure : frame.command = .failure
    · exact .inl hfailure
    · exact .inr (Decidable.not_not.1 fun hother => hcommand ⟨hfailure, hother⟩)

/-- Too few or too many bytes are a mismatch. -/
theorem error_of_fourBytes {bytes : List UInt8} {error : CodecError}
    (h : fourBytes bytes = .error error) : error = .dataMismatch := by
  unfold fourBytes at h
  split at h
  · cases h
  · exact (Except.error.inj h).symm

/-- A frame with a command that answers a request is refused for its payload only. -/
theorem error_of_ofFrame {error : CodecError}
    (hcommand : frame.command = .failure ∨ frame.command = request.command)
    (h : ofFrame frame = .error error) : error = .dataMismatch := by
  -- every such command has a size rule for answers
  have hrule : ∃ rule, frame.command.size .response = some rule := by
    rcases hcommand with hcommand | hcommand
    · exact ⟨_, by rw [hcommand]; rfl⟩
    · rw [hcommand]
      rcases request with _ | _ | _ | _ | block <;> exact ⟨_, rfl⟩
  obtain ⟨rule, hrule⟩ := hrule
  rcases error_of_bind h with hsize | ⟨-, -, hread⟩
  · exact Command.error_of_checkSize hrule hsize
  split at hread
  case h_1 =>
    have hdecode := error_of_map hread
    simp only [Information.decode] at hdecode
    split at hdecode
    · cases hdecode
    · exact (Except.error.inj hdecode).symm
  case h_2 =>
    split at hread
    · cases hread
    · exact (Except.error.inj hread).symm
  case h_3 | h_4 => exact error_of_fourBytes (error_of_map hread)
  case h_5 | h_6 | h_7 => cases hread
  -- the other commands answer no request
  case h_8 hinformation hdisplay hversion hbattery hmemory hsuccess hfailure =>
    rcases hcommand with hcommand | hcommand
    · exact absurd hcommand hfailure
    · rcases request with _ | _ | _ | _ | block <;> contradiction

/-- A frame that is no answer to a request is refused as a mismatch. -/
theorem error_of_answerTo {error : CodecError} (h : answerTo request frame = .error error) :
    error = .dataMismatch := by
  unfold answerTo at h
  split at h
  · exact (Except.error.inj h).symm
  · rename_i hcommand
    have hanswers : frame.command = .failure ∨ frame.command = request.command :=
      Decidable.or_iff_not_imp_left.2 fun hfailure =>
        Decidable.not_not.1 fun hother => hcommand ⟨hfailure, hother⟩
    rcases error_of_bind h with hread | ⟨response, -, hfits⟩
    · exact error_of_ofFrame hanswers hread
    · split at hfits
      · split at hfits
        · exact (Except.error.inj hfits).symm
        · cases hfits
      · cases hfits

/-- A stretch of memory is no longer than asked for. -/
theorem length_le_of_answerTo {asked : MemoryBlock} {block : Payload}
    (h : answerTo (.readMemory asked) frame = .ok (.memory block)) :
    block.length ≤ asked.length.toNat := by
  have hread := ofFrame_of_answerTo h
  unfold answerTo at h
  rw [hread] at h
  split at h
  · cases h
  · replace h : (if asked.length.toNat < block.length then _ else _) = _ := h
    split at h
    · cases h
    · omega

end Reading

/-- The payload of a response has a length that its command allows. -/
theorem allows_payload (response : Response) :
    response.command.allows .response response.payload.length = true := by
  cases response with
  | information content =>
    rw [payload, Information.length_encode]
    rfl
  | display content =>
    rw [payload, Display.length_encode]
    rfl
  | protocolVersion block | batteryLife block =>
    rw [payload, Vector.length_toList]
    rfl
  | memory block => exact decide_eq_true block.length_le
  | success => rfl
  | failure status => rfl

def frame (response : Response) : Frame :=
  ⟨response.command, response.payload, Command.le_maxPayload_of_allows response.allows_payload⟩

/-- The frame of a response may travel from the meter. -/
theorem validFor_frame (response : Response) : response.frame.ValidFor .response :=
  response.allows_payload

/-- Memory is taken for the answer to a request for at least as much. -/
theorem answerTo_frame_memory {asked : MemoryBlock} {block : Payload}
    (h : block.length ≤ asked.length.toNat) :
    answerTo (.readMemory asked) (memory block).frame = .ok (memory block) := by
  have hread : ofFrame (memory block).frame = .ok (memory block) := by
    have hsize := Command.checkSize_of_allows (validFor_frame (memory block))
    rw [ofFrame, hsize]
    rfl
  have hcommand : ¬ ((memory block).frame.command ≠ .failure ∧
      (memory block).frame.command ≠ (Request.readMemory asked).command) := fun h => h.2 rfl
  rw [answerTo, if_neg hcommand, hread]
  exact if_neg (Nat.not_lt.2 h)

end Response

end Multimeter
