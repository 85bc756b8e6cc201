import Multimeter.Frame.Parser
/-!
# Transitions of the frame parser

What a parser holds is always the beginning of a frame that may travel in its direction. This module
says so as an invariant (`Coherent`), lists everything that one byte can do to a parser with the
invariant (`Transition`), and proves the list complete (`feed_transition`). What holds of every run
is then read off the list; no later proof opens `feed` again.

* `Held direction stage bytes`: `bytes` begin a frame, and `stage` says how far they go.
* `Coherent parser`: the bytes held begin a frame, and the running sum and the announced length are
  those of these bytes.
* `coherent_feed`, `isRecoverable_of_feed`: the invariant is kept, and every error is one that the
  parser recovers from, so a buffer never overflows.
-/

namespace Multimeter

namespace Command

/-- The byte that stands for a command determines it. -/
theorem ofByte?_eq_some_iff {value : UInt8} {command : Command} :
    ofByte? value = some command ↔ command.byte = value :=
  Code.ofRaw?_eq_some_iff

/-- The start byte stands for no command, so a run of start bytes never passes for a header. -/
@[simp]
theorem ofByte?_startByte : ofByte? startByte = none := rfl

end Command

namespace Frame

/-- The length byte of a frame says how long its payload is. -/
theorem toNat_length (frame : Frame) :
    (UInt8.ofNat frame.payload.length).toNat = frame.payload.length := by
  have hle : frame.payload.length ≤ 64 := frame.payload.length_le
  rw [UInt8.toNat_ofNat']
  omega

namespace Parser

/-! ## The bytes held -/

/-- `bytes` are the beginning of a frame that may travel in `direction`, and `stage` says how far
they go. -/
inductive Held (direction : Direction) : Stage → List UInt8 → Prop
  | empty : Held direction .empty []
  | oneStart : Held direction .oneStart [startByte]
  | twoStarts : Held direction .twoStarts [startByte, startByte]
  | haveCommand {command : Command} (hvalid : command.validFor direction = true) :
      Held direction .haveCommand [startByte, startByte, command.byte]
  | haveLength {command : Command} {length : UInt8}
      (hallows : command.allows direction length.toNat = true) :
      Held direction .haveLength [startByte, startByte, command.byte, length]
  | accumulating {command : Command} {length : UInt8} {payload : List UInt8}
      (hallows : command.allows direction length.toNat = true) (hpos : payload ≠ [])
      (hle : payload.length ≤ length.toNat) :
      Held direction .accumulating ([startByte, startByte, command.byte, length] ++ payload)

/-- What a parser holds begins a frame, and its other fields are those of the bytes held. -/
structure Coherent (parser : Parser) : Prop where
  /-- The bytes held begin a frame. -/
  held : Held parser.direction parser.stage parser.buffer
  /-- The running sum is that of the bytes held. -/
  sum_eq : parser.sum = Checksum.zero.addAll parser.buffer
  /-- The announced length is the fourth byte held, zero before it is there. -/
  expected_eq : parser.expected = (parser.buffer.getD 3 0).toNat

/-- A new parser is coherent. -/
theorem coherent_new (direction : Direction) : (new direction).Coherent :=
  ⟨.empty, rfl, rfl⟩

/-- A parser that was reset is coherent. -/
theorem coherent_reset (parser : Parser) : parser.reset.Coherent := coherent_new parser.direction

/-- What is held at any stage is shorter than the longest frame. -/
theorem Held.length_lt {direction : Direction} {stage : Stage} {bytes : List UInt8}
    (h : Held direction stage bytes) : bytes.length < maxFrame := by
  cases h with
  -- only a payload makes what is held longer than the header
  | accumulating hallows _ hle =>
    have hmax := Command.le_maxPayload_of_allows hallows
    simp only [List.length_append, List.length_cons, List.length_nil, maxFrame, headerSize]
    omega
  | _ => simp [maxFrame, headerSize, maxPayload]

/-- A coherent parser has room for one more byte. -/
theorem Coherent.length_lt {parser : Parser} (h : parser.Coherent) :
    parser.buffer.length < maxFrame :=
  h.held.length_lt

/-- The sum that a coherent parser keeps is the checksum of what it holds. -/
theorem Coherent.value_eq {parser : Parser} (h : parser.Coherent) :
    parser.sum.value = checksum parser.buffer := by
  rw [h.sum_eq, checksum]

/-- A parser waiting for a first start byte holds nothing. -/
theorem Coherent.eq_reset {parser : Parser} (h : parser.Coherent) (hstage : parser.stage = .empty) :
    parser = parser.reset := by
  obtain ⟨direction, stage, buffer, sum, expected⟩ := parser
  obtain ⟨hheld, hsum, hexpected⟩ := h
  subst hstage
  cases hheld
  simp only at hsum hexpected
  subst hsum hexpected
  rfl

/-- Add a byte to what is held; the announced length is there from the fourth byte on. -/
def push (parser : Parser) (byte : UInt8) (stage : Stage) : Parser :=
  { parser with
    stage
    buffer := parser.buffer ++ [byte]
    sum := parser.sum.add byte
    expected := ((parser.buffer ++ [byte]).getD 3 0).toNat }

@[simp]
theorem buffer_push (parser : Parser) (byte : UInt8) (stage : Stage) :
    (parser.push byte stage).buffer = parser.buffer ++ [byte] := rfl

@[simp]
theorem stage_push (parser : Parser) (byte : UInt8) (stage : Stage) :
    (parser.push byte stage).stage = stage := rfl

@[simp]
theorem direction_push (parser : Parser) (byte : UInt8) (stage : Stage) :
    (parser.push byte stage).direction = parser.direction := rfl

/-- Adding a byte keeps a parser coherent if what it then holds begins a frame. -/
theorem Coherent.push {parser : Parser} (h : parser.Coherent) {byte : UInt8} {stage : Stage}
    (hheld : Held parser.direction stage (parser.buffer ++ [byte])) :
    (parser.push byte stage).Coherent where
  held := hheld
  sum_eq := by
    simp only [Parser.push, h.sum_eq, Checksum.addAll_append]
    rfl
  expected_eq := rfl

/-- As long as the announced length is not touched, accepting a byte adds it to what is held. -/
theorem Coherent.accept_eq {parser : Parser} (h : parser.Coherent) {byte : UInt8} {stage : Stage}
    (hexpected : (parser.buffer ++ [byte]).getD 3 0 = parser.buffer.getD 3 0) :
    parser.accept byte stage = (.ok none, parser.push byte stage) := by
  rw [accept, if_pos h.length_lt, Parser.push, hexpected, ← h.expected_eq]

/-! ## One byte in each stage -/

section Stages

variable {parser : Parser} (h : parser.Coherent) (byte : UInt8)
include h

/-- The room of a coherent parser is never used up before a byte is added. -/
theorem Coherent.not_full : ¬ maxFrame - 1 < parser.buffer.length := by
  have := h.length_lt
  omega

/-- Before a frame, a start byte begins one and any other byte is skipped. -/
theorem feed_empty (hstage : parser.stage = .empty) :
    parser.feed byte =
      (.ok none, if byte = startByte then parser.push byte .oneStart else parser.reset) := by
  have hbuffer : parser.buffer = [] := by rw [h.eq_reset hstage]; rfl
  simp only [feed, h.not_full, hstage, ↓reduceIte]
  by_cases hbyte : byte = startByte
  · rw [if_pos hbyte, if_pos hbyte, h.accept_eq (by rw [hbuffer]; rfl)]
  · rw [if_neg hbyte, if_neg hbyte, ← h.eq_reset hstage]

/-- After one start byte, a second one goes on and any other byte is skipped. -/
theorem feed_oneStart (hstage : parser.stage = .oneStart) (hbuffer : parser.buffer = [startByte]) :
    parser.feed byte =
      (.ok none, if byte = startByte then parser.push byte .twoStarts else parser.reset) := by
  simp only [feed, h.not_full, hstage, ↓reduceIte]
  by_cases hbyte : byte = startByte
  · rw [if_pos hbyte, if_pos hbyte, h.accept_eq (by rw [hbuffer]; rfl)]
  · rw [if_neg hbyte, if_neg hbyte]

/-- After two start bytes comes a command of this direction or one more start byte. -/
theorem feed_twoStarts (hstage : parser.stage = .twoStarts)
    (hbuffer : parser.buffer = [startByte, startByte]) :
    parser.feed byte =
      if (Command.ofByte? byte).any (·.validFor parser.direction) = true then
        (.ok none, parser.push byte .haveCommand)
      else if byte = startByte then (.ok none, parser)
      else (.error (.unknownCommand byte), parser.reset) := by
  simp only [feed, h.not_full, hstage, ↓reduceIte]
  rw [h.accept_eq (by rw [hbuffer]; rfl)]

omit h in
/-- A length fits a command just when the command allows it. -/
theorem fits_byte (command : Command) (length : UInt8) :
    parser.fits command.byte length = command.allows parser.direction length.toNat := by
  rw [fits, Command.ofByte?_byte, Option.any_some]
  cases hallows : command.allows parser.direction length.toNat with
  | false => rw [Bool.and_false]
  | true =>
    have hle := Command.le_maxPayload_of_allows hallows
    simp [hle]

/-- After the command comes a length that the command allows. A length that it does not allow may be
the first start byte of the next frame. -/
theorem feed_haveCommand {command : Command} (hstage : parser.stage = .haveCommand)
    (hbuffer : parser.buffer = [startByte, startByte, command.byte]) :
    parser.feed byte =
      if command.allows parser.direction byte.toNat = true then
        (.ok none, parser.push byte .haveLength)
      else
        (.error (.badLength command.byte byte),
          if byte = startByte then parser.reset.push startByte .oneStart else parser.reset) := by
  have hcommand : parser.buffer.getD 2 0 = command.byte := by
    rw [hbuffer]
    rfl
  simp only [feed, h.not_full, hstage, hcommand, fits_byte, ↓reduceIte]
  by_cases hallows : command.allows parser.direction byte.toNat = true
  · rw [if_pos hallows, if_pos hallows, accept, if_pos h.length_lt, Parser.push, hbuffer]
    rfl
  · rw [if_neg hallows, if_neg hallows]
    by_cases hbyte : byte = startByte
    · rw [if_pos hbyte, if_pos hbyte, hbyte, (coherent_reset parser).accept_eq rfl]
    · rw [if_neg hbyte, if_neg hbyte]

variable {command : Command} {length : UInt8} {payload : List UInt8}

/-- Behind the header comes payload until the announced length is reached, then the checksum. -/
theorem feed_payload (hstage : parser.stage = .haveLength ∨ parser.stage = .accumulating)
    (hbuffer : parser.buffer = [startByte, startByte, command.byte, length] ++ payload) :
    parser.feed byte =
      if payload.length < length.toNat then (.ok none, parser.push byte .accumulating)
      else (parser.complete byte, parser.reset) := by
  -- the parser counts the whole frame, `payload` only what is behind the header
  have hexpected : parser.expected = length.toNat := by
    rw [h.expected_eq, hbuffer]
    rfl
  have hiff : parser.buffer.length < headerSize + parser.expected ↔
      payload.length < length.toNat := by
    rw [hbuffer, hexpected]
    simp only [List.length_append, List.length_cons, List.length_nil, headerSize]
    omega
  have haccept : parser.accept byte .accumulating = (.ok none, parser.push byte .accumulating) :=
    h.accept_eq (by rw [hbuffer]; rfl)
  rcases hstage with hstage | hstage <;>
    simp only [feed, h.not_full, hstage, hiff, haccept, ↓reduceIte]

omit h in
/-- The body of a frame is its header and its payload. -/
theorem body_eq (frame : Frame) (hcommand : frame.command = command)
    (hlength : frame.payload.length = length.toNat) (hpayload : frame.payload.bytes = payload) :
    frame.body = [startByte, startByte, command.byte, length] ++ payload := by
  rw [body, hcommand, hlength, hpayload, UInt8.ofNat_toNat]

/-- A complete body ends with a frame if the next byte is the checksum, else with an error. -/
theorem complete_eq {frame : Frame} (hbuffer : parser.buffer = frame.body) :
    parser.complete byte =
      if byte = checksum parser.buffer then .ok (some frame)
      else .error (.checksumMismatch (checksum parser.buffer) byte) := by
  rw [complete, h.value_eq]
  by_cases hbyte : byte = checksum parser.buffer
  · rw [if_pos hbyte, hbyte, hbuffer]
    simp [body, headerSize]
  · rw [if_neg hbyte]
    simp [hbyte]

end Stages

/-! ## What one byte can do -/

/-- Everything that one byte can do to a coherent parser. -/
inductive Transition (parser : Parser) (byte : UInt8) : Verdict → Parser → Prop
  /-- The byte belongs to no frame. -/
  | skipped (hstage : parser.stage = .empty ∨ parser.stage = .oneStart) (hbyte : byte ≠ startByte) :
      Transition parser byte (.ok none) parser.reset
  /-- One more of a run of start bytes; the last two of them count. -/
  | repeated (hbuffer : parser.buffer = [startByte, startByte]) (hbyte : byte = startByte) :
      Transition parser byte (.ok none) parser
  /-- The byte goes on with the frame in flight. -/
  | accepted {stage : Stage} (hheld : Held parser.direction stage (parser.buffer ++ [byte])) :
      Transition parser byte (.ok none) (parser.push byte stage)
  /-- The byte is the checksum of the frame in flight. -/
  | completed {frame : Frame} (hvalid : frame.ValidFor parser.direction)
      (hencode : parser.buffer ++ [byte] = frame.encode) :
      Transition parser byte (.ok (some frame)) parser.reset
  /-- The byte is no command of this direction. -/
  | unknownCommand (hbuffer : parser.buffer = [startByte, startByte]) (hbyte : byte ≠ startByte)
      (hunknown : ¬ (Command.ofByte? byte).any (·.validFor parser.direction) = true) :
      Transition parser byte (.error (.unknownCommand byte)) parser.reset
  /-- The byte is no payload length of the command. -/
  | badLength {command : Command} (hbuffer : parser.buffer = [startByte, startByte, command.byte])
      (hrefused : ¬ command.allows parser.direction byte.toNat = true) (hbyte : byte ≠ startByte) :
      Transition parser byte (.error (.badLength command.byte byte)) parser.reset
  /-- The byte is no payload length of the command, but a start byte. -/
  | restarted {command : Command} (hbuffer : parser.buffer = [startByte, startByte, command.byte])
      (hrefused : ¬ command.allows parser.direction byte.toNat = true) (hbyte : byte = startByte) :
      Transition parser byte (.error (.badLength command.byte byte))
        (parser.reset.push startByte .oneStart)
  /-- The byte is not the checksum of the frame in flight. -/
  | mismatched (hstage : parser.stage = .haveLength ∨ parser.stage = .accumulating)
      (hbyte : byte ≠ checksum parser.buffer) :
      Transition parser byte (.error (.checksumMismatch (checksum parser.buffer) byte)) parser.reset

/-- A byte behind the header goes on with the payload or ends the frame. -/
theorem transition_payload {parser : Parser} (h : parser.Coherent) {command : Command}
    {length : UInt8} {payload : List UInt8}
    (hallows : command.allows parser.direction length.toNat = true)
    (hstage : parser.stage = .haveLength ∨ parser.stage = .accumulating)
    (hbuffer : parser.buffer = [startByte, startByte, command.byte, length] ++ payload)
    (hle : payload.length ≤ length.toNat) (byte : UInt8) :
    Transition parser byte (parser.feed byte).1 (parser.feed byte).2 := by
  rw [feed_payload h byte hstage hbuffer]
  by_cases hlt : payload.length < length.toNat
  · rw [if_pos hlt]
    refine .accepted ?_
    rw [hbuffer, List.append_assoc]
    exact .accumulating hallows (by simp) (by simpa using Nat.succ_le_of_lt hlt)
  -- the payload is complete, so what is held is the body of a frame
  · have hlength : payload.length = length.toNat := by omega
    obtain ⟨frame, hcommand, hpayload⟩ :
        ∃ frame : Frame, frame.command = command ∧ frame.payload.bytes = payload :=
      ⟨⟨command, payload, hlength ▸ Command.le_maxPayload_of_allows hallows⟩, rfl, rfl⟩
    have hannounced : frame.payload.length = length.toNat := by
      rw [Payload.length, hpayload, hlength]
    have hbody : parser.buffer = frame.body := by
      rw [hbuffer, body_eq frame hcommand hannounced hpayload]
    rw [if_neg hlt, complete_eq h byte hbody]
    by_cases hbyte : byte = checksum parser.buffer
    -- the size rule was checked when the length came, and it is the one of the frame
    · rw [if_pos hbyte]
      refine .completed ?_ ?_
      · rw [ValidFor, hcommand, hannounced]
        exact hallows
      · rw [encode, ← hbody, hbyte]
    · rw [if_neg hbyte]
      exact .mismatched hstage hbyte

/-- A coherent parser makes one of the transitions. -/
theorem feed_transition {parser : Parser} (h : parser.Coherent) (byte : UInt8) :
    Transition parser byte (parser.feed byte).1 (parser.feed byte).2 := by
  have hheld := h.held
  generalize hstage : parser.stage = stage at hheld
  generalize hbuffer : parser.buffer = bytes at hheld
  -- one case for each stage; the bytes held are then known up to the payload
  cases hheld with
  | empty =>
    rw [feed_empty h byte hstage]
    by_cases hbyte : byte = startByte
    · rw [if_pos hbyte]
      refine .accepted ?_
      rw [hbuffer, hbyte]
      exact .oneStart
    · rw [if_neg hbyte]
      exact .skipped (.inl hstage) hbyte
  | oneStart =>
    rw [feed_oneStart h byte hstage hbuffer]
    by_cases hbyte : byte = startByte
    · rw [if_pos hbyte]
      refine .accepted ?_
      rw [hbuffer, hbyte]
      exact .twoStarts
    · rw [if_neg hbyte]
      exact .skipped (.inr hstage) hbyte
  | twoStarts =>
    rw [feed_twoStarts h byte hstage hbuffer]
    -- a start byte is no command, so the order of the two checks does not matter
    by_cases hknown : (Command.ofByte? byte).any (·.validFor parser.direction) = true
    · obtain ⟨command, hcommand, hvalid⟩ := (Option.any_eq_true _ _).1 hknown
      rw [if_pos hknown]
      refine .accepted ?_
      rw [hbuffer, ← Command.ofByte?_eq_some_iff.1 hcommand]
      exact .haveCommand hvalid
    · rw [if_neg hknown]
      by_cases hbyte : byte = startByte
      · rw [if_pos hbyte]
        exact .repeated hbuffer hbyte
      · rw [if_neg hbyte]
        exact .unknownCommand hbuffer hbyte hknown
  | @haveCommand command hvalid =>
    rw [feed_haveCommand h byte hstage hbuffer]
    by_cases hallows : command.allows parser.direction byte.toNat = true
    · rw [if_pos hallows]
      refine .accepted ?_
      rw [hbuffer]
      exact .haveLength hallows
    · rw [if_neg hallows]
      by_cases hbyte : byte = startByte
      · rw [if_pos hbyte]
        exact .restarted hbuffer hallows hbyte
      · rw [if_neg hbyte]
        exact .badLength hbuffer hallows hbyte
  | haveLength hallows =>
    exact transition_payload h hallows (.inl hstage) (by rw [hbuffer]; rfl) (Nat.zero_le _) byte
  | accumulating hallows _ hle =>
    exact transition_payload h hallows (.inr hstage) hbuffer hle byte

/-! ## What every transition keeps -/

/-- Every transition leads from a coherent parser to a coherent one. -/
theorem Transition.coherent {parser next : Parser} {byte : UInt8} {verdict : Verdict}
    (h : parser.Coherent) (hstep : Transition parser byte verdict next) : next.Coherent := by
  -- all transitions but three leave a parser that has just been reset
  cases hstep with
  | repeated => exact h
  | accepted hheld => exact h.push hheld
  | restarted => exact (coherent_reset parser).push .oneStart
  | _ => exact coherent_reset parser

/-- No transition changes the direction. -/
theorem Transition.direction_eq {parser next : Parser} {byte : UInt8} {verdict : Verdict}
    (hstep : Transition parser byte verdict next) : next.direction = parser.direction := by
  cases hstep <;> rfl

/-- A transition that reports an error reports one that the parser recovers from. -/
theorem Transition.isRecoverable {parser next : Parser} {byte : UInt8} {error : FrameError}
    (hstep : Transition parser byte (.error error) next) : error.isRecoverable = true := by
  cases hstep <;> rfl

/-- A coherent parser stays coherent, whatever byte it is fed. -/
theorem coherent_feed {parser : Parser} (h : parser.Coherent) (byte : UInt8) :
    (parser.feed byte).2.Coherent :=
  (feed_transition h byte).coherent h

/-- A coherent parser keeps its direction, whatever byte it is fed. -/
theorem direction_feed {parser : Parser} (h : parser.Coherent) (byte : UInt8) :
    (parser.feed byte).2.direction = parser.direction :=
  (feed_transition h byte).direction_eq

/-- A coherent parser recovers from every error; above all, its room never overflows. -/
theorem isRecoverable_of_feed {parser : Parser} (h : parser.Coherent) {byte : UInt8}
    {error : FrameError} (herror : (parser.feed byte).1 = .error error) :
    error.isRecoverable = true :=
  (herror ▸ feed_transition h byte).isRecoverable

end Parser

end Frame

end Multimeter
