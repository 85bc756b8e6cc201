import Multimeter.Proofs.Parser.Completeness
import Multimeter.Proofs.Parser.Soundness
/-!
# Resynchronisation of the frame parser

Whatever a parser has been fed, it finds its way back to the frames. As long as it has taken no
length byte, the next frame is found at once: what it holds is a run of start bytes, or a command
that costs one error. Behind a length byte it takes what follows for a payload, but this comes to an
end after as many bytes as the longest frame has behind its start marker.

* `Transition.next_of_error`: what is left after an error.
* `Coherent.feedAll_encode`: a parser that has taken no length byte finds a frame.
* `outstanding`: the most bytes, none of them a start byte, until the parser waits for a frame. One
  such byte takes one off (`Coherent.outstanding_feed`).
* `run_resynchronises`: all of this for every parser, whatever it has been fed.
-/

namespace Multimeter.Frame

/-- The length of the frame in flight is known, so its payload or its checksum comes next. -/
def Stage.isAnnounced : Stage → Bool
  | .haveLength | .accumulating => true
  | _ => false

namespace Parser

variable {parser : Parser} {frame : Frame}

/-! ## After an error -/

/-- An error leaves nothing in flight, but for a start byte that was refused as a length. -/
theorem Transition.next_of_error {next : Parser} {byte : UInt8} {error : FrameError}
    (hstep : Transition parser byte (.error error) next) :
    (byte = startByte ∧ ∃ command, error = .badLength command byte) ∧
        next = started parser.direction 1 ∨
      ¬ (byte = startByte ∧ ∃ command, error = .badLength command byte) ∧
        next = new parser.direction := by
  cases hstep with
  | unknownCommand _ hbyte => exact .inr ⟨fun h => hbyte h.1, rfl⟩
  | badLength _ _ hbyte => exact .inr ⟨fun h => hbyte h.1, rfl⟩
  | restarted _ _ hbyte => exact .inl ⟨⟨hbyte, _, rfl⟩, rfl⟩
  | mismatched => exact .inr ⟨fun ⟨_, _, heq⟩ => (nomatch heq), rfl⟩

/-! ## Frames behind a beginning -/

/-- The bytes held and how far they go are all that tells coherent parsers apart. -/
theorem Coherent.eq_of_buffer {parser' : Parser} (h : parser.Coherent) (h' : parser'.Coherent)
    (hdirection : parser.direction = parser'.direction) (hstage : parser.stage = parser'.stage)
    (hbuffer : parser.buffer = parser'.buffer) : parser = parser' := by
  obtain ⟨direction, stage, buffer, sum, expected⟩ := parser
  obtain ⟨direction', stage', buffer', sum', expected'⟩ := parser'
  obtain ⟨-, hsum, hexpected⟩ := h
  obtain ⟨-, hsum', hexpected'⟩ := h'
  simp only at hdirection hstage hbuffer hsum hsum' hexpected hexpected'
  subst hdirection hstage hbuffer hsum hsum' hexpected hexpected'
  rfl

/-- A parser that has taken start bytes is coherent. -/
theorem coherent_started (direction : Direction) (starts : Nat) :
    (started direction starts).Coherent :=
  match starts with
  | 0 => coherent_new direction
  | 1 => (coherent_new direction).push .oneStart
  | _ + 2 => ((coherent_new direction).push .oneStart).push .twoStarts

/-- Before a command, a coherent parser has seen some start bytes and nothing else. -/
theorem Coherent.eq_started (h : parser.Coherent) (hannounced : parser.stage.isAnnounced = false)
    (hcommand : parser.stage ≠ .haveCommand) :
    ∃ starts, parser = started parser.direction starts := by
  have hheld := h.held
  generalize hstage : parser.stage = stage at hheld hannounced hcommand
  generalize hbuffer : parser.buffer = bytes at hheld
  cases hheld with
  | empty => exact ⟨0, h.eq_of_buffer (coherent_started _ 0) rfl hstage hbuffer⟩
  | oneStart => exact ⟨1, h.eq_of_buffer (coherent_started _ 1) rfl hstage hbuffer⟩
  | twoStarts => exact ⟨2, h.eq_of_buffer (coherent_started _ 2) rfl hstage hbuffer⟩
  | haveCommand => exact absurd rfl hcommand
  | haveLength => cases hannounced
  | accumulating => cases hannounced

/-- A start byte is no payload length, so behind a command it begins the next frame. -/
theorem Coherent.feed_startByte (h : parser.Coherent) (hstage : parser.stage = .haveCommand) :
    ∃ command, parser.feed startByte =
      (.error (.badLength command startByte), started parser.direction 1) := by
  have hheld := h.held
  rw [hstage] at hheld
  generalize hbuffer : parser.buffer = bytes at hheld
  cases hheld with
  | @haveCommand command hvalid =>
    have hfeed := feed_haveCommand h startByte hstage hbuffer
    -- no payload is as long as the start byte says
    have hlong : ¬ command.allows parser.direction startByte.toNat = true := fun hallows =>
      absurd (Command.le_maxPayload_of_allows hallows) (by decide)
    rw [if_neg hlong, if_pos rfl] at hfeed
    exact ⟨_, hfeed⟩

/-- But for the first byte, the encoding of a frame brings nothing until the frame is there. -/
theorem tail_announcement (frame : Frame) :
    (announcement frame).tail = silence (frame.encode.length - 2) ++ [.ok (some frame)] := by
  have hlength : frame.encode.length = frame.payload.length + 3 + 2 := by
    rw [length_encode, encodedLength, headerSize]
    omega
  rw [announcement, hlength]
  rfl

/-- The first of the two start bytes of a frame is not needed behind another one. -/
theorem feedAll_tail_encode {direction : Direction} (h : frame.ValidFor direction) :
    (started direction 1).feedAll frame.encode.tail =
      ((announcement frame).tail, new direction) := by
  have hfeed := feedAll_encode h 0
  rw [show frame.encode = startByte :: frame.encode.tail from rfl, feedAll_cons,
    feed_started_startByte] at hfeed
  injection hfeed with hverdicts hparser
  exact Prod.ext (congrArg List.tail hverdicts) hparser

/-- A coherent parser that has taken no length byte finds a valid frame with the last byte of its
encoding. All other bytes bring nothing, but the first is refused as a length behind a command. -/
theorem Coherent.feedAll_encode (h : parser.Coherent)
    (hannounced : parser.stage.isAnnounced = false) (hvalid : frame.ValidFor parser.direction) :
    ∃ first, parser.feedAll frame.encode =
        (first :: (announcement frame).tail, new parser.direction) ∧
      (parser.stage ≠ .haveCommand ∧ first = .ok none ∨
        parser.stage = .haveCommand ∧
          ∃ command, first = .error (.badLength command startByte)) := by
  by_cases hcommand : parser.stage = .haveCommand
  · obtain ⟨command, hfeed⟩ := h.feed_startByte hcommand
    refine ⟨_, ?_, .inr ⟨hcommand, command, rfl⟩⟩
    -- the command is dropped, and the first start byte of the frame is kept
    rw [show frame.encode = startByte :: frame.encode.tail from rfl, feedAll_cons, hfeed,
      feedAll_tail_encode hvalid]
  · obtain ⟨starts, hstarts⟩ := h.eq_started hannounced hcommand
    have hfeed := Parser.feedAll_encode hvalid starts
    rw [← hstarts] at hfeed
    exact ⟨.ok none, hfeed, .inl ⟨hcommand, rfl⟩⟩

/-- A search in a frame does not need the first start byte behind another one, either. -/
theorem scan_tail_encode {direction : Direction} (h : frame.ValidFor direction) :
    (started direction 1).scan frame.encode.tail =
      { parser := new direction, rest := [], dropped := [], found := .ok (some frame) } := by
  have hscan := scan_started h 0
  rw [show frame.encode = startByte :: frame.encode.tail from rfl, scan,
    feed_started_startByte] at hscan
  exact hscan

/-- A coherent parser that has taken no length byte finds a valid frame in a search, which takes
every byte. -/
theorem Coherent.exists_scan_encode (h : parser.Coherent)
    (hannounced : parser.stage.isAnnounced = false) (hvalid : frame.ValidFor parser.direction) :
    ∃ dropped, parser.scan frame.encode =
      { parser := new parser.direction, rest := [], dropped, found := .ok (some frame) } := by
  by_cases hcommand : parser.stage = .haveCommand
  · obtain ⟨command, hfeed⟩ := h.feed_startByte hcommand
    refine ⟨[.badLength command startByte], ?_⟩
    rw [show frame.encode = startByte :: frame.encode.tail from rfl, scan, hfeed]
    simp only [FrameError.isRecoverable, ↓reduceIte, scan_tail_encode hvalid]
  · obtain ⟨starts, hstarts⟩ := h.eq_started hannounced hcommand
    have hscan := scan_started hvalid starts
    rw [← hstarts] at hscan
    exact ⟨[], hscan⟩

/-! ## Bytes until a parser waits for a frame -/

/-- The most bytes, none of them a start byte, that are taken until the parser waits for a frame. -/
def outstanding (parser : Parser) : Nat :=
  match parser.stage with
  | .empty => 0
  | .oneStart => 1
  -- command, length, payload and checksum
  | .twoStarts => maxPayload + 3
  | .haveCommand => maxPayload + 2
  | .haveLength | .accumulating => headerSize + parser.expected + 1 - parser.buffer.length

section Outstanding

variable {command : Command} {length : UInt8}

/-- Behind the header, the rest of the announced payload and the checksum are outstanding. -/
theorem Coherent.outstanding_payload (h : parser.Coherent) (payload : List UInt8)
    (hstage : parser.stage = .haveLength ∨ parser.stage = .accumulating)
    (hbuffer : parser.buffer = [startByte, startByte, command.byte, length] ++ payload) :
    parser.outstanding = length.toNat + 1 - payload.length := by
  have hexpected : parser.expected = length.toNat := by
    rw [h.expected_eq, hbuffer]
    rfl
  have hlength : parser.buffer.length = headerSize + payload.length := by
    rw [hbuffer, List.length_append]
    rfl
  rcases hstage with hstage | hstage
  all_goals
    simp only [outstanding, hstage, hexpected, hlength]
    omega

/-- Behind the header, every byte is one less that is outstanding, or nothing is any more. -/
theorem Coherent.outstanding_feed_payload (h : parser.Coherent) (byte : UInt8)
    (payload : List UInt8) (hstage : parser.stage = .haveLength ∨ parser.stage = .accumulating)
    (hbuffer : parser.buffer = [startByte, startByte, command.byte, length] ++ payload) :
    (parser.feed byte).2.outstanding ≤ parser.outstanding - 1 := by
  have hnext := coherent_feed h byte
  rw [feed_payload h byte hstage hbuffer] at hnext ⊢
  by_cases hlt : payload.length < length.toNat
  · rw [if_pos hlt] at hnext ⊢
    have hpush : (parser.push byte .accumulating).buffer =
        [startByte, startByte, command.byte, length] ++ (payload ++ [byte]) := by
      rw [buffer_push, hbuffer, List.append_assoc]
    rw [hnext.outstanding_payload _ (.inr rfl) hpush, h.outstanding_payload _ hstage hbuffer,
      List.length_append, List.length_singleton]
    omega
  · rw [if_neg hlt]
    exact Nat.zero_le _

/-- A byte that is no start byte is one less that is outstanding. -/
theorem Coherent.outstanding_feed (h : parser.Coherent) {byte : UInt8} (hbyte : byte ≠ startByte) :
    (parser.feed byte).2.outstanding ≤ parser.outstanding - 1 := by
  have hheld := h.held
  generalize hstage : parser.stage = stage at hheld
  generalize hbuffer : parser.buffer = bytes at hheld
  -- one case for each stage; a parser that is reset has nothing outstanding
  cases hheld with
  | empty =>
    rw [feed_empty h byte hstage, if_neg hbyte]
    exact Nat.zero_le _
  | oneStart =>
    rw [feed_oneStart h byte hstage hbuffer, if_neg hbyte]
    exact Nat.zero_le _
  | twoStarts =>
    rw [feed_twoStarts h byte hstage hbuffer, if_neg hbyte]
    split
    · simp only [outstanding, hstage, stage_push]
      exact Nat.le_refl _
    · exact Nat.zero_le _
  | @haveCommand command hvalid =>
    have hnext := coherent_feed h byte
    rw [feed_haveCommand h byte hstage hbuffer, if_neg hbyte] at hnext ⊢
    by_cases hallows : command.allows parser.direction byte.toNat = true
    · rw [if_pos hallows] at hnext ⊢
      have hpush : (parser.push byte .haveLength).buffer =
          [startByte, startByte, command.byte, byte] ++ [] := by
        rw [buffer_push, hbuffer]
        rfl
      have hmax := Command.le_maxPayload_of_allows hallows
      rw [hnext.outstanding_payload [] (.inl rfl) hpush, List.length_nil]
      simp only [outstanding, hstage]
      omega
    · rw [if_neg hallows]
      exact Nat.zero_le _
  | haveLength =>
    exact h.outstanding_feed_payload byte [] (.inl hstage) hbuffer
  | accumulating => exact h.outstanding_feed_payload byte _ (.inr hstage) hbuffer

/-- As many bytes as the longest frame has behind its start marker are the most outstanding. -/
theorem Coherent.outstanding_le (h : parser.Coherent) : parser.outstanding ≤ maxPayload + 3 := by
  have hheld := h.held
  generalize hstage : parser.stage = stage at hheld
  generalize hbuffer : parser.buffer = bytes at hheld
  cases hheld with
  | haveLength hallows =>
    have hmax := Command.le_maxPayload_of_allows hallows
    rw [h.outstanding_payload [] (.inl hstage) hbuffer]
    omega
  | accumulating hallows =>
    have hmax := Command.le_maxPayload_of_allows hallows
    rw [h.outstanding_payload _ (.inr hstage) hbuffer]
    omega
  | _ => simp [outstanding, hstage]

/-- A parser with nothing outstanding waits for a frame. -/
theorem Coherent.eq_new_of_outstanding (h : parser.Coherent) (hzero : parser.outstanding = 0) :
    parser = new parser.direction := by
  refine h.eq_reset ?_
  have hheld := h.held
  generalize hstage : parser.stage = stage at hheld
  generalize hbuffer : parser.buffer = bytes at hheld
  cases hheld with
  | empty => rfl
  -- behind the header, the checksum at least is outstanding
  | haveLength =>
    rw [h.outstanding_payload [] (.inl hstage) hbuffer, List.length_nil] at hzero
    omega
  | accumulating _ _ hle =>
    rw [h.outstanding_payload _ (.inr hstage) hbuffer] at hzero
    omega
  | _ => simp [outstanding, hstage] at hzero

/-- After as many bytes as are outstanding, none of them a start byte, the parser waits for
a frame. -/
theorem Coherent.feedAll_outstanding (h : parser.Coherent) {bytes : List UInt8}
    (hbytes : startByte ∉ bytes) (hlength : parser.outstanding ≤ bytes.length) :
    (parser.feedAll bytes).2 = new parser.direction := by
  induction bytes generalizing parser with
  | nil => exact h.eq_new_of_outstanding (Nat.le_zero.1 hlength)
  | cons byte bytes ih =>
    obtain ⟨hbyte, hrest⟩ := List.ne_and_not_mem_of_not_mem_cons hbytes
    have hfeed := h.outstanding_feed (Ne.symm hbyte)
    rw [List.length_cons] at hlength
    rw [feedAll_cons, ih (coherent_feed h byte) hrest (by omega), direction_feed h byte]

end Outstanding

/-! ## Resynchronisation -/

/-- Whatever a parser has been fed and however often it was reset, an error leaves nothing in
flight, but for a start byte that was refused as a length. As long as no length byte has been taken,
the next valid frame is found with the last byte of its encoding, and only the first byte may bring
an error, which is a length refused behind a command. After 67 bytes, none of them a start byte, the
parser waits for a frame in any case, and finds the next one. -/
theorem run_resynchronises (direction : Direction) (inputs : List Input) :
    let parser := ((new direction).run inputs).2
    (∀ byte error, (parser.feed byte).1 = .error error →
      let next := (parser.feed byte).2
      let restarted := byte = startByte ∧ ∃ command, error = .badLength command byte
      restarted ∧ next.stage = .oneStart ∧ next.buffer = [startByte] ∨
        ¬ restarted ∧ next = new direction) ∧
    (parser.stage.isAnnounced = false → ∀ frame : Frame, frame.ValidFor direction →
      ∃ first, parser.feedAll frame.encode =
          (first :: silence (frame.encode.length - 2) ++ [.ok (some frame)], new direction) ∧
        (parser.stage ≠ .haveCommand ∧ first = .ok none ∨
          parser.stage = .haveCommand ∧
            ∃ command, first = .error (.badLength command startByte))) ∧
    ∀ bytes : List UInt8, 67 ≤ bytes.length → startByte ∉ bytes →
      (parser.feedAll bytes).2 = new direction ∧
      ∀ frame : Frame, frame.ValidFor direction → parser.feedAll (bytes ++ frame.encode) =
        ((parser.feedAll bytes).1 ++ silence (frame.encode.length - 1) ++ [.ok (some frame)],
          new direction) := by
  intro parser
  obtain ⟨_, _, htracks⟩ := tracks_run direction inputs
  -- whatever the parser was fed, it is coherent and has kept its direction
  have hcoherent : parser.Coherent := htracks.coherent
  have hdirection : parser.direction = direction := htracks.direction_eq
  refine ⟨fun byte error herror => ?_, fun hannounced frame hvalid => ?_,
    fun bytes hlength hbytes => ?_⟩
  -- after an error the parser is new, or has restarted with the byte
  · have hstep := feed_transition hcoherent byte
    rw [herror] at hstep
    rcases hstep.next_of_error with ⟨hrestarted, hnext⟩ | ⟨hrestarted, hnext⟩
    · rw [hnext]
      exact .inl ⟨hrestarted, rfl, rfl⟩
    · rw [hnext, hdirection]
      exact .inr ⟨hrestarted, rfl⟩
  -- before a length is taken, the start marker of the next frame starts afresh
  · obtain ⟨first, hfeed, hfirst⟩ :=
      hcoherent.feedAll_encode hannounced (hdirection.symm ▸ hvalid)
    refine ⟨first, ?_, hfirst⟩
    rw [hfeed, tail_announcement, hdirection]
    rfl
  -- the bytes are as many as can be outstanding, so nothing is in flight behind them
  · have hnext : (parser.feedAll bytes).2 = new direction := by
      rw [← hdirection]
      exact hcoherent.feedAll_outstanding hbytes (Nat.le_trans hcoherent.outstanding_le hlength)
    refine ⟨hnext, fun frame hvalid => ?_⟩
    have hframe : (new direction).feedAll frame.encode = (announcement frame, new direction) :=
      Parser.feedAll_encode hvalid 0
    rw [feedAll_append, hnext, hframe, announcement, List.append_assoc]

/-- One byte less does not do: with a start marker before them, 66 bytes leave the checksum of the
longest frame outstanding. -/
example :
    let bytes (command : Command) := command.byte :: 64 :: List.replicate 64 0
    ∀ longest ∈ [(Command.calWriteMemory, Direction.request), (.readMemory, .response)],
      (bytes longest.1).length = 66 ∧ startByte ∉ bytes longest.1 ∧
        ((started longest.2 2).feedAll (bytes longest.1)).2.stage = .accumulating := by
  decide +kernel

end Parser

end Multimeter.Frame
