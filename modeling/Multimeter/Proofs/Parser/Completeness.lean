import Multimeter.Proofs.Parser.Transition
/-!
# Completeness of the frame parser

Valid frames are found between noise. The noise may hold single start bytes and may end in a run of
them, which then merges with the start marker of the next frame; the frames may carry start bytes
and whole headers in their payloads, and may touch.

* `Gap`: the noise that the parser passes over without an error.
* `started direction n`: a parser that has seen `n` start bytes in a row. This is all that is left
  of a gap (`feedAll_gap`), and from there a frame is always found (`feedAll_encode`).
* `feedAll_stream`: frames between gaps are found in order, each with the last byte of its encoding,
  and nothing else is reported.
-/

namespace Multimeter.Frame.Parser

variable {direction : Direction}

/-- The verdicts on `count` bytes that bring nothing. -/
def silence (count : Nat) : List Verdict := List.replicate count (.ok none)

theorem silence_succ (count : Nat) : silence (count + 1) = .ok none :: silence count :=
  List.replicate_succ

theorem silence_append (m n : Nat) : silence m ++ silence n = silence (m + n) :=
  List.replicate_append_replicate

/-- The verdicts on the encoding of a frame: the frame is there with the last byte. -/
def announcement (frame : Frame) : List Verdict :=
  silence (frame.encode.length - 1) ++ [.ok (some frame)]

/-! ## Gaps -/

/-- Noise that is no start marker, and then any number of start bytes. -/
def Gap (bytes : List UInt8) : Prop :=
  ∃ (noise : List UInt8) (starts : Nat), bytes = noise ++ List.replicate starts startByte ∧
    ¬ [startByte, startByte] <:+: noise

/-- A parser that has seen some start bytes in a row; the last two of them count. -/
def started (direction : Direction) : (starts : Nat) → Parser
  | 0 => new direction
  | 1 => (new direction).push startByte .oneStart
  | _ => ((new direction).push startByte .oneStart).push startByte .twoStarts

/-- One more start byte brings nothing, and no more than two of them are held. -/
theorem feed_started_startByte (direction : Direction) (starts : Nat) :
    (started direction starts).feed startByte = (.ok none, started direction (starts + 1)) :=
  match starts with
  | 0 => rfl
  | 1 => rfl
  | _ + 2 => rfl

/-- Any other byte ends a run of at most one start byte. -/
theorem feed_started_of_ne {starts : Nat} (hstarts : starts ≤ 1) {byte : UInt8}
    (hbyte : byte ≠ startByte) :
    (started direction starts).feed byte = (.ok none, new direction) := by
  obtain rfl | rfl : starts = 0 ∨ starts = 1 := by omega
  · rw [started, feed_empty (coherent_new direction) byte rfl, if_neg hbyte]
    rfl
  · rw [started, feed_oneStart ((coherent_new direction).push .oneStart) byte rfl rfl, if_neg hbyte]
    rfl

/-- Start bytes one after the other bring nothing. -/
theorem feedAll_replicate_startByte (direction : Direction) (starts count : Nat) :
    (started direction starts).feedAll (List.replicate count startByte) =
      (silence count, started direction (starts + count)) := by
  induction count generalizing starts with
  | zero => rfl
  | succ count ih =>
    rw [List.replicate_succ, feedAll_cons, feed_started_startByte, ih, silence_succ,
      Nat.add_assoc, Nat.add_comm 1 count]

/-- Noise brings nothing and leaves at most one start byte. -/
theorem feedAll_noise (direction : Direction) {starts : Nat} (hstarts : starts ≤ 1)
    {noise : List UInt8}
    (hnoise : ¬ [startByte, startByte] <:+: noise)
    (hhead : starts = 1 → noise.head? ≠ some startByte) :
    ∃ left ≤ 1, (started direction starts).feedAll noise =
      (silence noise.length, started direction left) := by
  -- the state between two bytes is a run of at most one start byte, and if there is one, no other
  -- follows it
  induction noise generalizing starts with
  | nil => exact ⟨starts, hstarts, rfl⟩
  | cons byte noise ih =>
    obtain ⟨hstart, hinfix⟩ := not_or.1 (mt List.infix_cons_iff.2 hnoise)
    by_cases hbyte : byte = startByte
    -- two start bytes in a row would be a start marker
    · have hzero : starts = 0 :=
        Nat.eq_zero_of_not_pos fun hpos => hhead (by omega) (by rw [hbyte]; rfl)
      have hnext : noise.head? ≠ some startByte := by
        intro heq
        obtain ⟨tail, rfl⟩ := List.head?_eq_some_iff.1 heq
        exact hstart (by rw [hbyte]; exact ⟨tail, rfl⟩)
      obtain ⟨left, hleft, heq⟩ := ih (Nat.le_refl 1) hinfix fun _ => hnext
      refine ⟨left, hleft, ?_⟩
      rw [feedAll_cons, hbyte, feed_started_startByte, hzero, heq]
      rfl
    · obtain ⟨left, hleft, heq⟩ := ih (Nat.zero_le 1) hinfix nofun
      refine ⟨left, hleft, ?_⟩
      rw [feedAll_cons, feed_started_of_ne hstarts hbyte]
      rw [started] at heq
      rw [heq]
      rfl

/-- A gap brings nothing and leaves a run of start bytes. -/
theorem feedAll_gap (direction : Direction) {gap : List UInt8} (h : Gap gap) :
    ∃ starts, (new direction).feedAll gap = (silence gap.length, started direction starts) := by
  obtain ⟨noise, count, rfl, hnoise⟩ := h
  obtain ⟨left, -, heq⟩ := feedAll_noise direction (Nat.zero_le 1) hnoise nofun
  rw [started] at heq
  refine ⟨left + count, ?_⟩
  rw [feedAll_append, heq, feedAll_replicate_startByte, silence_append, List.length_append,
    List.length_replicate]

/-! ## Frames -/

/-- After a run of start bytes, the header of a valid frame brings nothing and is held. -/
theorem feedAll_header {command : Command} {length : UInt8}
    (hallows : command.allows direction length.toNat = true) (starts : Nat) :
    ∃ next : Parser,
      (started direction starts).feedAll [startByte, startByte, command.byte, length] =
        (silence 4, next) ∧
      next.Coherent ∧ next.direction = direction ∧ next.stage = .haveLength ∧
      next.buffer = [startByte, startByte, command.byte, length] := by
  have hvalid := Command.validFor_of_allows hallows
  have htwo : (started direction 2).Coherent := ((coherent_new direction).push .oneStart).push
    .twoStarts
  -- the size rule allows the command and the length, in this order
  have hcommand := feed_twoStarts htwo command.byte rfl rfl
  rw [if_pos (by rw [Command.ofByte?_byte]; exact hvalid)] at hcommand
  have hthree := htwo.push (.haveCommand hvalid)
  have hlength := feed_haveCommand hthree length rfl rfl
  rw [if_pos (by exact hallows)] at hlength
  have hfour := hthree.push (.haveLength hallows)
  refine ⟨_, ?_, hfour, rfl, rfl, rfl⟩
  rw [feedAll_cons, feedAll_cons, feedAll_cons, feedAll_cons, feed_started_startByte,
    feed_started_startByte]
  -- a longer run of start bytes leaves what two of them leave
  rw [show started direction (starts + 1 + 1) = started direction 2 from rfl, hcommand, hlength]
  rfl

/-- Payload up to the announced length brings nothing and is held. -/
theorem feedAll_payload (held payload : List UInt8) {parser : Parser} (h : parser.Coherent)
    {command : Command} {length : UInt8}
    (hallows : command.allows parser.direction length.toNat = true)
    (hstage : parser.stage = .haveLength ∨ parser.stage = .accumulating)
    (hbuffer : parser.buffer = [startByte, startByte, command.byte, length] ++ held)
    (hlength : held.length + payload.length ≤ length.toNat) :
    ∃ next : Parser, parser.feedAll payload = (silence payload.length, next) ∧ next.Coherent ∧
      next.direction = parser.direction ∧
      (next.stage = .haveLength ∨ next.stage = .accumulating) ∧
      next.buffer = [startByte, startByte, command.byte, length] ++ (held ++ payload) := by
  -- the bytes held grow while the payload shrinks; together they are as long as announced
  induction payload generalizing parser held with
  | nil => exact ⟨parser, rfl, h, rfl, hstage, by rw [List.append_nil]; exact hbuffer⟩
  | cons byte payload ih =>
    have hlt : held.length < length.toNat := by
      rw [List.length_cons] at hlength
      omega
    have hfeed := feed_payload h byte hstage hbuffer
    rw [if_pos hlt] at hfeed
    have hpush : (parser.push byte .accumulating).buffer =
        [startByte, startByte, command.byte, length] ++ (held ++ [byte]) := by
      rw [buffer_push, hbuffer, List.append_assoc]
    have hcoherent : (parser.push byte .accumulating).Coherent := by
      refine h.push ?_
      rw [← buffer_push parser byte .accumulating, hpush]
      exact .accumulating hallows (by simp) (by rw [List.length_append]; exact hlt)
    obtain ⟨next, hnext, hrest⟩ := ih _ hcoherent hallows (.inr rfl) hpush (by
      rw [List.length_append, List.length_singleton]
      rw [List.length_cons] at hlength
      omega)
    refine ⟨next, ?_, ?_⟩
    · rw [feedAll_cons, hfeed, hnext]
      rfl
    · rwa [List.append_assoc, List.singleton_append] at hrest

/-- After a run of start bytes, all but the last byte of a valid frame is held. The next byte is
taken for the checksum. -/
theorem feedAll_body {frame : Frame} (h : frame.ValidFor direction) (starts : Nat) :
    ∃ next : Parser, (started direction starts).feedAll frame.body =
        (silence frame.body.length, next) ∧
      ∀ last, next.feed last =
        (if last = checksum frame.body then .ok (some frame)
          else .error (.checksumMismatch (checksum frame.body) last), new direction) := by
  have hannounced := frame.toNat_length
  -- the length byte is named, so that the header and the payload speak of the same one
  generalize hbyte : UInt8.ofNat frame.payload.length = length at hannounced
  have hallows : frame.command.allows direction length.toNat = true := by
    rw [hannounced]
    exact h
  obtain ⟨header, hheader, hcoherent, rfl, hstage, hbuffer⟩ := feedAll_header hallows starts
  obtain ⟨full, hfull, hcoherent', hdirection, hstage', hbuffer'⟩ :=
    feedAll_payload [] frame.payload.bytes hcoherent hallows (.inl hstage)
      (by rw [hbuffer, List.append_nil])
      (by rw [hannounced, List.length_nil, Nat.zero_add]; exact Nat.le_refl _)
  rw [List.nil_append] at hbuffer'
  have hbody : full.buffer = frame.body := by rw [hbuffer', body, hbyte]
  refine ⟨full, ?_, fun last => ?_⟩
  · rw [body, hbyte, feedAll_append, hheader, hfull, silence_append, List.length_append]
    rfl
  -- the payload is complete
  · have hfeed := feed_payload hcoherent' last hstage' hbuffer'
    rw [if_neg (by rw [hannounced]; exact Nat.lt_irrefl _), complete_eq hcoherent' _ hbody, hbody,
      Parser.reset, hdirection] at hfeed
    exact hfeed

/-- After a run of start bytes, the encoding of a valid frame brings the frame with its
last byte. -/
theorem feedAll_encode {frame : Frame} (h : frame.ValidFor direction) (starts : Nat) :
    (started direction starts).feedAll frame.encode = (announcement frame, new direction) := by
  obtain ⟨next, hbody, hlast⟩ := feedAll_body h starts
  rw [encode, feedAll_append, hbody, feedAll_cons, hlast, if_pos rfl, announcement, encode,
    List.length_append, List.length_singleton, Nat.add_sub_cancel]
  rfl

/-- Bytes that bring nothing are taken by a search. -/
theorem scan_of_silence {parser next : Parser} {bytes : List UInt8}
    (h : parser.feedAll bytes = (silence bytes.length, next)) :
    parser.scan bytes = { parser := next, rest := [], dropped := [], found := .ok none } := by
  induction bytes generalizing parser with
  | nil =>
    injection h with _ hparser
    rw [scan, hparser]
  | cons byte bytes ih =>
    rw [feedAll_cons, List.length_cons, silence_succ] at h
    injection h with hverdicts hparser
    obtain ⟨hfirst, hrest⟩ := List.cons.inj hverdicts
    have hfeed : parser.feed byte = (.ok none, (parser.feed byte).2) := Prod.ext hfirst rfl
    rw [scan, hfeed]
    exact ih (Prod.ext hrest hparser)

/-- After a run of start bytes, a search in the encoding of a valid frame finds this frame, and it
takes every byte. -/
theorem scan_started {frame : Frame} (h : frame.ValidFor direction) (starts : Nat) :
    (started direction starts).scan frame.encode =
      { parser := new direction, rest := [], dropped := [], found := .ok (some frame) } := by
  obtain ⟨next, hbody, hlast⟩ := feedAll_body h starts
  have hfeed := hlast (checksum frame.body)
  rw [if_pos rfl] at hfeed
  simp only [encode, scan_append, scan_of_silence hbody, scan, hfeed, List.append_nil]

/-- In the encoding of a valid frame a search finds this frame, and it takes every byte. -/
theorem scan_encode {frame : Frame} (h : frame.ValidFor direction) :
    (new direction).scan frame.encode =
      { parser := new direction, rest := [], dropped := [], found := .ok (some frame) } :=
  scan_started h 0

/-! ## Streams -/

/-- Frames with the gap before each, as they stand on the line. -/
def stream (frames : List (List UInt8 × Frame)) : List UInt8 :=
  frames.flatMap fun (gap, frame) => gap ++ frame.encode

/-- The verdicts on frames with the gap before each: every frame is there with its last byte. -/
def findings (frames : List (List UInt8 × Frame)) : List Verdict :=
  frames.flatMap fun (gap, frame) => silence gap.length ++ announcement frame

/-- Frames behind gaps are found in order, and the parser is ready for the next one. -/
theorem feedAll_stream {frames : List (List UInt8 × Frame)}
    (h : ∀ entry ∈ frames, Gap entry.1 ∧ entry.2.ValidFor direction) :
    (new direction).feedAll (stream frames) = (findings frames, new direction) := by
  -- after each frame the parser is as new, so the next gap starts from nothing
  induction frames with
  | nil => rfl
  | cons entry frames ih =>
    obtain ⟨⟨hgap, hvalid⟩, hrest⟩ := List.forall_mem_cons.1 h
    obtain ⟨starts, hstarts⟩ := feedAll_gap direction hgap
    have hencode := feedAll_encode hvalid starts
    rw [stream, List.flatMap_cons, ← stream, feedAll_append, feedAll_append, hstarts, hencode,
      ih hrest, findings, findings, List.flatMap_cons]

/-- Valid frames between gaps are found in order, each with the last byte of its encoding, and no
other byte brings a frame or an error. -/
theorem feedAll_frames_between_gaps {frames : List (List UInt8 × Frame)} {last : List UInt8}
    (hframes : ∀ entry ∈ frames, Gap entry.1 ∧ entry.2.ValidFor direction) (hlast : Gap last) :
    ((new direction).feedAll (stream frames ++ last)).1 =
      findings frames ++ silence last.length := by
  obtain ⟨starts, hstarts⟩ := feedAll_gap direction hlast
  rw [feedAll_append, feedAll_stream hframes, hstarts]

/-- A gap that ends in a start byte, and a block of memory that looks like an acknowledgement. -/
theorem feedAll_frames_between_gaps_of_two :
    let block : Frame := ⟨.readMemory, ⟨[0x55, 0x55, 0x7f, 0x00, 0x29], by decide⟩⟩
    let frames := [([0x12, 0x55], Frame.empty .success), ([], block)]
    ((new .response).feedAll (stream frames ++ [0x55, 0x55, 0x55])).1 =
      findings frames ++ silence 3 := by
  intro block frames
  have hframes : ∀ entry ∈ frames, Gap entry.1 ∧ entry.2.ValidFor .response := by
    intro entry hmem
    rcases List.mem_cons.1 hmem with rfl | hmem
    · exact ⟨⟨[0x12], 1, rfl, by decide⟩, by decide⟩
    · rw [List.mem_singleton.1 hmem]
      exact ⟨⟨[], 0, rfl, by decide⟩, by decide⟩
  exact feedAll_frames_between_gaps hframes ⟨[], 3, rfl, by decide⟩

end Multimeter.Frame.Parser
