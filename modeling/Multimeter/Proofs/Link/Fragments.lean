import Multimeter.Proofs.Link.Resumption
import Multimeter.Proofs.Parser.Resynchronisation
/-!
# Answers in fragments

Bytes of an answer may arrive at several looks, with pauses between them, and behind noise. The
parser keeps what it has of a frame from one look to the next, so only the bytes matter, not how
they are cut: the look that finds the last byte of the answer ends the wait.

* `Completes`: a search that takes all of some bytes and has a frame with the last of them.
* `Arrives`: the pieces that the next looks find, some of which may be empty.
* `Reachable`: what can be made of a link.
* `request_fragmented`: how a request ends whose answer arrives in pieces, and what it takes.
-/

namespace Multimeter

namespace Frame.Parser

variable {parser next : Parser} {frame : Frame}

/-- A search that takes all `bytes` has `frame` with the last of them, and leaves `next`. -/
structure Completes (parser : Parser) (bytes : List UInt8) (frame : Frame) (next : Parser) :
    Prop where
  /-- The frame is found. -/
  found_eq : (parser.scan bytes).found = .ok (some frame)
  /-- No bytes are left over. -/
  rest_eq : (parser.scan bytes).rest = []
  /-- The parser is left as `next`. -/
  parser_eq : (parser.scan bytes).parser = next

/-- Bytes complete a frame if the search finds it with the last of them. -/
theorem completes_of_scan {bytes : List UInt8} {dropped : List FrameError}
    (h : parser.scan bytes = { parser := next, rest := [], dropped, found := .ok (some frame) }) :
    parser.Completes bytes frame next :=
  ⟨congrArg Scan.found h, congrArg Scan.rest h, congrArg Scan.parser h⟩

/-- Bytes that are not all there bring no frame, and the others complete it. -/
theorem Completes.of_append {xs ys : List UInt8} (h : parser.Completes (xs ++ ys) frame next)
    (hys : ys ≠ []) :
    (parser.scan xs).found = .ok none ∧ (parser.scan xs).parser.Completes ys frame next := by
  obtain ⟨hfound, hrest, hparser⟩ := h
  rw [scan_append] at hfound hrest hparser
  by_cases hnone : (parser.scan xs).found = .ok none
  · simp only [hnone] at hfound hrest hparser
    exact ⟨hnone, hfound, hrest, hparser⟩
  -- what ends a search earlier leaves the other bytes over
  · simp only at hrest
    exact absurd (List.append_eq_nil_iff.1 hrest).2 hys

/-- The stages and the noise behind which the next frame is found. -/
def Begins (stage : Stage) (noise : List UInt8) : Prop :=
  stage = .empty ∧ ¬ [startByte, startByte] <:+: noise ∨
    stage ∈ [.oneStart, .twoStarts, .haveCommand] ∧ noise = []

instance (stage : Stage) (noise : List UInt8) : Decidable (Begins stage noise) :=
  inferInstanceAs (Decidable (_ ∨ _))

/-- Behind noise without a start marker, or behind what is held of a frame without its length, a
valid frame is there with its last byte. -/
theorem Coherent.completes (h : parser.Coherent) (hvalid : frame.ValidFor parser.direction)
    {noise : List UInt8} (hbegins : Begins parser.stage noise) :
    parser.Completes (noise ++ frame.encode) frame (new parser.direction) := by
  rcases hbegins with ⟨hempty, hnoise⟩ | ⟨hstage, rfl⟩
  · have hgap : Gap noise := ⟨noise, 0, (List.append_nil _).symm, hnoise⟩
    obtain ⟨starts, hstarts⟩ := feedAll_gap parser.direction hgap
    have hreset : parser = new parser.direction := h.eq_reset hempty
    rw [← hreset] at hstarts
    have hscan := scan_append parser noise frame.encode
    simp only [scan_of_silence hstarts, scan_started hvalid] at hscan
    exact completes_of_scan hscan
  · have hannounced : ∀ stage ∈ [Stage.oneStart, .twoStarts, .haveCommand],
        stage.isAnnounced = false := by decide
    obtain ⟨dropped, hscan⟩ := h.exists_scan_encode (hannounced _ hstage) hvalid
    exact completes_of_scan hscan

end Frame.Parser

/-- Lists that do not end in an empty one hold something. -/
theorem flatten_ne_nil {α : Type} {lists : List (List α)} (h : lists ≠ [])
    (hlast : lists.getLast? ≠ some []) : lists.flatten ≠ [] := by
  intro hflatten
  rw [List.getLast?_eq_some_getLast h] at hlast
  exact hlast (congrArg some (List.flatten_eq_nil_iff.1 hflatten _ (List.getLast_mem h)))

/-- What was done in a history, without what was logged. -/
def unlogged (history : List Event) : List Event :=
  history.filter fun event => event.entry?.isNone

@[simp]
theorem unlogged_append (xs ys : List Event) : unlogged (xs ++ ys) = unlogged xs ++ unlogged ys :=
  List.filter_append _ _

/-- Log entries apart, as many events of a kind are left. -/
theorem countP_unlogged {kind : Event → Bool} (h : ∀ entry, kind (.logged entry) = false)
    (history : List Event) : (unlogged history).countP kind = history.countP kind := by
  rw [unlogged, List.countP_filter]
  refine List.countP_congr fun event _ => ?_
  cases event <;> simp [Event.entry?, h]

namespace Link

open Act

variable {ω : Type}

/-- Reads with these results, and a pause between each two of them. -/
def spaced (interval : UInt32) : (results : List ReadResult) → List Event
  | [] => []
  | [result] => [.read .never result]
  | result :: results => .read .never result :: .paused interval :: spaced interval results

/-- Before each look but the first one there is a pause. -/
theorem spaced_cons {interval : UInt32} {result : ReadResult} {results : List ReadResult}
    (h : results ≠ []) :
    spaced interval (result :: results) =
      .read .never result :: .paused interval :: spaced interval results := by
  rw [spaced]
  exact h

/-- There is one pause less than there are reads. -/
theorem countP_spaced (interval : UInt32) (results : List ReadResult) :
    (spaced interval results).countP Event.isWrite = 0 ∧
      (spaced interval results).countP Event.isRead = results.length ∧
      (spaced interval results).countP Event.isPause = results.length - 1 := by
  fun_induction spaced interval results with
  | case1 => exact ⟨rfl, rfl, rfl⟩
  | case2 => exact ⟨rfl, rfl, rfl⟩
  | case3 result results hresults ih =>
    obtain ⟨hwrites, hreads, hpauses⟩ := ih
    have hpos : 0 < results.length := List.length_pos_iff.2 hresults
    refine ⟨?_, ?_, ?_⟩
    · rw [List.countP_cons_of_neg Bool.false_ne_true, List.countP_cons_of_neg Bool.false_ne_true,
        hwrites]
    · rw [List.countP_cons_of_pos rfl, List.countP_cons_of_neg Bool.false_ne_true, hreads,
        List.length_cons]
    · rw [List.countP_cons_of_neg Bool.false_ne_true, List.countP_cons_of_pos rfl, hpauses,
        List.length_cons]
      omega

/-- Looks that find the pieces, with a pause between each two of them. -/
def looks (interval : UInt32) : List (List UInt8) → List Event
  | [] => []
  | [piece] => [.read .never (.ok piece)]
  | piece :: pieces => .read .never (.ok piece) :: .paused interval :: looks interval pieces

/-- What is done when a frame is written and the looks for an answer find the pieces. -/
def exchange (config : Config) (sent : Frame) (pieces : List (List UInt8)) : List Event :=
  .wrote config.writeTimeout sent.encode (.ok sent.encode.length) ::
    looks config.pollInterval pieces

/-- Looks that find pieces are reads that succeed. -/
theorem looks_eq_spaced (interval : UInt32) (pieces : List (List UInt8)) :
    looks interval pieces = spaced interval (pieces.map .ok) := by
  fun_induction looks interval pieces with
  | case1 | case2 => rfl
  | case3 piece pieces hpieces ih =>
    rw [List.map_cons, spaced_cons (mt List.map_eq_nil_iff.1 hpieces), ih]

/-- The looks for some pieces are the look for the first one, a pause, and those for the others. -/
theorem looks_cons {interval : UInt32} {piece : List UInt8} {pieces : List (List UInt8)}
    (h : pieces ≠ []) :
    looks interval (piece :: pieces) =
      [.read .never (.ok piece)] ++ [.paused interval] ++ looks interval pieces := by
  rw [looks]
  · rfl
  · exact h

/-- An exchange with an answer in pieces has one write, a read for each piece, and a pause between
each two reads. -/
theorem countP_exchange (config : Config) (sent : Frame) (pieces : List (List UInt8)) :
    (exchange config sent pieces).countP Event.isWrite = 1 ∧
      (exchange config sent pieces).countP Event.isRead = pieces.length ∧
      (exchange config sent pieces).countP Event.isPause = pieces.length - 1 := by
  obtain ⟨hwrites, hreads, hpauses⟩ := countP_spaced config.pollInterval (pieces.map .ok)
  rw [← looks_eq_spaced] at hwrites hreads hpauses
  rw [List.length_map] at hreads hpauses
  refine ⟨?_, ?_, ?_⟩
  · rw [exchange, List.countP_cons_of_pos rfl, hwrites]
  · rw [exchange, List.countP_cons_of_neg Bool.false_ne_true, hreads]
  · rw [exchange, List.countP_cons_of_neg Bool.false_ne_true, hpauses]

/-- A search does nothing but log. -/
theorem unlogged_search (link : Link ω) : unlogged (search.run link).events = [] := by
  refine List.filter_eq_nil_iff.2 fun event hmem => ?_
  obtain ⟨entry, rfl⟩ := exists_entry_of_mem_search hmem
  exact Bool.false_ne_true

variable [Wire ω]

/-- What can be made of a link. -/
inductive Reachable : Link ω → Prop
  /-- A new link. -/
  | new (wire : ω) (config : Config) : Reachable (Link.new wire config)
  /-- What a step of a caller has left, whatever it came to. -/
  | step {link : Link ω} (h : Reachable link) (step : Step) : Reachable (step.act.run link).state
  /-- Whatever happens on the line between two steps. -/
  | rewired {link : Link ω} (h : Reachable link) (wire : ω) : Reachable { link with wire }

/-- A link that was reached by its operations listens for answers. -/
theorem Reachable.listening {link : Link ω} (h : Reachable link) : Listening link [] := by
  induction h with
  | new wire config => exact listening_new wire config []
  | step _ step ih =>
    obtain ⟨hcoherent, hdirection⟩ := keeps_act_listening step _ _ ih
    exact ⟨hcoherent, hdirection⟩
  | rewired _ _ ih => exact ⟨ih.coherent, ih.direction_eq⟩

/-- The next looks find the pieces, one each. -/
def Arrives : List (List UInt8) → ω → Prop
  | [], _ => True
  | piece :: pieces, wire =>
    (Wire.read .never readSize wire).1 = .ok piece ∧
      Arrives pieces (Wire.read .never readSize wire).2

/-- The parser has `parser` of a frame, nothing is left over, the next looks find `pieces`, and
`done` has been done. -/
structure Receiving (config : Config) (parser : Frame.Parser) (pieces : List (List UInt8))
    (done : List Event) (link : Link ω) (history : List Event) : Prop where
  /-- Timing does not change. -/
  config_eq : link.config = config
  /-- The frame in flight. -/
  parser_eq : link.parser = parser
  /-- Nothing is left over. -/
  buffered_eq : link.buffered = 0
  /-- The next looks find the pieces. -/
  arrives : Arrives pieces link.wire
  /-- Apart from logging, `done` is what has been done. -/
  unlogged_eq : unlogged history = done

variable {config : Config} {parser next : Frame.Parser} {piece : List UInt8}
  {pieces : List (List UInt8)} {done : List Event} {answer : Frame}

/-- A look takes the next piece, if the parser takes all of it. -/
theorem receive_receiving {found : Option Frame} (hfound : (parser.scan piece).found = .ok found)
    (hrest : (parser.scan piece).rest = []) :
    Ensures (Receiving config parser (piece :: pieces) done) (receive (ω := ω) false)
      (Returns found (Receiving config (parser.scan piece).parser pieces
        (done ++ [.read .never (.ok piece)]))) := by
  intro link history h
  obtain ⟨hpiece, hpieces⟩ := h.arrives
  rw [← h.parser_eq] at hfound hrest ⊢
  have hbuffered := buffered_search_filled hpiece hrest
  rw [← scan_filled hpiece] at hfound ⊢
  rw [run_receive hpiece (rest_eq_nil h.buffered_eq)]
  refine ⟨ending_search hfound, h.config_eq, rfl, hbuffered, hpieces, ?_⟩
  rw [unlogged_append, h.unlogged_eq]
  exact congrArg (done ++ .read .never (.ok piece) :: ·) (unlogged_search (link.filled piece))

/-- A pause between two pieces leaves the frame in flight as it is. -/
theorem pause_receiving :
    Ensures (Receiving config parser pieces done) (pause (ω := ω))
      (Returns () (Receiving config parser pieces (done ++ [.paused config.pollInterval]))) := by
  intro link history h
  refine ⟨rfl, h.config_eq, h.parser_eq, h.buffered_eq, h.arrives, ?_⟩
  rw [unlogged_append, h.unlogged_eq, ← h.config_eq]
  rfl

/-- The look that finds the last byte of a frame ends the wait, and there is a pause before each but
the first. -/
theorem await_receiving {cycles : Nat} (hcompletes : parser.Completes pieces.flatten answer next)
    (hlast : pieces.getLast? ≠ some []) (hcycles : pieces.length ≤ cycles) :
    Ensures (Receiving config parser pieces done) (await (ω := ω) cycles)
      (Returns (some answer) (Receiving config next []
        (done ++ looks config.pollInterval pieces))) := by
  induction pieces generalizing parser done cycles with
  | nil => exact nomatch hcompletes.found_eq
  | cons piece pieces ih =>
    obtain ⟨cycles, rfl⟩ := Nat.exists_eq_succ_of_ne_zero (Nat.ne_of_gt (Nat.zero_lt_of_lt hcycles))
    rw [List.flatten_cons] at hcompletes
    by_cases hpieces : pieces = []
    -- the last piece completes the frame
    · subst hpieces
      rw [List.flatten_nil, List.append_nil] at hcompletes
      obtain ⟨hfound, hrest, rfl⟩ := hcompletes
      exact (receive_receiving hfound hrest).returns_bind (returns_pure fun _ _ h => h)
    -- any other piece brings nothing, for there are bytes behind it
    · have hlater : pieces.getLast? ≠ some [] := by
        rwa [← List.getLast?_cons_of_ne_nil (x := piece) hpieces]
      have hpos : 0 < pieces.length := List.length_pos_iff.2 hpieces
      have hcycles : pieces.length ≤ cycles := Nat.le_of_succ_le_succ hcycles
      obtain ⟨hnone, hcompletes⟩ := hcompletes.of_append (flatten_ne_nil hpieces hlater)
      refine (receive_receiving hnone (Frame.Parser.scan_rest_eq_nil hnone)).returns_bind ?_
      show Ensures _ (if cycles = 0 then Pure.pure none else pause >>= fun _ => await cycles) _
      rw [if_neg (Nat.ne_of_gt (Nat.lt_of_lt_of_le hpos hcycles)), looks_cons hpieces,
        ← List.append_assoc, ← List.append_assoc]
      exact pause_receiving.returns_bind (ih hcompletes hlater hcycles)

/-! ## Requests -/

/-- The wire accepts `sent`, and then `Receiving` holds. -/
structure Offering (config : Config) (sent : Frame) (parser : Frame.Parser)
    (pieces : List (List UInt8)) (link : Link ω) (history : List Event) : Prop where
  /-- The frame gets across. -/
  accepted : (Wire.write sent.encode link.config.writeTimeout link.wire).1 = .ok sent.encode.length
  /-- The answer comes behind it. -/
  receiving : Receiving config parser pieces []
    { link with wire := (Wire.write sent.encode link.config.writeTimeout link.wire).2 } history

variable {sent : Frame}

/-- A frame that gets across is written once. -/
theorem send_offering :
    Ensures (Offering config sent parser pieces) (send (ω := ω) sent)
      (Returns () (Receiving config parser pieces
        [.wrote config.writeTimeout sent.encode (.ok sent.encode.length)])) := by
  rintro link history ⟨haccepted, h⟩
  rw [run_send haccepted]
  refine ⟨rfl, h.config_eq, h.parser_eq, h.buffered_eq, h.arrives, ?_⟩
  rw [unlogged_append, h.unlogged_eq, ← h.config_eq]
  rfl

omit [Wire ω] in
/-- What follows knows the timing. -/
theorem ensures_get_of_config {β : Type} {pre : Link ω → List Event → Prop}
    {second : Link ω → Act (Link ω) β} {post : Ending β → Link ω → List Event → Prop}
    (hconfig : ∀ link history, pre link history → link.config = config)
    (h : ∀ link, link.config = config → Ensures pre (second link) post) :
    Ensures pre (get >>= second) post := by
  refine ensures_get_bind fun link => ?_
  rintro _ history ⟨hstate, rfl⟩
  exact h _ (hconfig _ history hstate) _ history hstate

/-- The frame that the parser completes with the last of the pieces is the answer. -/
theorem sendReceive_offering {timeout : UInt32}
    (hcompletes : parser.Completes pieces.flatten answer next)
    (hlast : pieces.getLast? ≠ some []) (hcycles : pieces.length ≤ config.cycles timeout) :
    Ensures (Offering config sent parser pieces) (sendReceive (ω := ω) sent timeout)
      (Returns answer (Receiving config next [] (exchange config sent pieces))) := by
  refine send_offering.returns_bind (ensures_get_of_config (fun _ _ h => h.config_eq) ?_)
  intro link hconfig
  rw [hconfig]
  exact (await_receiving hcompletes hlast hcycles).returns_bind (returns_pure fun _ _ h => h)

/-- A request ends with the answer that arrives in pieces. -/
theorem request_offering {asked : Request} (hsent : asked.toFrame = .ok sent)
    (hcompletes : parser.Completes pieces.flatten answer next)
    (hlast : pieces.getLast? ≠ some []) (hcycles : pieces.length ≤ config.budget) :
    Ensures (Offering config sent parser pieces) (request (ω := ω) asked)
      fun ending link history => ending = asked.settled (some answer) ∧
        Receiving config next [] (exchange config sent pieces) link history := by
  rw [request, hsent]
  show Ensures _ (get >>= fun link => sendReceive sent link.config.receiveTimeout >>=
    fun answer => interpret asked answer) _
  refine ensures_get_of_config (fun _ _ h => h.receiving.config_eq) fun link hconfig => ?_
  rw [hconfig]
  refine (sendReceive_offering hcompletes hlast hcycles).returns_bind ?_
  exact ((interpret_settled asked answer).and (keeps_interpret asked answer)).weaken
    (fun _ _ h => ⟨h, h⟩) fun _ _ _ h => h

/-- After a frame gets across, the bytes of the answer arrive in pieces, the last of them with the
last of the pieces. -/
structure Fragmented (link : Link ω) (sent : Frame) (bytes : List UInt8)
    (pieces : List (List UInt8)) : Prop where
  /-- The frame gets across. -/
  accepted : (Wire.write sent.encode link.config.writeTimeout link.wire).1 = .ok sent.encode.length
  /-- The next looks find the pieces. -/
  arrives : Arrives pieces (Wire.write sent.encode link.config.writeTimeout link.wire).2
  /-- The pieces make up the bytes. -/
  flatten_eq : pieces.flatten = bytes
  /-- The last piece has the last byte. -/
  getLast?_ne : pieces.getLast? ≠ some []

/-- Whatever was done with a link before, if no bytes are left over and a request gets across, then
its answer may arrive in as many pieces as there are looks for it, some of them empty, and behind
noise without a start marker if no frame is in flight. What is left of an earlier frame does no harm
as long as its length is not known. The request ends with the answer after one write and one look
for each piece, with a pause between two looks, and nothing is left over. -/
theorem request_fragmented {link : Link ω} (hlink : Reachable link) {asked : Request}
    {sent answer : Frame} (hsent : asked.toFrame = .ok sent) (hvalid : answer.ValidFor .response)
    {noise : List UInt8} {pieces : List (List UInt8)} (hbuffered : link.buffered = 0)
    (hbegins : Frame.Parser.Begins link.parser.stage noise)
    (hfragmented : Fragmented link sent (noise ++ answer.encode) pieces)
    (hbudget : pieces.length ≤ link.config.budget) :
    let outcome := (request asked).run link
    outcome.ending = asked.settled (some answer) ∧
      outcome.events.countP Event.isWrite = 1 ∧
      outcome.events.countP Event.isRead = pieces.length ∧
      outcome.events.countP Event.isPause = pieces.length - 1 ∧
      outcome.state.parser = .new .response ∧ outcome.state.buffered = 0 := by
  intro outcome
  obtain ⟨hcoherent, hdirection⟩ := hlink.listening
  have hcompletes := hcoherent.completes (hdirection ▸ hvalid) hbegins
  rw [hdirection, ← hfragmented.flatten_eq] at hcompletes
  obtain ⟨hending, h⟩ := request_offering hsent hcompletes hfragmented.getLast?_ne hbudget link []
    ⟨hfragmented.accepted, rfl, rfl, hbuffered, hfragmented.arrives, rfl⟩
  obtain ⟨hwrites, hreads, hpauses⟩ := countP_exchange link.config sent pieces
  rw [← h.unlogged_eq, List.nil_append, countP_unlogged fun _ => rfl] at hwrites hreads hpauses
  exact ⟨hending, hwrites, hreads, hpauses, h.parser_eq, h.buffered_eq⟩

/-- A script that holds the pieces delivers them. -/
theorem arrives_of_segments {wire : ScriptedWire} (hsegments : wire.segments = pieces.map .bytes)
    (hchunk : wire.chunk = 0) (hlength : ∀ piece ∈ pieces, piece.length ≤ readSize) :
    Arrives pieces wire := by
  induction pieces generalizing wire with
  | nil => trivial
  | cons piece pieces ih =>
    obtain ⟨hpiece, hpieces⟩ := List.forall_mem_cons.1 hlength
    have hread : Wire.read .never readSize wire =
        (.ok piece, { wire with segments := pieces.map .bytes }) := by
      show ScriptedWire.read readSize wire = _
      simp [ScriptedWire.read, hsegments, ScriptedWire.limit, hchunk, hpiece,
        List.take_of_length_le hpiece]
    rw [Arrives, hread]
    exact ⟨rfl, ih rfl hchunk hpieces⟩

/-- Noise that ends in a start byte, and cuts in the start marker and in the payload. -/
theorem request_fragmented_behind_noise :
    let sent := Frame.empty .readBatteryLife
    let answer : Frame := ⟨.readBatteryLife, ⟨[1, 2, 3, 4], by decide⟩⟩
    let bytes := [0x12, 0x55, 0x07, 0x55] ++ answer.encode
    let pieces : List (List UInt8) :=
      [[0x12, 0x55, 0x07, 0x55, 0x55], [], [0x55, 0x04, 0x04, 0x01], [0x02, 0x03, 0x04, 0xbc]]
    let wire : ScriptedWire := { replies := [[.bytes [0x55, 0x12]], pieces.map .bytes] }
    let link := ((Step.call (.request .readBatteryLife)).act.run (Link.new wire {})).state
    let outcome := (request .readBatteryLife).run link
    Reachable link ∧ link.parser.stage = .empty ∧ Request.readBatteryLife.toFrame = .ok sent ∧
      answer.ValidFor .response ∧ Fragmented link sent bytes pieces ∧
      outcome.ending = .returned (.batteryLife #v[1, 2, 3, 4]) ∧
      outcome.events.countP Event.isRead = 4 ∧ outcome.events.countP Event.isPause = 3 ∧
      outcome.state.buffered = 0 := by
  intro sent answer bytes pieces wire link outcome
  have hlink : Reachable link := .step (.new wire {}) _
  have hsent : Request.readBatteryLife.toFrame = .ok sent := rfl
  have hfragmented : Fragmented link sent bytes pieces := by
    refine ⟨?_, arrives_of_segments ?_ ?_ ?_, ?_, ?_⟩
    all_goals decide +kernel
  obtain ⟨hending, -, hreads, hpauses, -, hbuffered⟩ := request_fragmented hlink hsent
    (by decide) (by decide +kernel) (by decide +kernel) hfragmented (by decide +kernel)
  exact ⟨hlink, by decide +kernel, hsent, by decide, hfragmented, hending, hreads, hpauses,
    hbuffered⟩

end Link

end Multimeter
