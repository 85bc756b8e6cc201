import Multimeter.Proofs.Act.Repeated
import Multimeter.Proofs.Link.Fragments
/-!
# What waiting for an answer costs

Waiting for an answer makes one look after the other, with a pause between two of them, until a
frame is there or the budget of looks is used up. Only the first look may find a frame among the
bytes at hand; a look that found nothing has used them up, so every later one reads.

* `delay`: how long a history pauses, all in all.
* `Barren`: no frame is completed from one link to another.
* `receive_looked`: one look for a frame.
* `await_waited`: what waiting for a frame does on the line.
* `sendReceive_budget`: the write, the reads and the pauses of an exchange of frames.
-/

namespace Multimeter

/-- How long an event pauses, in milliseconds. -/
def Event.delay : Event → Nat
  | paused milliseconds => milliseconds.toNat
  | _ => 0

/-- How long a history pauses, all in all. -/
def delay : (history : List Event) → Nat
  | [] => 0
  | event :: history => event.delay + delay history

/-- Log entries pause for no time. -/
theorem delay_unlogged (history : List Event) : delay (unlogged history) = delay history := by
  induction history with
  | nil => rfl
  | cons event history ih =>
    cases event with
    | logged entry => exact ih.trans (Nat.zero_add _).symm
    | _ => exact congrArg (Event.delay _ + ·) ih

/-- What only goes on from nothing does not go on from anything else. -/
theorem Act.run_bind_of_found {σ α : Type} {first : Act σ (Option α)}
    {second : Option α → Act σ (Option α)}
    (hfound : ∀ value, second (some value) = Pure.pure (some value))
    {state : σ} (h : (first.run state).ending ≠ .returned none) :
    (first >>= second).run state = first.run state := by
  cases hending : (first.run state).ending with
  | returned found =>
    cases found with
    | none => exact absurd hending h
    | some value => rw [run_bind_of_returned hending, hfound, run_pure, List.append_nil, ← hending]
  | failed error => rw [run_bind_of_failed hending, ← hending]
  | unfinished => rw [run_bind_of_unfinished hending, ← hending]

namespace Link

open Act Frame.Parser

/-- Between reads there is one pause less than there are reads. -/
theorem delay_spaced (interval : UInt32) (results : List ReadResult) :
    delay (spaced interval results) = (results.length - 1) * interval.toNat := by
  fun_induction spaced interval results with
  | case1 | case2 => exact (Nat.zero_mul _).symm
  | case3 result results hresults ih =>
    obtain ⟨count, hcount⟩ := Nat.exists_eq_add_one.2 (List.length_pos_iff.2 hresults)
    show 0 + (interval.toNat + delay (spaced interval results)) = _
    rw [ih, List.length_cons, hcount, Nat.zero_add, Nat.add_comm]
    exact (Nat.succ_mul count _).symm

variable {ω : Type}

/-- From one link to the other, the bytes at hand and then `bytes` are fed to the parser, which
completes no frame. -/
structure Barren (link : Link ω) (bytes : List UInt8) (link' : Link ω) : Prop where
  /-- No frame is completed. -/
  frames_eq : (link.parser.feedAll (link.rest ++ bytes)).1.filterMap Verdict.frame? = []
  /-- The parser has taken the bytes. -/
  parser_eq : (link.parser.feedAll (link.rest ++ bytes)).2 = link'.parser
  /-- No bytes are left over. -/
  rest_eq : link'.rest = []

/-- Looks that complete no frame, one after the other, complete none together. -/
theorem Barren.trans {first mid last : Link ω} {xs ys : List UInt8} (h : Barren first xs mid)
    (h' : Barren mid ys last) : Barren first (xs ++ ys) last := by
  have hframes := h'.frames_eq
  have hparser := h'.parser_eq
  rw [h.rest_eq, List.nil_append, ← h.parser_eq] at hframes hparser
  refine ⟨?_, ?_, h'.rest_eq⟩
  · rw [← List.append_assoc, feedAll_append, List.filterMap_append, h.frames_eq, List.nil_append]
    exact hframes
  · rw [← List.append_assoc, feedAll_append]
    exact hparser

/-- A search that finds nothing completes no frame. -/
theorem barren_search {link : Link ω} (h : (search.run link).ending = .returned none) :
    Barren link [] (search.run link).state := by
  obtain ⟨taken, htaken, hparser, hframes⟩ := scan_eq_feedAll link.parser link.rest
  have hrest := rest_search_eq_nil h
  rw [← rest_search, hrest, List.append_nil] at htaken
  rw [← frame?_search, h] at hframes
  refine ⟨?_, ?_, hrest⟩
  · rw [List.append_nil, htaken]
    exact hframes
  · rw [List.append_nil, htaken]
    exact hparser

variable [Wire ω]

/-! ## One look -/

/-- What a look for a frame does on the line. -/
structure Looked (link : Link ω) (results : List ReadResult)
    (outcome : Outcome (Link ω) (Option Frame)) : Prop where
  /-- A look does nothing on the line but read. -/
  unlogged_eq : unlogged outcome.events = spaced link.config.pollInterval results
  /-- A look reads once at most. -/
  length_le : results.length ≤ 1
  /-- Without bytes left over, a look reads. -/
  length_eq : link.rest = [] → results.length = 1
  /-- The settings of the link stay as they are. -/
  config_eq : outcome.state.config = link.config
  /-- If nothing was found, there was a read, and it completed no frame. -/
  missed : outcome.ending = .returned none →
    results.length = 1 ∧ Barren link (delivered outcome.events) outcome.state
  /-- A look does not time out. -/
  timely : outcome.ending ≠ .failed .timeout

omit [Wire ω] in
/-- A search does not time out. -/
theorem ending_search_ne_timeout (link : Link ω) : (search.run link).ending ≠ .failed .timeout := by
  simp only [search, Act.run]
  cases (link.parser.scan link.rest).found <;> simp

/-- A search that does not come to nothing is the whole look. -/
theorem run_receive_of_found {link : Link ω} (h : (search.run link).ending ≠ .returned none) :
    (receive false).run link = search.run link := by
  rw [receive]
  refine run_bind_of_found ?_ h
  exact fun _ => rfl

/-- Behind a search that finds nothing, a look goes on as if no bytes had been left over. -/
theorem run_receive_of_none {link : Link ω} (h : (search.run link).ending = .returned none) :
    (receive false).run link =
      let later := (receive false).run (search.run link).state
      { later with events := (search.run link).events ++ later.events } := by
  have hagain := run_search_of_nil (rest_search_eq_nil h)
  rw [receive, run_bind_of_returned h, run_bind_of_returned (congrArg Outcome.ending hagain),
    hagain]
  rfl

/-- Without bytes left over, a look makes one read, whatever comes of it. -/
theorem receive_looked_of_nil {link : Link ω} (hrest : link.rest = []) :
    Looked link [(Wire.read .never readSize link.wire).1] ((receive false).run link) := by
  cases hread : (Wire.read .never readSize link.wire).1 with
  | ok bytes =>
    rw [run_receive hread hrest]
    refine ⟨?_, Nat.le_refl 1, fun _ => rfl, rfl, fun hending => ⟨rfl, ?_⟩,
      ending_search_ne_timeout (link.filled bytes)⟩
    · exact congrArg (.read .never (.ok bytes) :: ·) (unlogged_search (link.filled bytes))
    -- what was read is at hand now, and the search goes through it
    · have hbytes : (link.filled bytes).rest = bytes :=
        Inbox.rest_fill (Wire.length_le_of_read _ _ _ _ hread)
      have hdelivered :
          delivered (.read .never (.ok bytes) :: (search.run (link.filled bytes)).events) =
          bytes ++ delivered (search.run (link.filled bytes)).events := rfl
      rw [hdelivered, delivered_search, List.append_nil]
      obtain ⟨hframes, hparser, hused⟩ := barren_search hending
      rw [hbytes, List.append_nil] at hframes hparser
      refine ⟨?_, ?_, hused⟩
      · rw [hrest]
        exact hframes
      · rw [hrest]
        exact hparser
  | error fault =>
    rw [run_receive_of_error hrest hread]
    exact ⟨rfl, Nat.le_refl 1, fun _ => rfl, rfl, by simp, by simp⟩

/-- A look for a frame makes one read at most, and that one if nothing else is at hand. -/
theorem receive_looked (link : Link ω) :
    ∃ results, Looked link results ((receive false).run link) := by
  by_cases hnone : (search.run link).ending = .returned none
  · rw [run_receive_of_none hnone]
    have hsearch := barren_search hnone
    have hlater := receive_looked_of_nil hsearch.rest_eq
    refine ⟨_, ?_, hlater.length_le, fun _ => rfl, hlater.config_eq, fun hending => ?_,
      hlater.timely⟩
    · rw [unlogged_append, unlogged_search]
      exact hlater.unlogged_eq
    · rw [delivered_append, delivered_search]
      exact ⟨rfl, hsearch.trans (hlater.missed hending).2⟩
  · rw [run_receive_of_found hnone]
    refine ⟨[], unlogged_search link, Nat.zero_le 1, fun hrest => ?_, rfl,
      fun hending => absurd hending hnone, ending_search_ne_timeout link⟩
    exact absurd (congrArg Outcome.ending (run_search_of_nil hrest)) hnone

/-! ## Waiting -/

/-- What waiting for a frame does on the line, with a budget of `cycles` looks. -/
structure Waited (cycles : Nat) (link : Link ω) (results : List ReadResult)
    (outcome : Outcome (Link ω) (Option Frame)) : Prop where
  /-- There are reads, with a pause between each two of them. -/
  unlogged_eq : unlogged outcome.events = spaced link.config.pollInterval results
  /-- There are no more reads than looks. -/
  length_le : results.length ≤ cycles
  /-- Without bytes left over, the first look reads. -/
  length_pos : link.rest = [] → 0 < cycles → 0 < results.length
  /-- If nothing was found, each look has read, and no frame was completed. -/
  missed : outcome.ending = .returned none → results.length = cycles ∧
    (0 < cycles → Barren link (delivered outcome.events) outcome.state)
  /-- Waiting does not time out by itself. -/
  timely : outcome.ending ≠ .failed .timeout

/-- Waiting ends with the first look that does not come to nothing. -/
theorem run_await_of_found {cycles : Nat} {link : Link ω}
    (h : ((receive false).run link).ending ≠ .returned none) :
    (await (cycles + 1)).run link = (receive false).run link := by
  rw [await]
  refine run_bind_of_found ?_ h
  exact fun _ => rfl

/-- Behind a look that comes to nothing, there is a pause and the next look, if there is one. -/
theorem run_await_of_none {cycles : Nat} {link : Link ω}
    (h : ((receive false).run link).ending = .returned none) :
    (await (cycles + 1)).run link =
      let look := (receive false).run link
      if cycles = 0 then look
      else
        let later := (await cycles).run look.state
        { later with
          events := look.events ++ .paused look.state.config.pollInterval :: later.events } := by
  rw [await, run_bind_of_returned h]
  by_cases hlast : cycles = 0
  · simp only [hlast, ↓reduceIte, run_pure, List.append_nil, ← h]
  · simp only [if_neg hlast]
    rfl

omit [Wire ω] in
/-- The last look is all that there is. -/
theorem Looked.waited {cycles : Nat} {link : Link ω} {results : List ReadResult}
    {look : Outcome (Link ω) (Option Frame)} (h : Looked link results look)
    (hlast : look.ending = .returned none → cycles = 0) :
    Waited (cycles + 1) link results look where
  unlogged_eq := h.unlogged_eq
  length_le := Nat.le_trans h.length_le (Nat.succ_le_succ (Nat.zero_le cycles))
  length_pos hrest _ := Nat.lt_of_lt_of_eq Nat.one_pos (h.length_eq hrest).symm
  missed hending := by
    obtain ⟨hlength, hbarren⟩ := h.missed hending
    rw [hlast hending]
    exact ⟨hlength, fun _ => hbarren⟩
  timely := h.timely

omit [Wire ω] in
/-- A look that comes to nothing is followed by a pause and by more looks, which all read. -/
theorem Looked.before {cycles : Nat} {link : Link ω} {results later : List ReadResult}
    {look waited : Outcome (Link ω) (Option Frame)} (h : Looked link results look)
    (hnone : look.ending = .returned none) (hcycles : 0 < cycles)
    (hlater : Waited cycles look.state later waited) :
    Waited (cycles + 1) link (results ++ later)
      { waited with
        events := look.events ++ .paused look.state.config.pollInterval :: waited.events } := by
  obtain ⟨hlength, hbarren⟩ := h.missed hnone
  obtain ⟨result, rfl⟩ := List.length_eq_one_iff.1 hlength
  have hpos := hlater.length_pos hbarren.rest_eq hcycles
  refine ⟨?_, Nat.succ_le_succ hlater.length_le, fun _ _ => Nat.succ_pos _, fun hending => ?_,
    hlater.timely⟩
  · calc
      unlogged (look.events ++ .paused look.state.config.pollInterval :: waited.events)
        = unlogged look.events ++
            .paused look.state.config.pollInterval :: unlogged waited.events :=
          unlogged_append _ _
      _ = .read .never result :: .paused link.config.pollInterval ::
            spaced link.config.pollInterval later := by
          rw [h.unlogged_eq, hlater.unlogged_eq, h.config_eq]
          rfl
      _ = spaced link.config.pollInterval (result :: later) :=
          (spaced_cons (List.length_pos_iff.1 hpos)).symm
  · obtain ⟨hall, hmissed⟩ := hlater.missed hending
    refine ⟨congrArg (· + 1) hall, fun _ => ?_⟩
    rw [delivered_append]
    exact hbarren.trans (hmissed hcycles)

/-- Waiting for a frame makes at most as many looks as its budget has, one after the other. -/
theorem await_waited (cycles : Nat) (link : Link ω) :
    ∃ results, Waited cycles link results ((await cycles).run link) := by
  induction cycles generalizing link with
  | zero => exact ⟨[], rfl, Nat.le_refl 0, fun _ h => h, fun _ => ⟨rfl, nofun⟩, nofun⟩
  | succ cycles ih =>
    obtain ⟨results, hlook⟩ := receive_looked link
    by_cases hnone : ((receive false).run link).ending = .returned none
    · rw [run_await_of_none hnone]
      by_cases hlast : cycles = 0
      · simp only [if_pos hlast]
        exact ⟨results, hlook.waited fun _ => hlast⟩
      · simp only [if_neg hlast]
        obtain ⟨later, hlater⟩ := ih ((receive false).run link).state
        exact ⟨results ++ later, hlook.before hnone (Nat.pos_of_ne_zero hlast) hlater⟩
    · rw [run_await_of_found hnone]
      exact ⟨results, hlook.waited fun hending => absurd hending hnone⟩

/-! ## Exchanging frames -/

/-- What sending a frame does on the line. -/
structure Sent (frame : Frame) (link : Link ω) (written : WriteResult)
    (outcome : Outcome (Link ω) Unit) : Prop where
  /-- It writes the frame, once. -/
  unlogged_eq : unlogged outcome.events = [.wrote link.config.writeTimeout frame.encode written]
  /-- It reads nothing. -/
  delivered_eq : delivered outcome.events = []
  /-- Nothing changes but the wire. -/
  state_eq : ∃ wire, outcome.state = { link with wire }
  /-- It succeeds if the wire takes the frame in full, and fails otherwise. -/
  ending_eq : outcome.ending = .returned () ∧
      (∃ count, written = .ok count ∧ frame.encode.length ≤ count) ∨
    (∀ count, written = .ok count → count < frame.encode.length) ∧
      ∃ error, outcome.ending = .failed error ∧ error.isLine = true

/-- Sending writes the frame once, and succeeds just when the wire takes it in full. -/
theorem send_sent (frame : Frame) (link : Link ω) :
    Sent frame link (Wire.write frame.encode link.config.writeTimeout link.wire).1
      ((send frame).run link) := by
  have hlog : (Act.log (.sending frame) : Act (Link ω) Unit).run link =
      { ending := .returned (), state := link, events := [.logged (.sending frame)] } := rfl
  rw [send, run_bind_of_returned (congrArg Outcome.ending hlog), hlog]
  cases hwritten : (Wire.write frame.encode link.config.writeTimeout link.wire).1 with
  | error fault =>
    have hwrite := run_write_of_error hwritten
    rw [run_bind_of_failed (congrArg Outcome.ending hwrite), hwrite]
    exact ⟨rfl, rfl, ⟨_, rfl⟩, .inr ⟨by simp, _, rfl, rfl⟩⟩
  | ok count =>
    have hwrite := run_write_of_ok hwritten
    rw [run_bind_of_returned (congrArg Outcome.ending hwrite), hwrite]
    by_cases hshort : count < frame.encodedLength
    · simp only [if_pos hshort]
      refine ⟨rfl, rfl, ⟨_, rfl⟩, .inr ⟨fun count' heq => ?_, _, rfl, rfl⟩⟩
      rwa [← Except.ok.inj heq, Frame.length_encode]
    · simp only [if_neg hshort]
      refine ⟨rfl, rfl, ⟨_, rfl⟩, .inl ⟨rfl, count, rfl, ?_⟩⟩
      rw [Frame.length_encode]
      exact Nat.le_of_not_lt hshort

/-- Behind the write, an exchange only waits, and logs if it has waited in vain. -/
theorem run_sendReceive_of_sent {frame : Frame} (timeout : UInt32) {link : Link ω}
    (h : ((send frame).run link).ending = .returned ()) :
    let sent := (send frame).run link
    let waited := (await (sent.state.config.cycles timeout)).run sent.state
    let outcome := (sendReceive frame timeout).run link
    unlogged outcome.events = unlogged sent.events ++ unlogged waited.events ∧
      delivered outcome.events = delivered sent.events ++ delivered waited.events ∧
      (outcome.ending = .failed .timeout →
        waited.ending = .returned none ∨ waited.ending = .failed .timeout) := by
  intro sent waited outcome
  have houtcome : outcome = (sendReceive frame timeout).run link := rfl
  rw [sendReceive, run_bind_of_returned h, run_get_bind] at houtcome
  -- what the exchange comes to is told by what the wait comes to
  cases hending : waited.ending with
  | returned found =>
    rw [run_bind_of_returned hending] at houtcome
    cases found with
    | some answer =>
      rw [houtcome, unlogged_append, unlogged_append, delivered_append, delivered_append]
      exact ⟨congrArg _ (List.append_nil _), congrArg _ (List.append_nil _), nofun⟩
    | none =>
      rw [houtcome, unlogged_append, unlogged_append, delivered_append, delivered_append]
      exact ⟨congrArg _ (List.append_nil _), congrArg _ (List.append_nil _), fun _ => .inl rfl⟩
  | failed error =>
    rw [run_bind_of_failed hending] at houtcome
    rw [houtcome, unlogged_append, delivered_append]
    exact ⟨rfl, rfl, fun htimeout => .inr (congrArg Ending.failed (Ending.failed.inj htimeout))⟩
  | unfinished =>
    rw [run_bind_of_unfinished hending] at houtcome
    rw [houtcome, unlogged_append, delivered_append]
    exact ⟨rfl, rfl, nofun⟩

/-- What an exchange of frames does on the line. -/
structure Exchanged (frame : Frame) (timeout : UInt32) (link : Link ω) (written : WriteResult)
    (results : List ReadResult) (outcome : Outcome (Link ω) Frame) : Prop where
  /-- It writes the frame, and then it reads, with a pause between each two reads. -/
  unlogged_eq : unlogged outcome.events =
    .wrote link.config.writeTimeout frame.encode written :: spaced link.config.pollInterval results
  /-- There are no more reads than looks. -/
  length_le : results.length ≤ link.config.cycles timeout
  /-- Behind a write that is not whole there is none. -/
  short : (∀ count, written = .ok count → count < frame.encode.length) → results = []
  /-- When the time is up, each look has read, and no frame was completed. -/
  missed : outcome.ending = .failed .timeout → results.length = link.config.cycles timeout ∧
    (link.parser.feedAll (link.rest ++ delivered outcome.events)).1.filterMap Verdict.frame? = []

/-- An exchange writes its frame once and then reads within the budget of its timeout. -/
theorem sendReceive_exchanged (frame : Frame) (timeout : UInt32) (link : Link ω) :
    ∃ results, Exchanged frame timeout link
      (Wire.write frame.encode link.config.writeTimeout link.wire).1 results
      ((sendReceive frame timeout).run link) := by
  obtain ⟨hunlogged, hdelivered, ⟨wire, hstate⟩, ⟨hreturned, count, hcount, hwhole⟩ |
    ⟨-, error, hfailed, hline⟩⟩ := send_sent frame link
  -- behind a write that is whole, the exchange waits
  · obtain ⟨hsent, hbytes, htimeout⟩ := run_sendReceive_of_sent timeout hreturned
    rw [hstate] at hsent hbytes htimeout
    obtain ⟨results, hwaited⟩ := await_waited (link.config.cycles timeout) { link with wire }
    refine ⟨results, ?_, hwaited.length_le, fun hshort => ?_, fun hending => ?_⟩
    · rw [hsent, hunlogged]
      exact congrArg (_ :: ·) hwaited.unlogged_eq
    · exact absurd (hshort count hcount) (Nat.not_lt.2 hwhole)
    · have hnone := (htimeout hending).resolve_right hwaited.timely
      obtain ⟨hall, hbarren⟩ := hwaited.missed hnone
      refine ⟨hall, ?_⟩
      rw [hbytes, hdelivered]
      exact (hbarren (link.config.cycles_pos timeout)).frames_eq
  -- a write that is not whole ends the exchange with an error of the line
  · have hrun : (sendReceive frame timeout).run link =
        { ending := .failed error, state := ((send frame).run link).state
          events := ((send frame).run link).events } := by
      rw [sendReceive, run_bind_of_failed hfailed]
    rw [hrun]
    refine ⟨[], hunlogged, Nat.zero_le _, fun _ => rfl, fun hending => ?_⟩
    rw [Ending.failed.inj hending] at hline
    cases hline

/-- As many looks as are made fill the time that is to be waited, if one of them fits. -/
theorem cycles_mul_interval {config : Config} {timeout : UInt32}
    (hpos : 1 ≤ config.pollInterval.toNat) (hfits : config.pollInterval.toNat ≤ timeout.toNat) :
    config.cycles timeout * config.pollInterval.toNat ≤ timeout.toNat ∧
      timeout.toNat < (config.cycles timeout + 1) * config.pollInterval.toNat := by
  have hcycles : config.cycles timeout = timeout.toNat / config.pollInterval.toNat := by
    rw [Config.cycles, Nat.max_eq_left hpos, Nat.max_eq_left (Nat.div_pos hfits hpos)]
  rw [hcycles]
  refine ⟨Nat.div_mul_le_self _ _, ?_⟩
  rw [Nat.succ_mul]
  exact Nat.lt_div_mul_add hpos

/-- What an exchange of frames does on the line: it writes the frame once, and then it reads as
often as it looks for an answer, at most, with a pause of the interval between each two reads and no
other. A write that is not whole is all that it does. It times out only if every look has read and
no frame was completed. The pauses are as long as one look less than the looks that fit the time to
be waited. -/
theorem sendReceive_budget (link : Link ω) (frame : Frame) (timeout : UInt32) :
    let config := link.config
    let cycles := config.cycles timeout
    let interval := config.pollInterval.toNat
    let written := (Wire.write frame.encode config.writeTimeout link.wire).1
    let outcome := (sendReceive frame timeout).run link
    ∃ results : List ReadResult,
      unlogged outcome.events = .wrote config.writeTimeout frame.encode written ::
        spaced config.pollInterval results ∧
      outcome.events.countP Event.isWrite = 1 ∧
      outcome.events.countP Event.isRead = results.length ∧ results.length ≤ cycles ∧
      outcome.events.countP Event.isPause = results.length - 1 ∧
      delay outcome.events = (results.length - 1) * interval ∧
      ((∀ count, written = .ok count → count < frame.encode.length) → results = []) ∧
      (outcome.ending = .failed .timeout → results.length = cycles ∧
        (link.parser.feedAll (link.rest ++ delivered outcome.events)).1.filterMap Verdict.frame? =
          []) ∧
      (1 ≤ interval → interval ≤ timeout.toNat →
        delay outcome.events ≤ timeout.toNat - interval ∧
          cycles * interval ≤ timeout.toNat ∧ timeout.toNat < (cycles + 1) * interval) := by
  intro config cycles interval written outcome
  obtain ⟨results, h⟩ := sendReceive_exchanged frame timeout link
  obtain ⟨hwrites, hreads, hpauses⟩ := countP_spaced config.pollInterval results
  -- log entries are neither writes nor reads nor pauses, so the events without them are counted
  have hcount {kind : Event → Bool} (hkind : ∀ entry, kind (.logged entry) = false) :
      outcome.events.countP kind = (Event.wrote config.writeTimeout frame.encode written ::
        spaced config.pollInterval results).countP kind := by
    rw [← h.unlogged_eq, countP_unlogged hkind]
  have hdelay : delay outcome.events = (results.length - 1) * interval := by
    rw [← delay_unlogged, h.unlogged_eq]
    exact (Nat.zero_add _).trans (delay_spaced config.pollInterval results)
  refine ⟨results, h.unlogged_eq, ?_, ?_, h.length_le, ?_, hdelay, h.short, h.missed,
    fun hpos hfits => ?_⟩
  · rw [hcount fun _ => rfl, List.countP_cons_of_pos rfl, hwrites]
  · rw [hcount fun _ => rfl, List.countP_cons_of_neg Bool.false_ne_true, hreads]
  · rw [hcount fun _ => rfl, List.countP_cons_of_neg Bool.false_ne_true, hpauses]
  -- there is one pause less than there are reads, of which there is one for each cycle
  · obtain ⟨hle, hlt⟩ := cycles_mul_interval hpos hfits
    refine ⟨?_, hle, hlt⟩
    calc
      delay outcome.events = (results.length - 1) * interval := hdelay
      _ ≤ (cycles - 1) * interval := Nat.mul_le_mul_right _ (Nat.sub_le_sub_right h.length_le 1)
      _ = cycles * interval - interval := Nat.sub_one_mul _ _
      _ ≤ timeout.toNat - interval := Nat.sub_le_sub_right hle _

end Link

end Multimeter
