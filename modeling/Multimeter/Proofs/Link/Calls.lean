import Multimeter.Proofs.Act
import Multimeter.Proofs.Link.Search
/-!
# Calls on a link

What a caller can do with a link is put together from a few steps: offering bytes to the wire, one
look for a frame, a log entry, a pause. What all of these keep, every call keeps.

* `receive_spec`: a look for a frame makes at most one read, and that one only when the inbox has
  been used up, so that nothing the parser has not seen is written over.
* `run_receive`: a look for a frame on a link without bytes left over.
* `run_send`: a frame that the wire takes in full.
* `keeps_receive`: what the parts of a look for a frame keep, the look keeps.
* `Maintained inv`: the steps keep `inv`.
* `Call`: what a caller can do with a link, short of starting afresh.
* `Maintained.keeps_call`: every call keeps what its steps keep.
-/

namespace Multimeter.Link

open Act

variable {ω : Type} [Wire ω] {inv : Link ω → List Event → Prop}

/-! ## Steps on the wire -/

/-- A read that brings bytes returns them, and the wire goes on from there. -/
theorem run_read_of_ok {wait : Wait} {capacity : Nat} {link : Link ω} {bytes : List UInt8}
    (h : (Wire.read wait capacity link.wire).1 = .ok bytes) :
    (read wait capacity).run link =
      { ending := .returned bytes
        state := { link with wire := (Wire.read wait capacity link.wire).2 }
        events := [.read wait (.ok bytes)] } := by
  simp only [read, Act.run, h]

/-- A read that fails ends the act with the fault of the wire. -/
theorem run_read_of_error {wait : Wait} {capacity : Nat} {link : Link ω} {fault : Fault}
    (h : (Wire.read wait capacity link.wire).1 = .error fault) :
    (read wait capacity).run link =
      { ending := .failed (.io fault)
        state := { link with wire := (Wire.read wait capacity link.wire).2 }
        events := [.read wait (.error fault)] } := by
  simp only [read, Act.run, h]

/-- The bytes that a read returns are those that the wire delivered. -/
theorem ok_of_read {wait : Wait} {capacity : Nat} {link : Link ω} {bytes : List UInt8}
    (h : ((read wait capacity).run link).ending = .returned bytes) :
    (Wire.read wait capacity link.wire).1 = .ok bytes := by
  cases hread : (Wire.read wait capacity link.wire).1 with
  | ok found =>
    rw [run_read_of_ok hread] at h
    rw [Ending.returned.inj h]
  | error fault =>
    rw [run_read_of_error hread] at h
    cases h

/-- A write returns how many bytes the wire has taken. -/
theorem run_write_of_ok {bytes : List UInt8} {link : Link ω} {count : Nat}
    (h : (Wire.write bytes link.config.writeTimeout link.wire).1 = .ok count) :
    (write bytes).run link =
      { ending := .returned count
        state := { link with wire := (Wire.write bytes link.config.writeTimeout link.wire).2 }
        events := [.wrote link.config.writeTimeout bytes (.ok count)] } := by
  simp only [write, Act.run, h]

/-- A write that fails ends the act with the fault of the wire. -/
theorem run_write_of_error {bytes : List UInt8} {link : Link ω} {fault : Fault}
    (h : (Wire.write bytes link.config.writeTimeout link.wire).1 = .error fault) :
    (write bytes).run link =
      { ending := .failed (.io fault)
        state := { link with wire := (Wire.write bytes link.config.writeTimeout link.wire).2 }
        events := [.wrote link.config.writeTimeout bytes (.error fault)] } := by
  simp only [write, Act.run, h]

/-! ## Looks for a frame -/

/-- A look for a frame hands out the frame that it ends with. It makes one read at most, and that
one only after a search that has used up the inbox. -/
theorem receive_spec (blocking : Bool) (link : Link ω) :
    Ensures (fun link' history => link' = link ∧ history = []) (receive blocking)
      fun ending _ history => handedOut history = ending.frame?.toList ∧
        (history.countP Event.isRead = 0 ∨
          history.countP Event.isRead = 1 ∧ (search.run link).state.rest = []) := by
  -- the first search makes no read; it is the one that may leave the inbox used up
  have hsearch : Ensures (fun link' history => link' = link ∧ history = []) search
      fun ending _ history => handedOut history = ending.frame?.toList ∧
        history.countP Event.isRead = 0 ∧
        (ending = .returned none → (search.run link).state.rest = []) := by
    rintro link' history ⟨hlink, hhistory⟩
    rw [hlink, hhistory]
    exact ⟨handedOut_search link, countP_isRead_search link, rest_search_eq_nil⟩
  refine Ensures.bind hsearch (fun found => ?_) (fun _ _ _ h => ⟨h.1, .inl h.2.1⟩)
    (fun _ _ h => ⟨h.1, .inl h.2.1⟩)
  cases found with
  | some frame => exact ensures_pure fun _ _ h => ⟨h.1, .inl h.2.1⟩
  | none =>
    -- from here on the inbox is known to have been used up
    let quiet (reads : Nat) (_ : Link ω) (history : List Event) : Prop :=
      handedOut history = [] ∧ history.countP Event.isRead = reads ∧
        (search.run link).state.rest = []
    have hread (wait : Wait) :
        Ensures (quiet 0) (read (ω := ω) wait readSize) fun _ => quiet 1 := by
      rintro link' history ⟨hhandedOut, hreads, hrest⟩
      refine ⟨?_, ?_, hrest⟩
      · rw [handedOut_append, hhandedOut]
        rfl
      · rw [List.countP_append, hreads]
        rfl
    have hagain : Ensures (quiet 1) (search (ω := ω)) fun ending _ history =>
        handedOut history = ending.frame?.toList ∧ history.countP Event.isRead = 1 ∧
          (search.run link).state.rest = [] := by
      rintro link' history ⟨hhandedOut, hreads, hrest⟩
      refine ⟨?_, ?_, hrest⟩
      · rw [handedOut_append, hhandedOut, handedOut_search, List.nil_append]
      · rw [List.countP_append, hreads, countP_isRead_search]
    refine ensures_get_bind fun link' => ?_
    refine Ensures.bind ((hread _).weaken (fun _ _ h => ⟨h.1.1, h.1.2.1, h.1.2.2 rfl⟩)
      fun _ _ _ h => h) (fun bytes => ?_)
      (fun _ _ _ h => ⟨h.1, .inr h.2⟩) (fun _ _ h => ⟨h.1, .inr h.2⟩)
    exact ensures_modify_bind (hagain.weaken (fun _ _ h => h) fun _ _ _ h => ⟨h.1, .inr h.2⟩)
      fun _ _ h => h

/-- The link once a read that does not block has delivered `bytes`. -/
def filled (link : Link ω) (bytes : List UInt8) : Link ω :=
  { link with wire := (Wire.read .never readSize link.wire).2, inbox := link.inbox.fill bytes }

section Filled

variable {link : Link ω} {bytes : List UInt8}
  (hread : (Wire.read .never readSize link.wire).1 = .ok bytes)
include hread

/-- What a read has delivered is looked at next. -/
theorem scan_filled : (link.filled bytes).parser.scan (link.filled bytes).rest =
    link.parser.scan bytes :=
  congrArg link.parser.scan (Inbox.rest_fill (Wire.length_le_of_read _ _ _ _ hread))

/-- A search that takes all that was just read leaves nothing over. -/
theorem buffered_search_filled (hrest : (link.parser.scan bytes).rest = []) :
    (search.run (link.filled bytes)).state.buffered = 0 := by
  have hlength := Wire.length_le_of_read _ _ _ _ hread
  have hbytes : (link.filled bytes).rest = bytes := Inbox.rest_fill hlength
  rw [← scan_filled hread] at hrest
  show min bytes.length readSize - (0 + ((link.filled bytes).rest.length -
    ((link.filled bytes).parser.scan (link.filled bytes).rest).rest.length)) = 0
  rw [hrest, hbytes, List.length_nil]
  omega

/-- Without bytes left over, a look for a frame that does not block makes one read and searches what
it has read. -/
theorem run_receive (hrest : link.rest = []) :
    (receive false).run link =
      let found := search.run (link.filled bytes)
      { found with events := .read .never (.ok bytes) :: found.events } := by
  have hsearch := run_search_of_nil hrest
  have hbytes := run_read_of_ok hread
  rw [receive, run_bind_of_returned (congrArg Outcome.ending hsearch), hsearch]
  show (read .never readSize >>= fun bytes => modify (fun link : Link ω =>
    { link with inbox := link.inbox.fill bytes }) >>= fun _ => search).run link = _
  rw [run_bind_of_returned (congrArg Outcome.ending hbytes), hbytes]
  rfl

end Filled

/-- If its read fails, a look for a frame fails. -/
theorem run_receive_of_error {link : Link ω} {fault : Fault} (hrest : link.rest = [])
    (hread : (Wire.read .never readSize link.wire).1 = .error fault) :
    (receive false).run link =
      { ending := .failed (.io fault)
        state := { link with wire := (Wire.read .never readSize link.wire).2 }
        events := [.read .never (.error fault)] } := by
  have hsearch := run_search_of_nil hrest
  have hfailed := run_read_of_error hread
  rw [receive, run_bind_of_returned (congrArg Outcome.ending hsearch), hsearch]
  show (read .never readSize >>= fun bytes => modify (fun link : Link ω =>
    { link with inbox := link.inbox.fill bytes }) >>= fun _ => search).run link = _
  rw [run_bind_of_failed (congrArg Outcome.ending hfailed), hfailed]

/-- What searches, reads and the move of the bytes read into the inbox keep, a look for a frame
keeps. Between the read and the move, the bytes read are `waiting`. -/
theorem keeps_receive {inv : (waiting : List UInt8) → Link ω → List Event → Prop}
    (hsearch : Keeps (inv []) search)
    (hread : ∀ wait, Ensures (inv []) (read wait readSize) fun ending link history =>
      match ending with
      | .returned bytes => bytes.length ≤ readSize ∧ inv bytes link history
      | _ => inv [] link history)
    (hfill : ∀ {bytes link history}, link.rest = [] → bytes.length ≤ readSize →
      inv bytes link history → inv [] { link with inbox := link.inbox.fill bytes } history)
    (blocking : Bool) : Keeps (inv []) (receive blocking) := by
  -- that nothing is left is known only of a search that has found nothing
  have hused : Ensures (inv []) search fun ending link history =>
      inv [] link history ∧ (ending = .returned none → link.rest = []) :=
    fun link history h => ⟨hsearch link history h, rest_search_eq_nil⟩
  refine Ensures.bind hused (fun found => ?_) (fun _ _ _ h => h.1) (fun _ _ h => h.1)
  cases found with
  | some frame => exact ensures_pure fun _ _ h => h.1
  | none =>
    -- the inbox has been used up, and a read leaves it so
    have hreadUsed (wait : Wait) :
        Ensures (fun link history => inv [] link history ∧ link.rest = []) (read wait readSize)
          fun ending link history => match ending with
            | .returned bytes => link.rest = [] ∧ bytes.length ≤ readSize ∧ inv bytes link history
            | _ => inv [] link history := by
      intro link history h
      have hpost := hread wait link history h.1
      cases hending : ((read wait readSize).run link).ending with
      | returned bytes =>
        rw [hending] at hpost
        exact ⟨h.2, hpost⟩
      | failed error =>
        rw [hending] at hpost
        exact hpost
      | unfinished =>
        rw [hending] at hpost
        exact hpost
    refine ensures_get_bind fun link => ?_
    refine Ensures.bind ((hreadUsed _).weaken (fun _ _ h => ⟨h.1.1, h.1.2 rfl⟩) fun _ _ _ h => h)
      (fun bytes => ?_) (fun _ _ _ h => h) (fun _ _ h => h)
    exact ensures_modify_bind hsearch fun _ _ h => hfill h.1 h.2.1 h.2.2

/-- What searches and reads keep, wherever the bytes lie, a look for a frame keeps. -/
theorem keeps_receive_of_keeps (hsearch : Keeps inv search)
    (hread : ∀ wait, Keeps inv (read wait readSize))
    (hfill : ∀ {bytes link history}, inv link history →
      inv { link with inbox := link.inbox.fill bytes } history)
    (blocking : Bool) : Keeps inv (receive blocking) := by
  refine hsearch.bind fun found => ?_
  cases found with
  | some frame => exact keeps_pure (some frame)
  | none =>
    exact keeps_get.bind fun link => (hread _).bind fun bytes =>
      ensures_modify_bind hsearch fun _ _ h => hfill h

/-- A frame that the wire takes in full is written once. -/
theorem run_send {link : Link ω} {frame : Frame}
    (haccepted : (Wire.write frame.encode link.config.writeTimeout link.wire).1 =
      .ok frame.encode.length) :
    (send frame).run link =
      { ending := .returned ()
        state := { link with
          wire := (Wire.write frame.encode link.config.writeTimeout link.wire).2 }
        events := [.logged (.sending frame),
          .wrote link.config.writeTimeout frame.encode (.ok frame.encode.length)] } := by
  have hlog : (Act.log (.sending frame) : Act (Link ω) Unit).run link =
      { ending := .returned (), state := link, events := [.logged (.sending frame)] } := rfl
  have hwrite := run_write_of_ok haccepted
  rw [send, run_bind_of_returned (congrArg Outcome.ending hlog), hlog,
    run_bind_of_returned (congrArg Outcome.ending hwrite), hwrite]
  simp only [Frame.length_encode, Nat.lt_irrefl, ↓reduceIte]
  rfl

/-! ## Calls -/

/-- Sending keeps what its log entry and its write keep. -/
theorem keeps_send {frame : Frame} (hlog : Keeps inv (Act.log (.sending frame)))
    (hwrite : Keeps inv (write frame.encode)) : Keeps inv (send frame) := by
  refine hlog.bind fun _ => hwrite.bind fun written => ?_
  -- a write that got across in part is a failure, but it was made
  split
  · exact keeps_fail _
  · exact keeps_pure ()

/-- The steps that calls are made of keep `inv`, if only frames that `may` be sent are. -/
structure Maintained (may : Frame → Prop) (inv : Link ω → List Event → Prop) : Prop where
  /-- Sending a frame. -/
  send (frame : Frame) : may frame → Keeps inv (send frame)
  /-- One look for a frame. -/
  receive (blocking : Bool) : Keeps inv (receive blocking)
  /-- A log entry that reports no frame. -/
  log (entry : Log.Entry) : (Event.logged entry).frame? = none → Keeps inv (log entry)
  /-- A pause. -/
  pause : Keeps inv pause

omit [Wire ω] in
/-- Reading an answer leaves the link alone. -/
theorem keeps_interpret (request : Request) (answer : Frame) :
    Keeps inv (interpret request answer) := by
  refine (keeps_lift _ _).bind fun response => ?_
  split
  · exact keeps_fail _
  · exact keeps_pure _

namespace Maintained

variable {may : Frame → Prop}

/-- Waiting for a frame is made of looks and pauses, and keeps what these keep. -/
theorem keeps_await (h : Maintained may inv) (cycles : Nat) : Keeps inv (await cycles) := by
  -- one look for each cycle, and a pause between two looks
  induction cycles with
  | zero => exact keeps_pure none
  | succ cycles ih =>
    refine (h.receive false).bind fun found => ?_
    cases found with
    | some frame => exact keeps_pure (some frame)
    | none =>
      show Keeps inv
        (if cycles = 0 then Pure.pure none else Link.pause >>= fun _ => Link.await cycles)
      by_cases hlast : cycles = 0
      · rw [if_pos hlast]
        exact keeps_pure none
      · rw [if_neg hlast]
        exact h.pause.bind fun _ => ih

/-- An exchange of frames keeps what its steps keep, if its frame may be sent. -/
theorem keeps_sendReceive (h : Maintained may inv) {frame : Frame} (hmay : may frame)
    (timeout : UInt32) :
    Keeps inv (sendReceive frame timeout) := by
  refine (h.send frame hmay).bind fun _ => keeps_get.bind fun _ =>
    (h.keeps_await _).bind fun found => ?_
  cases found with
  | some answer => exact keeps_pure answer
  | none => exact (h.log _ rfl).bind fun _ => keeps_fail .timeout

/-- Sending a request keeps what its steps keep, if its frame may be sent. -/
theorem keeps_sendRequest (h : Maintained may inv) (request : Request)
    (hmay : ∀ frame, request.toFrame = .ok frame → may frame) : Keeps inv (sendRequest request) :=
  ensures_lift_bind (fun frame hframe => h.send frame (hmay frame hframe)) fun _ _ _ _ h => h

/-- A look for an answer sends nothing, and keeps what a look for a frame keeps. -/
theorem keeps_pollResponse (h : Maintained may inv) (request : Request) :
    Keeps inv (pollResponse request) := by
  refine (h.receive false).bind fun found => ?_
  cases found with
  | some answer => exact (keeps_interpret request answer).bind fun _ => keeps_pure _
  | none => exact keeps_pure none

/-- A request with its answer keeps what its steps keep, if its frame may be sent. -/
theorem keeps_request (h : Maintained may inv) (asked : Request)
    (hmay : ∀ frame, asked.toFrame = .ok frame → may frame) : Keeps inv (request asked) := by
  refine ensures_lift_bind (fun frame hframe => ?_) fun _ _ _ _ h => h
  exact keeps_get.bind fun _ => (h.keeps_sendReceive (hmay frame hframe) _).bind fun answer =>
    keeps_interpret asked answer

/-- Two invariants that the steps keep are kept together. -/
theorem and {inv' : Link ω → List Event → Prop} (h : Maintained may inv)
    (h' : Maintained may inv') :
    Maintained may fun link history => inv link history ∧ inv' link history where
  send frame hmay := (h.send frame hmay).and (h'.send frame hmay)
  receive blocking := (h.receive blocking).and (h'.receive blocking)
  log entry hentry := (h.log entry hentry).and (h'.log entry hentry)
  pause := h.pause.and h'.pause

end Maintained

/-! ## Calls that come to an end -/

theorem finishes_write (bytes : List UInt8) : Finishes (write (ω := ω) bytes) := by
  intro link
  simp only [write, run]
  cases (Wire.write bytes link.config.writeTimeout link.wire).1 with
  | ok count => simp
  | error fault => simp

theorem finishes_read (wait : Wait) (capacity : Nat) : Finishes (read (ω := ω) wait capacity) := by
  intro link
  simp only [read, run]
  cases (Wire.read wait capacity link.wire).1 with
  | ok bytes => simp
  | error fault => simp

omit [Wire ω] in
/-- A search comes to an end, since it looks at each byte once. -/
theorem finishes_search : Finishes (search (ω := ω)) := by
  intro link
  simp only [search, run]
  cases (link.parser.scan link.rest).found with
  | ok found => simp
  | error error => simp

/-- A look for a frame reads at most once, and comes to an end. -/
theorem finishes_receive (blocking : Bool) : Finishes (receive (ω := ω) blocking) := by
  refine finishes_search.bind fun found => ?_
  cases found with
  | some frame => exact finishes_pure _
  | none =>
    have hget : Finishes (get : Act (Link ω) (Link ω)) := fun _ => nofun
    have hfill (bytes : List UInt8) : Finishes (modify fun link : Link ω =>
        { link with inbox := link.inbox.fill bytes }) := fun _ => nofun
    exact hget.bind fun link => (finishes_read _ _).bind fun bytes =>
      (hfill bytes).bind fun _ => finishes_search

theorem finishes_send (frame : Frame) : Finishes (send (ω := ω) frame) := by
  have hlog : Finishes (Act.log (.sending frame) : Act (Link ω) Unit) := fun _ => nofun
  refine hlog.bind fun _ => (finishes_write _).bind fun written => ?_
  split
  · exact finishes_fail _
  · exact finishes_pure _

/-- Waiting comes to an end, since its looks are counted. -/
theorem finishes_await (cycles : Nat) : Finishes (await (ω := ω) cycles) := by
  induction cycles with
  | zero => exact finishes_pure none
  | succ cycles ih =>
    refine (finishes_receive false).bind fun found => ?_
    cases found with
    | some frame => exact finishes_pure _
    | none =>
      show Finishes (if cycles = 0 then Pure.pure none else pause >>= fun _ => await cycles)
      split
      · exact finishes_pure none
      · have hpause : Finishes (pause (ω := ω)) := fun _ => nofun
        exact hpause.bind fun _ => ih

/-- An exchange comes to an end, with an answer, an error or a timeout. -/
theorem finishes_sendReceive (frame : Frame) (timeout : UInt32) :
    Finishes (sendReceive (ω := ω) frame timeout) := by
  have hget : Finishes (get : Act (Link ω) (Link ω)) := fun _ => nofun
  have hlog : Finishes (Act.log (.timedOut frame.command timeout) : Act (Link ω) Unit) :=
    fun _ => nofun
  refine (finishes_send frame).bind fun _ => hget.bind fun link =>
    (finishes_await _).bind fun found => ?_
  cases found with
  | some answer => exact finishes_pure answer
  | none => exact hlog.bind fun _ => finishes_fail .timeout

theorem finishes_sendRequest (request : Request) : Finishes (sendRequest (ω := ω) request) :=
  (finishes_lift _ _).bind fun frame => finishes_send frame

omit [Wire ω] in
theorem finishes_interpret (request : Request) (answer : Frame) :
    Finishes (interpret (ω := ω) request answer) := by
  refine (finishes_lift _ _).bind fun response => ?_
  split
  · exact finishes_fail _
  · exact finishes_pure _

theorem finishes_pollResponse (request : Request) : Finishes (pollResponse (ω := ω) request) := by
  refine (finishes_receive false).bind fun found => ?_
  cases found with
  | some answer => exact (finishes_interpret request answer).bind fun _ => finishes_pure _
  | none => exact finishes_pure _

/-- A request comes to an end, with a response or an error. -/
theorem finishes_request (asked : Request) : Finishes (request (ω := ω) asked) := by
  have hget : Finishes (get : Act (Link ω) (Link ω)) := fun _ => nofun
  exact (finishes_lift _ _).bind fun frame => hget.bind fun link =>
    (finishes_sendReceive frame _).bind fun answer => finishes_interpret asked answer

/-! ## Starting afresh -/

/-- Draining the line keeps what its reads keep. -/
theorem keeps_drain (hread : Keeps inv (read .never drainSize)) (patience : Nat) :
    Keeps inv (drain patience) := by
  -- every round is one read, and the last one has delivered nothing
  induction patience with
  | zero => exact ensures_giveUp fun _ _ h => h
  | succ patience ih =>
    refine hread.bind fun bytes => ?_
    split
    · exact keeps_pure 0
    · exact ih.bind fun later => keeps_pure _

/-- What forgetting the frame in flight and reads keep, starting afresh keeps. -/
theorem keeps_reset (hclear : ∀ {link history}, inv link history →
      inv { link with parser := link.parser.reset, inbox := link.inbox.clear } history)
    (hread : Keeps inv (read .never drainSize)) (patience : Nat) : Keeps inv (reset patience) :=
  ensures_modify_bind ((keeps_drain hread patience).bind fun _ => keeps_pure ()) fun _ _ => hclear

/-! ## Sequences of calls -/

/-- What a caller can do with a link, short of starting afresh. -/
inductive Call where
  /-- Look once for a frame. -/
  | receive (blocking : Bool)
  /-- Write a frame. -/
  | send (frame : Frame)
  /-- Write a frame and wait for another. -/
  | sendReceive (frame : Frame) (timeout : UInt32)
  /-- Send a request. -/
  | sendRequest (request : Request)
  /-- Look once for the answer to a request. -/
  | pollResponse (request : Request)
  /-- Send a request and wait for the answer. -/
  | request (request : Request)
  deriving DecidableEq, Repr

/-- Make a call, whatever it comes to. -/
def Call.act : Call → Act (Link ω) Unit
  | .receive blocking => (Link.receive blocking).discard
  | .send frame => Link.send frame
  | .sendReceive frame timeout => (Link.sendReceive frame timeout).discard
  | .sendRequest asked => Link.sendRequest asked
  | .pollResponse asked => (Link.pollResponse asked).discard
  | .request asked => (Link.request asked).discard

/-- Every call keeps what its steps keep, whatever is sent. -/
theorem Maintained.keeps_call (h : Maintained (fun _ => True) inv) (call : Call) :
    Keeps inv call.act := by
  cases call with
  | receive blocking => exact (h.receive blocking).discard
  | send frame => exact h.send frame trivial
  | sendReceive frame timeout => exact (h.keeps_sendReceive trivial timeout).discard
  | sendRequest asked => exact h.keeps_sendRequest asked fun _ _ => trivial
  | pollResponse asked => exact (h.keeps_pollResponse asked).discard
  | request asked => exact (h.keeps_request asked fun _ _ => trivial).discard

end Multimeter.Link
