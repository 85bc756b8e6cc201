import Multimeter.Proofs.Link.Calls
/-!
# Faithfulness of a link

A link hands out the frames of the byte stream and nothing else, however the stream is cut into
reads, whichever reads fail and whatever is done on the link in between. The invariant `Faithful`
relates the link to its whole history: the bytes delivered so far are those that the parser has
taken and then those that wait in the inbox; the parser is in the state of a bare parser fed with
the former, and the frames handed out are the ones that this bare parser reports.

* `maintained_holds`: all that calls are made of keeps the invariant.
* `run_faithful`: the invariant after every sequence of calls.
-/

namespace Multimeter

namespace Frame.Parser

/-- The frames that a new parser for answers reports on a byte stream. -/
def framesIn (bytes : List UInt8) : List Frame :=
  ((new .response).feedAll bytes).1.filterMap Verdict.frame?

/-- The frames in a concatenation are those of its first part, and those that the parser left behind
finds in the second. -/
theorem framesIn_append (xs ys : List UInt8) :
    framesIn (xs ++ ys) =
      framesIn xs ++ (((new .response).feedAll xs).2.feedAll ys).1.filterMap Verdict.frame? := by
  rw [framesIn, feedAll_append, List.filterMap_append, framesIn]

end Frame.Parser

namespace Link

open Act Frame.Parser

variable {ω : Type}

/-! ## The invariant -/

/-- The bytes delivered are those that the parser has taken, those in the inbox and those that are
still `waiting` for a place in it; the parser and the frames handed out are those of a bare parser
that was fed with the bytes taken. -/
structure Faithful (taken waiting : List UInt8) (link : Link ω) (history : List Event) : Prop where
  /-- The inbox is in order. -/
  within : link.inbox.Within
  /-- No byte delivered is lost, repeated or moved. -/
  delivered_eq : delivered history = taken ++ link.rest ++ waiting
  /-- The parser has taken the first bytes and no others. -/
  parser_eq : link.parser = ((Frame.Parser.new .response).feedAll taken).2
  /-- The frames of these bytes were handed out. -/
  handedOut_eq : handedOut history = framesIn taken

/-- The invariant, while some bytes read are still waiting. -/
def Holds (waiting : List UInt8) (link : Link ω) (history : List Event) : Prop :=
  ∃ taken, Faithful taken waiting link history

/-- On a link that is new nothing was delivered and nothing was handed out. -/
theorem holds_new (wire : ω) (config : Config) : Holds [] (Link.new wire config) [] :=
  ⟨[], Inbox.within_empty, rfl, rfl, rfl⟩

/-- A change of the wire and an event without bytes or a frame keep the invariant. -/
theorem Faithful.quiet {taken waiting : List UInt8} {link : Link ω} {history : List Event}
    (h : Faithful taken waiting link history) {event : Event} (hdelivered : event.delivered = [])
    (hframe : event.frame? = none) (wire : ω) :
    Faithful taken waiting { link with wire } (history ++ [event]) where
  within := h.within
  delivered_eq := by
    have hevent : delivered [event] = [] := List.flatMap_eq_nil_iff.2 (by simpa using hdelivered)
    rw [delivered_append, hevent, List.append_nil, h.delivered_eq]
    rfl
  parser_eq := h.parser_eq
  handedOut_eq := by
    have hevent : handedOut [event] = [] := List.filterMap_eq_nil_iff.2 (by simpa using hframe)
    rw [handedOut_append, hevent, List.append_nil, h.handedOut_eq]

/-- A search hands out the frame that it logs, and keeps the account of frames. -/
theorem search_keeps : Keeps (Holds []) (search (ω := ω)) := by
  rintro link history ⟨taken, h⟩
  -- the bytes taken grow by those that the search has taken off the inbox
  obtain ⟨more, hmore, hwithin, hparser, hframes⟩ := search_takes h.within
  refine ⟨taken ++ more, hwithin, ?_, ?_, ?_⟩
  · rw [delivered_append, delivered_search, h.delivered_eq, hmore]
    simp only [List.append_nil, List.append_assoc]
  · rw [feedAll_append, ← h.parser_eq, hparser]
  · rw [handedOut_append, handedOut_search, h.handedOut_eq, framesIn_append, ← h.parser_eq, hframes]

/-- A log entry that reports no frame keeps the account of frames. -/
theorem log_keeps {entry : Log.Entry} (h : (Event.logged entry).frame? = none) :
    Keeps (Holds (ω := ω) []) (log entry) :=
  ensures_report fun link _ ⟨taken, hfaithful⟩ => ⟨taken, hfaithful.quiet rfl h link.wire⟩

/-- A pause keeps the account of frames. -/
theorem pause_keeps : Keeps (Holds []) (pause (ω := ω)) :=
  keeps_get.bind fun _ =>
    ensures_report fun link _ ⟨taken, hfaithful⟩ => ⟨taken, hfaithful.quiet rfl rfl link.wire⟩

/-- Bytes that arrived at a used-up inbox find their place in it. -/
theorem Holds.fill {bytes : List UInt8} {link : Link ω} {history : List Event}
    (hrest : link.rest = []) (hlength : bytes.length ≤ readSize) (h : Holds bytes link history) :
    Holds [] { link with inbox := link.inbox.fill bytes } history := by
  obtain ⟨taken, h⟩ := h
  refine ⟨taken, h.within.fill hlength, ?_, h.parser_eq, h.handedOut_eq⟩
  -- nothing is written over, for the inbox was used up
  have hfill : Link.rest { link with inbox := link.inbox.fill bytes } = bytes :=
    Inbox.rest_fill hlength
  rw [h.delivered_eq, hrest, hfill, List.append_nil, List.append_nil]

variable [Wire ω]

/-- Reading delivers bytes behind all that were delivered before, or nothing. -/
theorem read_spec (wait : Wait) :
    Ensures (Holds []) (read (ω := ω) wait readSize) fun ending link history =>
      match ending with
      | .returned bytes => bytes.length ≤ readSize ∧ Holds bytes link history
      | _ => Holds [] link history := by
  rintro link history ⟨taken, h⟩
  have hlength := Wire.length_le_of_read wait readSize link.wire
  simp only [read, Act.run]
  -- a read that fails delivers nothing; one that succeeds leaves its bytes waiting
  cases hresult : (Wire.read wait readSize link.wire).1 with
  | ok bytes =>
    refine ⟨hlength bytes hresult, taken, h.within, ?_, h.parser_eq, ?_⟩
    · rw [delivered_append, h.delivered_eq, List.append_nil]
      exact congrArg (taken ++ link.rest ++ ·) (List.append_nil bytes)
    · rw [handedOut_append, h.handedOut_eq]
      exact List.append_nil _
  | error fault => exact ⟨taken, h.quiet rfl rfl _⟩

/-- A write keeps the account of frames. -/
theorem write_keeps (bytes : List UInt8) : Keeps (Holds []) (write (ω := ω) bytes) := by
  rintro link history ⟨taken, h⟩
  exact ⟨taken, h.quiet rfl rfl _⟩

/-- The steps of calls keep the invariant. -/
theorem maintained_holds : Maintained (fun _ => True) (Holds (ω := ω) []) where
  send frame _ := keeps_send (log_keeps rfl) (write_keeps frame.encode)
  receive := keeps_receive search_keeps read_spec Holds.fill
  log _ := log_keeps
  pause := pause_keeps

/-! ## Runs -/

/-- Whatever is called on a link and whatever the wire does, the frames handed out are those that a
bare parser reports on the bytes delivered, less those still buffered, and the parser is in the
state of that bare parser. The inbox stays in order. Every look for a frame, from any link, hands
out the frame that it ends with, makes one read at most, and makes it only when all bytes have been
looked at. -/
theorem run_faithful (wire : ω) (config : Config) (calls : List Call) :
    let (link, history) := runAll (Link.new wire config) (calls.map Call.act)
    let taken := (delivered history).take ((delivered history).length - link.buffered)
    handedOut history = framesIn taken ∧
      link.parser = ((Frame.Parser.new .response).feedAll taken).2 ∧
      delivered history = taken ++ link.rest ∧ link.rest.length = link.buffered ∧
      link.inbox.position ≤ link.inbox.filled ∧ link.inbox.filled ≤ 207 ∧
      ∀ (link' : Link ω) (blocking : Bool),
        let outcome := (Link.receive blocking).run link'
        handedOut outcome.events = outcome.ending.frame?.toList ∧
          (outcome.events.countP Event.isRead = 0 ∨
            outcome.events.countP Event.isRead = 1 ∧ (search.run link').state.rest = []) := by
  have hacts : ∀ act ∈ calls.map (Call.act (ω := ω)), Keeps (Holds []) act := by
    intro act hmem
    obtain ⟨call, -, rfl⟩ := List.mem_map.1 hmem
    exact maintained_holds.keeps_call call
  obtain ⟨taken, h⟩ := Keeps.runAll hacts (holds_new wire config)
  generalize runAll (Link.new wire config) (calls.map Call.act) = final at h ⊢
  obtain ⟨link, history⟩ := final
  rw [List.nil_append] at h
  -- between two calls no bytes are waiting
  have hdelivered : delivered history = taken ++ link.rest := by
    rw [h.delivered_eq, List.append_nil]
  have hbuffered : link.rest.length = link.buffered := Inbox.length_rest h.within
  -- the bytes taken are told by the number of bytes that are still buffered
  have htaken : (delivered history).take ((delivered history).length - link.buffered) = taken := by
    have hcount : (delivered history).length - link.buffered = taken.length := by
      rw [hdelivered, List.length_append, hbuffered]
      exact Nat.add_sub_cancel _ _
    rw [hcount, hdelivered, List.take_left]
  refine ⟨?_, ?_, ?_, hbuffered, h.within.position_le, h.within.filled_le, fun link' blocking => ?_⟩
  · rw [htaken]
    exact h.handedOut_eq
  · rw [htaken]
    exact h.parser_eq
  · rw [htaken]
    exact hdelivered
  · exact receive_spec blocking link' link' [] ⟨rfl, rfl⟩

end Link

end Multimeter
