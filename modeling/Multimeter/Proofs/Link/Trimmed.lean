import Multimeter.Link
import Multimeter.Proofs.Act.View
/-!
# What a link remembers

The room of a link is never wiped. Bytes of earlier reads stay behind those that the last read has
delivered, after the link was started afresh as much as before. None of the acts of a link sees
them: what such an act does, how it ends and what it leaves are the same for any two links that
differ in these bytes alone.

* `Link.trimmed`: a link without the bytes that are behind those of its last read.
* `seesOnly_receive`, `seesOnly_request`, `seesOnly_reset`, …: all acts see no more than that.
* `trimmed_clear`: where nothing is left over from the last read, a link is known by its wire, its
  timing and its parser.
-/

namespace Multimeter

/-- The inbox without the bytes behind those that the last read has delivered. -/
def Inbox.trimmed (inbox : Inbox) : Inbox := { inbox with room := inbox.room.take inbox.filled }

namespace Inbox

/-- Trimming an inbox twice does no more than trimming it once. -/
@[simp]
theorem trimmed_trimmed (inbox : Inbox) : inbox.trimmed.trimmed = inbox.trimmed := by
  simp [trimmed, List.take_take]

/-- Trimming an inbox keeps the bytes that are left in it. -/
@[simp]
theorem rest_trimmed (inbox : Inbox) : inbox.trimmed.rest = inbox.rest := by
  simp [trimmed, rest, List.take_take]

/-- What a read delivers does not depend on what was there before. -/
theorem trimmed_fill (inbox inbox' : Inbox) (bytes : List UInt8) :
    (inbox.fill bytes).trimmed = (inbox'.fill bytes).trimmed := by
  simp only [trimmed, fill, List.take_append_of_le_length (Nat.min_le_left bytes.length readSize)]

/-- Taking bytes from a trimmed inbox leaves the same bytes as taking them from the inbox. -/
theorem trimmed_advance (inbox : Inbox) (count : Nat) :
    (inbox.trimmed.advance count).trimmed = (inbox.advance count).trimmed := by
  simp [trimmed, advance, List.take_take]

/-- Where nothing has been read, nothing is left. -/
theorem trimmed_clear (inbox inbox' : Inbox) : inbox.clear.trimmed = inbox'.clear.trimmed := by
  simp [trimmed, clear]

end Inbox

namespace Link

open Act

variable {ω : Type}

/-- The link without the bytes in its room that are behind those that the last read
has delivered. -/
def trimmed (link : Link ω) : Link ω := { link with inbox := link.inbox.trimmed }

/-- Trimming a link twice does no more than trimming it once. -/
@[simp]
theorem trimmed_trimmed (link : Link ω) : link.trimmed.trimmed = link.trimmed := by
  simp [trimmed]

/-- Trimming a link keeps the bytes that are left over. -/
@[simp]
theorem rest_trimmed (link : Link ω) : link.trimmed.rest = link.rest :=
  link.inbox.rest_trimmed

/-- How many bytes are left over is in view. -/
theorem buffered_eq_of_trimmed {link link' : Link ω} (h : link.trimmed = link'.trimmed) :
    link.buffered = link'.buffered := by
  show link.trimmed.buffered = link'.trimmed.buffered
  rw [h]

/-- A change of the wire is in view. -/
theorem trimmed_wire (link : Link ω) (wire : ω) :
    trimmed { link.trimmed with wire } = trimmed { link with wire } := by
  simp [trimmed]

/-! ## Steps -/

/-- A search looks at the bytes left over, and at none that were taken. -/
theorem seesOnly_search : SeesOnly trimmed (search (ω := ω)) := by
  -- a search goes through the bytes left over and moves the position, no more
  refine seesOnly_of_view fun link => ?_
  simp only [search, Act.run, rest_trimmed]
  refine ⟨rfl, rfl, ?_⟩
  exact congrArg (fun inbox => (⟨link.wire, link.config, _, inbox⟩ : Link ω))
    (link.inbox.trimmed_advance _)

/-- The bytes that were read are looked at next, whatever was there before. -/
theorem seesOnly_fill (bytes : List UInt8) :
    SeesOnly trimmed (modify fun link : Link ω => { link with inbox := link.inbox.fill bytes }) :=
  seesOnly_modify fun link =>
    congrArg (fun inbox => (⟨link.wire, link.config, link.parser, inbox⟩ : Link ω))
      (Inbox.trimmed_fill _ _ bytes)

theorem seesOnly_pause : SeesOnly trimmed (pause (ω := ω)) :=
  seesOnly_get_bind (fun _ => seesOnly_report _) fun _ => rfl

variable [Wire ω]

theorem seesOnly_write (bytes : List UInt8) : SeesOnly trimmed (write (ω := ω) bytes) :=
  seesOnly_of_view fun link => ⟨rfl, rfl, link.trimmed_wire _⟩

theorem seesOnly_read (wait : Wait) (capacity : Nat) :
    SeesOnly trimmed (read (ω := ω) wait capacity) :=
  seesOnly_of_view fun link => ⟨rfl, rfl, link.trimmed_wire _⟩

/-! ## Frames -/

/-- Sending a frame looks at no bytes that were taken. -/
theorem seesOnly_send (frame : Frame) : SeesOnly trimmed (send (ω := ω) frame) := by
  refine (seesOnly_log _).bind fun _ => (seesOnly_write _).bind fun written => ?_
  split
  · exact seesOnly_fail _
  · exact seesOnly_pure ()

/-- A look for a frame looks at the bytes left over and at those that it reads. -/
theorem seesOnly_receive (blocking : Bool) : SeesOnly trimmed (receive (ω := ω) blocking) := by
  refine seesOnly_search.bind fun found => ?_
  cases found with
  | some frame => exact seesOnly_pure (some frame)
  | none =>
    -- of the link, the read takes only how long it may wait
    exact seesOnly_get_bind (fun _ => (seesOnly_read _ _).bind fun bytes =>
      (seesOnly_fill bytes).bind fun _ => seesOnly_search) fun _ => rfl

/-- Waiting for a frame sees no more than its looks. -/
theorem seesOnly_await (cycles : Nat) : SeesOnly trimmed (await (ω := ω) cycles) := by
  induction cycles with
  | zero => exact seesOnly_pure none
  | succ cycles ih =>
    refine (seesOnly_receive false).bind fun found => ?_
    cases found with
    | some frame => exact seesOnly_pure (some frame)
    | none =>
      show SeesOnly _ (if cycles = 0 then Pure.pure none else pause >>= fun _ => await cycles)
      split
      · exact seesOnly_pure none
      · exact seesOnly_pause.bind fun _ => ih

/-- An exchange of frames sees no more than what it sends and what it looks for. -/
theorem seesOnly_sendReceive (frame : Frame) (timeout : UInt32) :
    SeesOnly trimmed (sendReceive (ω := ω) frame timeout) := by
  refine (seesOnly_send frame).bind fun _ => seesOnly_get_bind (fun _ => ?_) fun _ => rfl
  refine (seesOnly_await _).bind fun found => ?_
  cases found with
  | some answer => exact seesOnly_pure answer
  | none => exact (seesOnly_log _).bind fun _ => seesOnly_fail .timeout

/-! ## Messages -/

omit [Wire ω] in
theorem seesOnly_interpret (asked : Request) (answer : Frame) :
    SeesOnly trimmed (interpret (ω := ω) asked answer) := by
  refine (seesOnly_lift _ _).bind fun response => ?_
  split
  · exact seesOnly_fail _
  · exact seesOnly_pure _

theorem seesOnly_sendRequest (asked : Request) : SeesOnly trimmed (sendRequest (ω := ω) asked) :=
  (seesOnly_lift _ _).bind seesOnly_send

theorem seesOnly_pollResponse (asked : Request) :
    SeesOnly trimmed (pollResponse (ω := ω) asked) := by
  refine (seesOnly_receive false).bind fun found => ?_
  cases found with
  | some answer => exact (seesOnly_interpret asked answer).map some
  | none => exact seesOnly_pure none

/-- A request sees no more than its exchange of frames. -/
theorem seesOnly_request (asked : Request) : SeesOnly trimmed (request (ω := ω) asked) :=
  (seesOnly_lift _ _).bind fun frame => seesOnly_get_bind (fun _ =>
    (seesOnly_sendReceive frame _).bind (seesOnly_interpret asked)) fun _ => rfl

/-! ## Starting afresh -/

/-- Draining the line looks at the line only. -/
theorem seesOnly_drain (patience : Nat) : SeesOnly trimmed (drain (ω := ω) patience) := by
  induction patience with
  | zero => exact seesOnly_giveUp
  | succ patience ih =>
    refine (seesOnly_read .never drainSize).bind fun bytes => ?_
    split
    · exact seesOnly_pure 0
    · exact ih.bind fun later => seesOnly_pure _

/-- Starting afresh looks at no bytes that were taken. -/
theorem seesOnly_reset (patience : Nat) : SeesOnly trimmed (reset (ω := ω) patience) := by
  refine (seesOnly_modify fun link => ?_).bind fun _ =>
    (seesOnly_drain patience).bind fun _ => seesOnly_pure ()
  -- the room is not wiped, but nothing of it counts as read any more
  exact congrArg (fun inbox => (⟨link.wire, link.config, link.parser.reset, inbox⟩ : Link ω))
    (Inbox.trimmed_clear _ _)

end Link

end Multimeter
