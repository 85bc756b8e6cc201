import Multimeter.Proofs.Link.Resumption
import Multimeter.Proofs.Link.Writes
/-!
# Exchanges without an answer

What an exchange costs, and what it comes to on a line that has gone dead.

* `written_request`, `request_written`: an exchange writes its request once, if it can be sent at
  all.
* `Dead`: a wire that accepts everything, delivers nothing, and stays so.
* `Dead.times_out`: on such a wire every exchange times out.
-/

namespace Multimeter

/-- How often an exchange offers bytes to the wire: once, unless the request cannot be sent. -/
def Request.writes (asked : Request) : Nat := if asked.toFrame.isOk then 1 else 0

/-- A request is written at most once. -/
theorem Request.writes_le (asked : Request) : asked.writes ≤ 1 := by
  unfold writes
  split <;> decide

namespace Link

open Act

variable {ω : Type} [Wire ω]

/-- An exchange writes the frame of its request, once. Without a frame it writes nothing. -/
theorem written_request (asked : Request) (link : Link ω) :
    written ((request asked).run link).events =
      (asked.toFrame.toOption.map Frame.encode).toList := by
  -- the frame is written first, and waiting for the answer writes nothing
  have hexchange (frame : Frame) (timeout : UInt32) :
      Ensures (Writes (· = [])) (sendReceive (ω := ω) frame timeout)
        fun _ => Writes (· = [frame.encode]) := by
    have hquiet : Maintained (fun _ => False) (Writes (ω := ω) (· = [frame.encode])) :=
      maintained_writes nofun
    refine (send_writes fun frames h => ?_).bind (fun _ => keeps_get.bind fun _ => ?_)
      (fun _ _ _ h => h) fun _ _ h => h
    · rw [h]
      rfl
    · refine (hquiet.keeps_await _).bind fun found => ?_
      cases found with
      | some answer => exact keeps_pure answer
      | none => exact (hquiet.log _ rfl).bind fun _ => keeps_fail .timeout
  have hrequest : Ensures (Writes (· = [])) (request (ω := ω) asked)
      fun _ => Writes (· = (asked.toFrame.toOption.map Frame.encode).toList) := by
    refine ensures_lift_bind (fun frame hframe => ensures_get_bind fun _ => Ensures.of_left ?_)
      fun _ _ _ herror h => ?_
    · rw [hframe]
      exact (hexchange frame _).bind (fun answer => keeps_interpret asked answer)
        (fun _ _ _ h => h) fun _ _ h => h
    · rw [herror]
      exact h
  exact hrequest link [] rfl

/-- An exchange offers bytes to the wire once, if the request can be sent at all. -/
theorem request_written (asked : Request) (link : Link ω) :
    ((request asked).run link).events.countP Event.isWrite = asked.writes := by
  rw [countP_isWrite, written_request, Request.writes]
  cases asked.toFrame <;> rfl

/-! ## Dead lines -/

/-- As long as the wire is `mute`, it accepts everything, delivers nothing, and stays so. -/
structure Dead (mute : ω → Prop) : Prop where
  /-- Every write gets across. -/
  write {wire : ω} (bytes : List UInt8) (timeout : UInt32) : mute wire →
    (Wire.write bytes timeout wire).1 = .ok bytes.length ∧
      mute (Wire.write bytes timeout wire).2
  /-- No read finds anything. -/
  read {wire : ω} (wait : Wait) (capacity : Nat) : mute wire →
    (Wire.read wait capacity wire).1 = .ok [] ∧ mute (Wire.read wait capacity wire).2

omit [Wire ω] in
/-- The line is mute, no bytes are left over but those `waiting`, and the parser is in order. -/
structure Idling (mute : ω → Prop) (waiting : List UInt8) (link : Link ω) (_ : List Event) :
    Prop where
  /-- The line is mute. -/
  mute : mute link.wire
  /-- No bytes are left over. -/
  rest_eq : link.rest = []
  /-- No bytes are waiting. -/
  waiting_eq : waiting = []
  /-- The parser is in order. -/
  coherent : link.parser.Coherent

variable {mute : ω → Prop}

/-- A dead line delivers nothing, however often it is looked at. -/
theorem Dead.silent (h : Dead mute) {wire : ω} (hmute : mute wire) : Silent wire := by
  intro looks
  -- the wire is as mute after some looks as before
  induction looks generalizing wire with
  | zero => exact (h.read _ _ hmute).1
  | succ looks ih => exact ih (h.read _ _ hmute).2

/-- A dead line accepts a frame and delivers no answer. -/
theorem Dead.delivers (h : Dead mute) {link : Link ω} (hmute : mute link.wire) (sent : Frame) :
    Delivers link sent [] := by
  obtain ⟨haccepted, hwritten⟩ := h.write sent.encode link.config.writeTimeout hmute
  obtain ⟨hfound, hread⟩ := h.read .never readSize hwritten
  exact ⟨haccepted, hfound, h.silent hread⟩

/-- A dead line stays dead, whatever is sent. -/
theorem Dead.maintained (h : Dead mute) :
    Maintained (fun _ => True) (Idling (ω := ω) mute []) where
  send frame _ := keeps_send (fun _ _ h => ⟨h.mute, h.rest_eq, rfl, h.coherent⟩) fun _ _ hidling =>
    ⟨(h.write _ _ hidling.mute).2, hidling.rest_eq, rfl, hidling.coherent⟩
  receive := by
    refine keeps_receive (fun link history hidling => ?_) (fun wait link history hidling => ?_) ?_
    · refine ⟨hidling.mute, ?_, rfl, (Frame.Parser.coherent_scan hidling.coherent link.rest).1⟩
      rw [rest_search, hidling.rest_eq]
      rfl
    · obtain ⟨hfound, hmute⟩ := h.read wait readSize hidling.mute
      simp only [Link.read, Act.run, hfound]
      exact ⟨Nat.zero_le _, hmute, hidling.rest_eq, rfl, hidling.coherent⟩
    · intro bytes link history _ hlength hidling
      refine ⟨hidling.mute, ?_, rfl, hidling.coherent⟩
      exact (Inbox.rest_fill hlength).trans hidling.waiting_eq
  log _ _ := fun _ _ h => ⟨h.mute, h.rest_eq, rfl, h.coherent⟩
  pause := fun _ _ h => ⟨h.mute, h.rest_eq, rfl, h.coherent⟩

/-- On a dead line, every exchange times out, and the next one does so, too. -/
theorem Dead.times_out (h : Dead mute) {asked : Request} {sent : Frame}
    (hsent : asked.toFrame = .ok sent) {link : Link ω} (hidling : Idling mute [] link []) :
    ((Link.request asked).run link).ending = .failed .timeout ∧
      Idling mute [] ((Link.request asked).run link).state [] := by
  have hkept := h.maintained.keeps_request asked (fun _ _ => trivial) link [] hidling
  refine ⟨?_, hkept.mute, hkept.rest_eq, rfl, hkept.coherent⟩
  exact request_delivers hidling.coherent hsent link []
    ⟨rfl, hidling.rest_eq, h.delivers hidling.mute sent⟩

/-- A script that is empty is a dead line. -/
theorem dead_of_script : Dead fun wire : ScriptedWire => wire = {} where
  write := by
    rintro wire bytes timeout rfl
    exact ⟨rfl, rfl⟩
  read := by
    rintro wire wait capacity rfl
    exact ⟨rfl, rfl⟩

end Link

end Multimeter
