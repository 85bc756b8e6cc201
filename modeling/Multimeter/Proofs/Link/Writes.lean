import Multimeter.Proofs.Answering.Received
/-!
# What a link writes

Only sending a frame writes to the wire, and it writes the frame once, whatever becomes of the
write.

* `Writes p`: what has been written so far satisfies `p`.
* `send_writes`, `sendRequest_writes`: a frame is written when it is sent.
* `maintained_writes`: nothing else writes.
-/

namespace Multimeter

/-- Each write is a list of bytes written. -/
theorem countP_isWrite (history : List Event) :
    history.countP Event.isWrite = (written history).length := by
  induction history with
  | nil => rfl
  | cons event history ih =>
    rw [List.countP_cons, ih]
    cases event <;> rfl

namespace Link

open Act

variable {ω : Type} {p q : List (List UInt8) → Prop}

/-- What has been written so far satisfies `p`. -/
def Writes (p : List (List UInt8) → Prop) (_ : Link ω) (history : List Event) : Prop :=
  p (written history)

/-- Events that write nothing leave what was written as it is. -/
theorem Writes.quiet {link link' : Link ω} {history events : List Event}
    (h : Writes p link history) (hevents : written events = []) :
    Writes p link' (history ++ events) := by
  rw [Writes, written_append, hevents, List.append_nil]
  exact h

variable [Wire ω]

/-- Sending writes the frame. -/
theorem send_writes {frame : Frame} (h : ∀ frames, p frames → q (frames ++ [frame.encode])) :
    Ensures (Writes p) (send (ω := ω) frame) fun _ => Writes q := by
  have hlog : Ensures (Writes p) (Act.log (.sending frame) : Act (Link ω) Unit)
      (Returns () (Writes p)) := fun _ _ hp => ⟨rfl, hp.quiet rfl⟩
  have hwrite : Ensures (Writes p) (write (ω := ω) frame.encode) fun _ => Writes q := by
    intro link history hp
    rw [Writes, written_append]
    exact h _ hp
  refine hlog.returns_bind (hwrite.bind (fun count => ?_) (fun _ _ _ hq => hq) fun _ _ hq => hq)
  split
  · exact ensures_fail fun _ _ hq => hq
  · exact ensures_pure fun _ _ hq => hq

/-- A request that can be sent is written. -/
theorem sendRequest_writes {asked : Request} {sent : Frame} (hsent : asked.toFrame = .ok sent)
    (h : ∀ frames, p frames → q (frames ++ [sent.encode])) :
    Ensures (Writes p) (sendRequest (ω := ω) asked) fun _ => Writes q := by
  refine ensures_lift_bind (fun frame hframe => ?_) fun error _ _ herror => ?_
  · obtain rfl : sent = frame := Except.ok.inj (hsent.symm.trans hframe)
    exact send_writes h
  · rw [hsent] at herror
    cases herror

/-- Nothing but sending writes. -/
theorem maintained_writes {may : Frame → Prop}
    (h : ∀ frame, may frame → ∀ frames, p frames → p (frames ++ [frame.encode])) :
    Maintained may (Writes (ω := ω) p) where
  send frame hmay := send_writes (h frame hmay)
  receive := keeps_receive_of_keeps (fun link _ hp => hp.quiet (written_search link))
    (fun _ _ _ hp => hp.quiet rfl) fun hp => hp
  log _ _ := fun _ _ hp => hp.quiet rfl
  pause := fun _ _ hp => hp.quiet rfl

end Link

end Multimeter
