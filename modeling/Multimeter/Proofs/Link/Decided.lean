import Multimeter.Proofs.Link.Errors
/-!
# What decides an exchange

An exchange goes on as long as its request has got across whole, the line works and no frame
arrives. Anything else is decisive, and shows in the history.

* `Decided`: something decisive has happened.
* `sendRequest_decided`: a request is sent whole unless something decisive happens.
* `pollResponse_decided`: so does every look for the answer come to nothing.
-/

namespace Multimeter

/-- The event decides an exchange: a write did not get across whole, a read failed, or a frame was
handed out. -/
def Event.isDecisive : Event → Bool
  | wrote _ bytes (.ok count) => count < bytes.length
  | wrote _ _ (.error _) | read _ (.error _) | logged (.received _) => true
  | _ => false

/-- Something decisive has happened. -/
def Decided (history : List Event) : Prop := ∃ event ∈ history, event.isDecisive = true

/-- What was decisive stays so, whatever comes behind it. -/
theorem Decided.append {history : List Event} (h : Decided history) (events : List Event) :
    Decided (history ++ events) := by
  obtain ⟨event, hmem, hevent⟩ := h
  exact ⟨event, List.mem_append_left events hmem, hevent⟩

/-- A decisive event decides the history that ends with it. -/
theorem decided_concat (history : List Event) {event : Event} (h : event.isDecisive = true) :
    Decided (history ++ [event]) :=
  ⟨event, List.mem_append_right history (List.mem_singleton_self event), h⟩

namespace Link

open Act

variable {ω : Type}

/-- A search finds nothing unless a frame is handed out. -/
theorem search_decided : Ensures Coherent (search (ω := ω)) fun ending link history =>
    Coherent link history ∧ (ending = .returned none ∨ Decided history) := by
  intro link history h
  obtain ⟨hparser, found, hfound⟩ := Frame.Parser.coherent_scan h link.rest
  refine ⟨hparser, ?_⟩
  simp only [search, Act.run, hfound]
  cases found with
  | none => exact .inl rfl
  | some frame =>
    rw [← List.append_assoc]
    exact .inr (decided_concat _ rfl)

variable [Wire ω]

/-- A read brings bytes, or its fault is decisive. -/
theorem read_decided (wait : Wait) (capacity : Nat) :
    Ensures Coherent (read (ω := ω) wait capacity) fun ending link history =>
      Coherent link history ∧ ((∃ bytes, ending = .returned bytes) ∨ Decided history) := by
  refine fun link history h => ⟨h, ?_⟩
  simp only [read, Act.run]
  cases (Wire.read wait capacity link.wire).1 with
  | ok bytes => exact .inl ⟨bytes, rfl⟩
  | error fault => exact .inr (decided_concat history rfl)

/-- A look for a frame comes to nothing unless something decisive happens. -/
theorem receive_decided (blocking : Bool) :
    Ensures Coherent (receive (ω := ω) blocking) fun ending _ history =>
      ending = .returned none ∨ Decided history := by
  refine search_decided.bind (fun found => ?_)
    (fun _ _ _ h => .inr (h.2.resolve_left nofun)) fun _ _ h => .inr (h.2.resolve_left nofun)
  cases found with
  | some frame => exact ensures_pure fun _ _ h => .inr (h.2.resolve_left nofun)
  | none =>
    refine ensures_get_bind fun link => Ensures.of_left (Ensures.of_left ?_)
    refine (read_decided _ _).bind (fun bytes => ?_) (fun _ _ _ h => .inr (h.2.resolve_left nofun))
      fun _ _ h => .inr (h.2.resolve_left nofun)
    exact ensures_modify_bind (search_decided.weaken (fun _ _ h => h) fun _ _ _ h => h.2)
      fun _ _ h => h.1

/-- A look for an answer comes to nothing unless something decisive happens. -/
theorem pollResponse_decided (asked : Request) :
    Ensures Coherent (pollResponse (ω := ω) asked) fun ending _ history =>
      ending = .returned none ∨ Decided history := by
  refine (receive_decided false).bind (fun found => ?_)
    (fun _ _ _ h => .inr (h.resolve_left nofun)) fun _ _ h => .inr (h.resolve_left nofun)
  cases found with
  | none => exact ensures_pure fun _ _ _ => .inl rfl
  | some answer =>
    -- the frame has been handed out, whatever it says
    exact fun _ _ h => .inr ((h.resolve_left nofun).append _)

/-- A write takes the frame in full, or what it came to is decisive. -/
theorem write_decided (frame : Frame) :
    Ensures (fun _ _ => True) (write (ω := ω) frame.encode) fun ending _ history =>
      match ending with
      | .returned count => frame.encodedLength ≤ count ∨ Decided history
      | .failed error => Decided history ∧ error.isLine = true
      | .unfinished => False := by
  intro link history _
  simp only [write, Act.run]
  cases (Wire.write frame.encode link.config.writeTimeout link.wire).1 with
  | error fault => exact ⟨decided_concat history rfl, rfl⟩
  | ok count =>
    refine (Nat.lt_or_ge count frame.encodedLength).symm.imp_right fun hshort => ?_
    have hlength : count < frame.encode.length := by rwa [Frame.length_encode]
    exact decided_concat history (decide_eq_true hlength)

/-- A request that can be written is sent whole, unless the line fails. -/
theorem sendRequest_decided {asked : Request} {sent : Frame} (hsent : asked.toFrame = .ok sent) :
    Ensures (fun _ _ => True) (sendRequest (ω := ω) asked) fun ending _ history =>
      ending = .returned () ∨
        Decided history ∧ ∃ error, ending = .failed error ∧ error.isLine = true := by
  refine ensures_lift_bind (fun frame hframe => ?_) fun error _ _ herror => ?_
  · obtain rfl : sent = frame := Except.ok.inj (hsent.symm.trans hframe)
    refine (returns_log fun _ _ h => h).returns_bind ((write_decided sent).bind (fun count => ?_)
      (fun error _ _ h => .inr ⟨h.1, error, rfl, h.2⟩) fun _ _ h => h.elim)
    show Ensures (fun _ history => sent.encodedLength ≤ count ∨ Decided history)
      (if count < sent.encodedLength then _ else _) _
    split
    · rename_i hshort
      exact ensures_fail fun _ _ h =>
        .inr ⟨h.resolve_left (Nat.not_le_of_lt hshort), _, rfl, rfl⟩
    · exact ensures_pure fun _ _ _ => .inl rfl
  · rw [hsent] at herror
    cases herror

end Link

end Multimeter
