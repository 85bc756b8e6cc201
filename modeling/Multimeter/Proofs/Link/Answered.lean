import Multimeter.Proofs.Link.Calls
/-!
# Where responses come from

On any wire, the response that a call on a link ends with is what the frame handed out last says in
answer to the request of the call. No call changes the timing of the link or calls the sink.

* `Answered`: a response is read from the frame handed out last.
* `pollResponse_spec`, `request_spec`: the responses of calls.
* `maintained_plain`: the timing and the sink.
-/

namespace Multimeter

/-- The calls on the sink in a history, in order. -/
def sunk (history : List Event) : List Sink.Call := history.filterMap Event.call?

@[simp]
theorem sunk_append (xs ys : List Event) : sunk (xs ++ ys) = sunk xs ++ sunk ys :=
  List.filterMap_append

/-- `response` is what the frame handed out last says in answer to `request`. -/
def Answered (request : Request) (response : Response) (history : List Event) : Prop :=
  ∃ frame, (handedOut history).getLast? = some frame ∧
    Response.answerTo request frame = .ok response

/-- An answer that has just been handed out stays so behind an event that hands out no frame. -/
theorem Answered.behind {request : Request} {response : Response} {history : List Event}
    (h : Answered request response history) {event : Event} (hevent : event.frame? = none) :
    Answered request response (history ++ [event]) := by
  obtain ⟨frame, hlast, hanswer⟩ := h
  refine ⟨frame, ?_, hanswer⟩
  have hnone : handedOut [event] = [] := List.filterMap_eq_nil_iff.2 (by simpa using hevent)
  rw [handedOut_append, hnone, List.append_nil, hlast]

namespace Link

open Act

variable {ω : Type} [Wire ω]

/-! ## Responses -/

/-- Nothing is assumed. -/
def Any (_ : Link ω) (_ : List Event) : Prop := True

/-- The frame found, if any, is the one handed out last. -/
def Handed (found : Option Frame) (_ : Link ω) (history : List Event) : Prop :=
  ∀ frame, found = some frame → (handedOut history).getLast? = some frame

/-- The frame that a look for one ends with is the one handed out last. -/
theorem receive_frame (blocking : Bool) :
    Ensures Any (receive (ω := ω) blocking) (Promises Any Handed) := by
  refine fun link history _ => ⟨trivial, fun found hending frame hfound => ?_⟩
  obtain ⟨hframe, -⟩ := receive_spec blocking link link [] ⟨rfl, rfl⟩
  rw [List.nil_append, hending, hfound] at hframe
  rw [handedOut_append, hframe]
  exact List.getLast?_concat

/-- A frame that waiting finds has just been handed out. -/
theorem await_frame (cycles : Nat) :
    Ensures Any (await (ω := ω) cycles) (Promises Any Handed) := by
  have hnone : Ensures Any (Pure.pure none : Act (Link ω) (Option Frame))
      (Promises Any Handed) := promises_pure fun _ _ _ => ⟨trivial, nofun⟩
  -- waiting is a sequence of looks, and only the last one may have found a frame
  induction cycles with
  | zero => exact hnone
  | succ cycles ih =>
    refine (receive_frame false).promises_bind (fun found => ?_) fun _ _ h => h
    cases found with
    | some frame => exact promises_pure fun _ _ h => h
    | none =>
      refine Ensures.of_left ?_
      show Ensures Any (if cycles = 0 then Pure.pure none else pause >>= fun _ => await cycles) _
      have hpause : Keeps Any (pause (ω := ω)) := fun _ _ h => h
      by_cases hlast : cycles = 0
      · rw [if_pos hlast]
        exact hnone
      · rw [if_neg hlast]
        exact hpause.promises_bind (fun _ => ih) fun _ _ h => h

/-- The frame that an exchange ends with has just been handed out. -/
theorem sendReceive_frame (frame : Frame) (timeout : UInt32) :
    Ensures Any (sendReceive (ω := ω) frame timeout)
      (Promises Any fun answer link history => Handed (some answer) link history) := by
  have hsend : Keeps Any (send (ω := ω) frame) := fun _ _ h => h
  refine hsend.promises_bind
    (fun _ => ensures_get_bind fun link => Ensures.of_left ?_) fun _ _ h => h
  refine (await_frame _).promises_bind (fun found => ?_) fun _ _ h => h
  cases found with
  | some answer => exact promises_pure fun _ _ h => h
  | none =>
    have hlog : Keeps Any (Act.log (.timedOut frame.command timeout) : Act (Link ω) Unit) :=
      fun _ _ h => h
    exact Ensures.of_left
      (hlog.promises_bind (fun _ => promises_fail fun _ _ h => h) fun _ _ h => h)

omit [Wire ω] in
/-- A response that a frame is read as is the answer that it carries. -/
theorem interpret_spec (request : Request) (answer : Frame) :
    Ensures (Handed (some answer)) (interpret (ω := ω) request answer)
      (Promises Any fun response _ history => Answered request response history) := by
  refine fun link history hlast => ⟨trivial, fun response hending => ⟨answer, ?_, ?_⟩⟩
  -- reading the answer adds no events, so the frame stays the last one
  · have hkeeps : Keeps (Handed (some answer)) (interpret (ω := ω) request answer) :=
      keeps_interpret request answer
    exact hkeeps link history hlast answer rfl
  · simp only [interpret] at hending
    cases hanswer : Response.answerTo request answer with
    | error error =>
      rw [hanswer] at hending
      cases hending
    | ok response' =>
      rw [hanswer] at hending
      -- only a refusal is not passed on
      cases response' with
      | failure status => cases hending
      | _ =>
        cases hending
        rfl

/-- A response that was looked for is what the frame handed out last says. -/
theorem pollResponse_spec (request : Request) :
    Ensures Any (pollResponse (ω := ω) request) (Promises Any fun found _ history =>
      ∀ response, found = some response → Answered request response history) := by
  refine (receive_frame false).promises_bind (fun found => ?_) fun _ _ h => h
  cases found with
  | some answer =>
    refine (interpret_spec request answer).of_right.promises_bind
      (fun response => promises_pure fun _ _ h => ⟨h.1, ?_⟩) fun _ _ h => h
    intro response' heq
    obtain rfl := Option.some.inj heq
    exact h.2
  | none => exact promises_pure fun _ _ h => ⟨h.1, fun _ heq => nomatch heq⟩

/-- The response to a request was read from the frame handed out last. -/
theorem request_spec (asked : Request) :
    Ensures Any (request (ω := ω) asked)
      (Promises Any fun response _ history => Answered asked response history) := by
  have hlift : Keeps Any (Act.lift .codec asked.toFrame : Act (Link ω) Frame) := fun _ _ h => h
  refine hlift.promises_bind (fun frame => ensures_get_bind fun link => Ensures.of_left ?_)
    fun _ _ h => h
  refine (sendReceive_frame frame _).promises_bind (fun answer => ?_) fun _ _ h => h
  exact (interpret_spec asked answer).of_right

/-! ## Timing and the sink -/

/-- The timing of the link and the calls on the sink so far. -/
def Plain (config : Config) (calls : List Sink.Call) (link : Link ω) (history : List Event) :
    Prop :=
  link.config = config ∧ sunk history = calls

omit [Wire ω] in
/-- What is no call on the sink and leaves the timing alone keeps both. -/
theorem Plain.quiet {config : Config} {calls : List Sink.Call} {link link' : Link ω}
    {history events : List Event} (h : Plain config calls link history)
    (hconfig : link'.config = link.config) (hevents : sunk events = []) :
    Plain config calls link' (history ++ events) :=
  ⟨hconfig.trans h.1, by rw [sunk_append, h.2, hevents, List.append_nil]⟩

/-- Calls change neither the timing nor call the sink. -/
theorem maintained_plain (may : Frame → Prop) (config : Config) (calls : List Sink.Call) :
    Maintained may (Plain (ω := ω) config calls) where
  send _ _ := keeps_send (ensures_report fun _ _ h => h.quiet rfl rfl)
    fun _ _ h => h.quiet rfl rfl
  receive := by
    refine keeps_receive_of_keeps (fun link _ h => h.quiet rfl ?_) (fun _ _ _ h => h.quiet rfl rfl)
      fun h => h
    -- a search adds nothing but log entries
    refine List.filterMap_eq_nil_iff.2 fun event hmem => ?_
    obtain ⟨entry, rfl⟩ := exists_entry_of_mem_search hmem
    rfl
  log _ _ := ensures_report fun _ _ h => h.quiet rfl rfl
  pause := keeps_get.bind fun _ => ensures_report fun _ _ h => h.quiet rfl rfl

end Link

end Multimeter
