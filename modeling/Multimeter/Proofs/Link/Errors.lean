import Multimeter.Proofs.Act.Errors
import Multimeter.Proofs.Codec
import Multimeter.Proofs.Link.Calls
import Multimeter.Proofs.Parser.Transition
/-!
# Errors of a link

What goes wrong on the line never stops the parser of a link: what it has of a frame is always the
beginning of one, so it recovers from every error. What may end a call is a failure of the line, or
something that can be tried again.

* `Coherent`: the parser of the link is in order.
* `search_ends`: a search for a frame never fails.
* `request_ends`, `pollResponse_ends`: the errors of an exchange, and the command of its response.
-/

namespace Multimeter

namespace SessionError

/-- The line has failed. -/
def isLine : SessionError → Bool
  | io _ | shortWrite _ _ => true
  | _ => false

/-- The line has failed, or more errors were counted than are tolerated. -/
def isHard : SessionError → Bool
  | io _ | shortWrite _ _ | unresponsive => true
  | _ => false

/-- The error comes from the line, or it may go away. -/
def Expected (error : SessionError) : Prop := error.isHard = true ∨ error.isRetryable = true

/-- An error of the line is one that ends an operation. -/
theorem isHard_of_isLine {error : SessionError} (h : error.isLine = true) :
    error.isHard = true := by
  cases error with
  | io | shortWrite => rfl
  | _ => cases h

/-- A failure of the line does not go away. -/
theorem isRetryable_of_isLine {error : SessionError} (h : error.isLine = true) :
    error.isRetryable = false := by
  cases error with
  | io | shortWrite => rfl
  | _ => cases h

end SessionError

/-- What was found has the command of the request, if it is anything. -/
def Request.AnsweredBy (request : Request) (found : Option Response) : Prop :=
  ∀ response, found = some response → response.command = request.command

namespace Frame.Parser

/-- A search with a coherent parser recovers from every error and leaves the parser coherent. -/
theorem coherent_scan {parser : Parser} (h : parser.Coherent) (bytes : List UInt8) :
    (parser.scan bytes).parser.Coherent ∧ ∃ found, (parser.scan bytes).found = .ok found := by
  fun_induction scan parser bytes with
  | case1 => exact ⟨h, none, rfl⟩
  | case2 parser byte bytes next hfeed ih =>
    have hnext := coherent_feed h byte
    rw [hfeed] at hnext
    exact ih hnext
  | case3 parser byte bytes frame next hfeed =>
    have hnext := coherent_feed h byte
    rw [hfeed] at hnext
    exact ⟨hnext, some frame, rfl⟩
  | case4 parser byte bytes error next hfeed hrecoverable later ih =>
    have hnext := coherent_feed h byte
    rw [hfeed] at hnext
    exact ih hnext
  -- there is no error that the parser does not recover from
  | case5 parser byte bytes error next hfeed hrecoverable =>
    have herror : (parser.feed byte).1 = .error error := by rw [hfeed]
    exact absurd (isRecoverable_of_feed h herror) hrecoverable

end Frame.Parser

namespace Link

open Act

variable {ω : Type}

/-- What the parser of the link holds is the beginning of a frame. -/
def Coherent (link : Link ω) (_ : List Event) : Prop := link.parser.Coherent

/-- The parser of a new link holds the beginning of a frame, which is empty. -/
theorem coherent_new (wire : ω) (config : Config) (history : List Event) :
    Coherent (Link.new wire config) history :=
  Frame.Parser.coherent_new .response

/-- A search never fails. -/
theorem search_ends : Ensures Coherent (search (ω := ω))
    (Ends Coherent (fun _ => True) fun _ => False) := by
  intro link history h
  obtain ⟨hparser, found, hfound⟩ := Frame.Parser.coherent_scan h link.rest
  refine ⟨hparser, fun _ _ => trivial, fun error heq => ?_⟩
  simp [search, Act.run, hfound] at heq

variable [Wire ω]

/-- A read fails only with a fault of the wire. -/
theorem read_ends (wait : Wait) (capacity : Nat) : Ensures Coherent (read (ω := ω) wait capacity)
    (Ends Coherent (fun _ => True) fun error => ∃ fault, error = .io fault) := by
  refine fun link history h => ⟨h, fun _ _ => trivial, fun error heq => ?_⟩
  simp only [read, Act.run] at heq
  split at heq
  · cases heq
  · exact ⟨_, (Ending.failed.inj heq).symm⟩

/-- A write fails only with a fault of the wire. -/
theorem write_ends (bytes : List UInt8) : Ensures Coherent (write (ω := ω) bytes)
    (Ends Coherent (fun _ => True) fun error => ∃ fault, error = .io fault) := by
  refine fun link history h => ⟨h, fun _ _ => trivial, fun error heq => ?_⟩
  simp only [write, Act.run] at heq
  split at heq
  · cases heq
  · exact ⟨_, (Ending.failed.inj heq).symm⟩

/-! ## Frames -/

/-- The state of the line is all that keeps a frame from being sent. -/
theorem send_ends (frame : Frame) : Ensures Coherent (send (ω := ω) frame)
    (Ends Coherent (fun _ => True) SessionError.Expected) := by
  refine (returns_log fun _ _ h => h).returns_bind ?_
  refine (write_ends frame.encode).ends_bind (fun written _ => ?_) (fun _ _ h => h) ?_
  · split
    · exact ends_fail (fun _ _ h => h) (.inl rfl)
    · exact ends_pure (fun _ _ h => h) trivial
  · rintro error ⟨fault, rfl⟩
    exact .inl rfl

/-- A look for a frame fails only if the line does. -/
theorem receive_io (blocking : Bool) : Ensures Coherent (receive (ω := ω) blocking)
    (Ends Coherent (fun _ => True) fun error => ∃ fault, error = .io fault) := by
  refine search_ends.ends_bind (fun found _ => ?_) (fun _ _ h => h) nofun
  rcases found with _ | frame
  · refine ensures_get_bind fun link => Ensures.of_left ?_
    refine (read_ends _ _).ends_bind (fun bytes _ => ?_) (fun _ _ h => h) fun _ h => h
    have hagain : Ensures Coherent (search (ω := ω))
        (Ends Coherent (fun _ => True) fun error => ∃ fault, error = .io fault) :=
      search_ends.weaken (fun _ _ h => h) fun _ _ _ h => h.weaken (fun _ h => h) nofun
    exact ensures_modify_bind hagain fun _ _ h => h
  · exact ends_pure (fun _ _ h => h) trivial

/-- A look for a frame fails only with an error of the line, or with one that may go away. -/
theorem receive_ends (blocking : Bool) : Ensures Coherent (receive (ω := ω) blocking)
    (Ends Coherent (fun _ => True) SessionError.Expected) := by
  refine (receive_io blocking).weaken (fun _ _ h => h) fun _ _ _ h => h.weaken (fun _ h => h) ?_
  rintro error ⟨fault, rfl⟩
  exact .inl rfl

/-- Waiting for a frame fails only as its looks do. -/
theorem await_ends (cycles : Nat) : Ensures Coherent (await (ω := ω) cycles)
    (Ends Coherent (fun _ => True) SessionError.Expected) := by
  have hnone : Ensures Coherent (Pure.pure none : Act (Link ω) (Option Frame))
      (Ends Coherent (fun _ => True) SessionError.Expected) := ends_pure (fun _ _ h => h) trivial
  have hpause : Ensures Coherent (pause (ω := ω)) (Returns () Coherent) :=
    ensures_get_bind fun link => Ensures.of_left (ensures_report fun _ _ h => ⟨rfl, h⟩)
  induction cycles with
  | zero => exact hnone
  | succ cycles ih =>
    refine (receive_ends false).ends_bind (fun found _ => ?_) (fun _ _ h => h) fun _ h => h
    rcases found with _ | frame
    · show Ensures _ (if cycles = 0 then Pure.pure none else pause >>= fun _ => await cycles) _
      split
      · exact hnone
      · exact hpause.returns_bind ih
    · exact ends_pure (fun _ _ h => h) trivial

/-- An exchange of frames fails only with an error of the line, or since its time is up. -/
theorem sendReceive_ends (frame : Frame) (timeout : UInt32) :
    Ensures Coherent (sendReceive (ω := ω) frame timeout)
      (Ends Coherent (fun _ => True) SessionError.Expected) := by
  refine (send_ends frame).ends_bind (fun _ _ => ?_) (fun _ _ h => h) fun _ h => h
  refine ensures_get_bind fun link => Ensures.of_left ?_
  refine (await_ends _).ends_bind (fun found _ => ?_) (fun _ _ h => h) fun _ h => h
  rcases found with _ | answer
  · exact (returns_log fun _ _ h => h).returns_bind (ends_fail (fun _ _ h => h) (.inr rfl))
  · exact ends_pure (fun _ _ h => h) trivial

/-! ## Messages -/

omit [Wire ω] in
/-- A response has the command of the request; whatever else a frame says may go away. -/
theorem interpret_ends (request : Request) (answer : Frame) :
    Ensures Coherent (interpret (ω := ω) request answer)
      (Ends Coherent (fun response => response.command = request.command) (·.isRetryable)) := by
  refine ends_lift_bind (fun response hanswer => ?_) (fun _ _ h => h) fun error herror => ?_
  · have hcommand := Response.command_of_answerTo hanswer
    split
    · exact ends_fail (fun _ _ h => h) rfl
    · rename_i hresponse
      refine ends_pure (fun _ _ h => h) (hcommand.resolve_left fun hfailure => ?_)
      -- only a refusal has the command of one
      cases response <;> simp_all [Response.command]
  · rw [Response.error_of_answerTo herror]
    rfl

/-- Sending a request fails only with an error of the line, or because the request has no frame. -/
theorem sendRequest_ends (request : Request) : Ensures Coherent (sendRequest (ω := ω) request)
    (Ends Coherent (fun _ => True) SessionError.Expected) := by
  refine ends_lift_bind (fun frame _ => send_ends frame) (fun _ _ h => h) fun error herror => ?_
  rw [Request.error_of_toFrame herror]
  exact .inr rfl

/-- A look for an answer ends with a response to the request or with nothing, unless the line fails
or the frame found is refused. -/
theorem pollResponse_line (request : Request) : Ensures Coherent (pollResponse (ω := ω) request)
    (Ends Coherent request.AnsweredBy fun error =>
      error.isLine = true ∨ error.isRetryable = true) := by
  refine (receive_io false).ends_bind (fun found _ => ?_) (fun _ _ h => h) ?_
  · rcases found with _ | answer
    · exact ends_pure (fun _ _ h => h) (fun _ heq => nomatch heq)
    · refine (interpret_ends request answer).ends_bind (fun response hcommand => ?_)
        (fun _ _ h => h) fun _ h => .inr h
      refine ends_pure (fun _ _ h => h) fun response' heq => ?_
      rwa [← Option.some.inj heq]
  · rintro error ⟨fault, rfl⟩
    exact .inl rfl

/-- A look for an answer ends with a response to the request, with nothing or with an expected
error. -/
theorem pollResponse_ends (request : Request) : Ensures Coherent (pollResponse (ω := ω) request)
    (Ends Coherent request.AnsweredBy SessionError.Expected) :=
  (pollResponse_line request).weaken (fun _ _ h => h) fun _ _ _ h =>
    h.weaken (fun _ h => h) fun _ h => h.imp_left SessionError.isHard_of_isLine

/-- An exchange ends with a response to the request or with an expected error. -/
theorem request_ends (asked : Request) : Ensures Coherent (request (ω := ω) asked)
    (Ends Coherent (fun response => response.command = asked.command)
      SessionError.Expected) := by
  refine ends_lift_bind (fun frame _ => ?_) (fun _ _ h => h) fun error herror => ?_
  · refine ensures_get_bind fun link => Ensures.of_left ?_
    refine (sendReceive_ends frame _).ends_bind (fun answer _ => ?_) (fun _ _ h => h) fun _ h => h
    exact (interpret_ends asked answer).weaken (fun _ _ h => h) fun _ _ _ h =>
      h.weaken (fun _ h => h) fun _ h => .inr h
  · rw [Request.error_of_toFrame herror]
    exact .inr rfl

/-- What calls are made of leaves the parser in order. -/
theorem maintained_coherent (may : Frame → Prop) : Maintained may (Coherent (ω := ω)) where
  send frame _ := fun link history h => (send_ends frame link history h).kept
  receive blocking := fun link history h => (receive_ends blocking link history h).kept
  log _ _ := fun _ _ h => h
  pause := fun _ _ h => h

/-! ## Starting afresh -/

/-- Starting afresh fails if the line does. -/
theorem reset_ends (patience : Nat) : Ensures Coherent (reset (ω := ω) patience)
    (Ends Coherent (fun _ => True) fun error => ∃ fault, error = .io fault) := by
  have hdrain : Ensures Coherent (drain (ω := ω) patience)
      (Ends Coherent (fun _ => True) fun error => ∃ fault, error = .io fault) := by
    induction patience with
    | zero => exact ends_giveUp fun _ _ h => h
    | succ patience ih =>
      refine (read_ends .never drainSize).ends_bind (fun bytes _ => ?_) (fun _ _ h => h)
        fun _ h => h
      split
      · exact ends_pure (fun _ _ h => h) trivial
      · exact ih.ends_bind (fun later _ => ends_pure (fun _ _ h => h) trivial) (fun _ _ h => h)
          fun _ h => h
  have hrest : Ensures Coherent (drain (ω := ω) patience >>= fun _ => Pure.pure ())
      (Ends Coherent (fun _ => True) fun error => ∃ fault, error = .io fault) :=
    hdrain.ends_bind (fun _ _ => ends_pure (fun _ _ h => h) trivial) (fun _ _ h => h) fun _ h => h
  exact ensures_modify_bind hrest fun link _ _ => Frame.Parser.coherent_reset link.parser

end Link

end Multimeter
