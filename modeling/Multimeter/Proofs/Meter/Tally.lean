import Multimeter.Proofs.Link.Decided
import Multimeter.Proofs.Meter.Errors
import Multimeter.Proofs.Meter.Retry
/-!
# What a look for an answer counts

A request that is given up, because no answer comes or a wrong one does, is reported and counts an
error; a block without entries is reported, too. The reports of both are tallied, and one look for
an answer is described by how it ends, where the error counter stands behind it and what was added
to the tally.

* `tally`: the requests given up and the blocks without entries in a history.
* `Meter.Tallied`: the error counter and the tally, which most steps of a poll leave alone.
* `Meter.Exchanged`, `Meter.pollExchange_exchanged`: the ways in which a look for an answer ends.
-/

namespace Multimeter

/-- A request in flight was given up, and an error was counted for it. -/
def Event.isAbandonment : Event → Bool
  | logged (.unanswered _ _) | logged (.refused _) => true
  | _ => false

/-- A block without entries arrived. -/
def Event.isEmptyBlock : Event → Bool
  | logged (.emptyBlock _ _) => true
  | _ => false

/-- How many requests were given up, and how many blocks without entries arrived. -/
def tally (history : List Event) : Nat × Nat :=
  (history.countP Event.isAbandonment, history.countP Event.isEmptyBlock)

/-- What a concatenation counts is what its parts count together. -/
theorem tally_append (xs ys : List Event) :
    tally (xs ++ ys) = ((tally xs).1 + (tally ys).1, (tally xs).2 + (tally ys).2) := by
  rw [tally, List.countP_append, List.countP_append]
  rfl

namespace Link

open Act

variable {ω : Type} {counts : Nat × Nat}

/-- What has been reported adds up to these counts. -/
def Tallied (counts : Nat × Nat) (_ : Link ω) (history : List Event) : Prop :=
  tally history = counts

/-- Events that count nothing leave the tally of a link as it is. -/
theorem Tallied.quiet {link link' : Link ω} {history events : List Event}
    (h : Tallied counts link history) (hevents : tally events = (0, 0)) :
    Tallied counts link' (history ++ events) := by
  rw [Tallied, tally_append, hevents]
  exact h

/-- A search counts nothing. -/
theorem tally_search (link : Link ω) : tally (search.run link).events = (0, 0) := by
  have hsearch : ∀ event ∈ (search.run link).events,
      event.isAbandonment = false ∧ event.isEmptyBlock = false := by
    intro event hmem
    obtain ⟨errors, hevents⟩ := events_search link
    rw [hevents, List.mem_append, List.mem_map, List.mem_map] at hmem
    rcases hmem with ⟨error, -, rfl⟩ | ⟨frame, -, rfl⟩
    · exact ⟨rfl, rfl⟩
    · exact ⟨rfl, rfl⟩
  refine Prod.ext (List.countP_eq_zero.2 fun event hmem => ?_)
    (List.countP_eq_zero.2 fun event hmem => ?_)
  · exact Bool.eq_false_iff.1 (hsearch event hmem).1
  · exact Bool.eq_false_iff.1 (hsearch event hmem).2

variable [Wire ω]

/-- Only a failure of the line keeps a request from being sent that can be written. -/
theorem sendRequest_hard {asked : Request} {sent : Frame} (hsent : asked.toFrame = .ok sent)
    {link : Link ω} {error : SessionError}
    (hending : ((sendRequest asked).run link).ending = .failed error) :
    error.isRetryable = false := by
  rcases sendRequest_decided hsent link [] trivial with heq | ⟨-, error', heq, hline⟩
  · cases hending.symm.trans heq
  · obtain rfl := Ending.failed.inj (hending.symm.trans heq)
    exact SessionError.isRetryable_of_isLine hline

/-- Sending a request is no setback, nor is looking for its answer. -/
theorem sendRequest_tallied (asked : Request) :
    Keeps (Tallied counts) (sendRequest (ω := ω) asked) :=
  (keeps_lift _ _).bind fun _ =>
    keeps_send (fun _ _ h => h.quiet rfl) fun _ _ h => h.quiet rfl

/-- A look for an answer counts nothing. -/
theorem pollResponse_tallied (asked : Request) :
    Keeps (Tallied counts) (pollResponse (ω := ω) asked) := by
  have hreceive : Keeps (Tallied counts) (receive (ω := ω) false) :=
    keeps_receive_of_keeps (fun link _ h => h.quiet (tally_search link))
      (fun _ _ _ h => h.quiet rfl) (fun h => h) false
  refine hreceive.bind fun found => ?_
  cases found with
  | some answer => exact (keeps_interpret asked answer).bind fun _ => keeps_pure _
  | none => exact keeps_pure none

end Link

namespace Meter

open Act

variable {ω : Type} {blocks : Prop} {health : Health} {counts : Nat × Nat}

/-- The error counter stands as given, and what has been reported adds up to these counts. -/
structure Tallied (health : Health) (counts : Nat × Nat) (meter : Meter ω) (history : List Event) :
    Prop where
  /-- The error counter. -/
  health_eq : meter.health = health
  /-- The counts. -/
  tally_eq : tally history = counts

/-- Events that count nothing leave the tally of a session as it is. -/
theorem Tallied.quiet {meter meter' : Meter ω} {history events : List Event}
    (h : Tallied health counts meter history) (hhealth : meter'.health = meter.health)
    (hevents : tally events = (0, 0)) : Tallied health counts meter' (history ++ events) := by
  refine ⟨hhealth.trans h.health_eq, ?_⟩
  rw [tally_append, hevents]
  exact h.tally_eq

/-- What keeps the tally of the link keeps that of the session. -/
theorem onLink_tallied {α : Type} {act : Act (Link ω) α} (h : Keeps (Link.Tallied counts) act) :
    Keeps (Tallied health counts) (onLink act) :=
  fun meter history htallied => ⟨htallied.health_eq, h meter.link history htallied.tally_eq⟩

/-- Handing over samples is no setback. -/
theorem emitting_tallied : Emitting (Tallied (ω := ω) health counts) where
  report {message entry} hmem := by
    -- a message is reported as a notice or as a fault
    have hentry : tally [.logged entry] = (0, 0) := by
      rw [Message.report] at hmem
      split at hmem
      · cases hmem
      · rw [List.mem_singleton.1 hmem]
        rfl
      · rw [List.mem_singleton.1 hmem]
        rfl
    exact fun _ _ h => h.quiet rfl hentry
  sink _ := fun _ _ h => h.quiet rfl rfl
  changePoll _ := fun _ _ h => h.quiet rfl rfl

/-- A change of what is in flight counts nothing. -/
theorem changePoll_tallied (change : Poll → Poll) :
    Ensures (Tallied (ω := ω) health counts) (changePoll change)
      (Returns () (Tallied health counts)) :=
  ensures_modify fun _ _ h => ⟨rfl, h.health_eq, h.tally_eq⟩

/-- Counting an error fails if that passes the ceiling. -/
theorem countError_tallied : Ensures (Tallied (ω := ω) health counts) countError
    fun ending meter history => Tallied health.recordError counts meter history ∧
      (health.recordError.isExceeded = false ∧ ending = .returned () ∨
        health.recordError.isExceeded = true ∧ ending = .failed .unresponsive) := by
  rintro meter history ⟨rfl, htally⟩
  have hcounted : Tallied meter.health.recordError counts
      { meter with health := meter.health.recordError } history := ⟨rfl, htally⟩
  cases hexceeded : meter.health.recordError.isExceeded with
  | true =>
    rw [run_countError_exceeded meter hexceeded]
    exact ⟨hcounted.quiet rfl rfl, .inr ⟨rfl, rfl⟩⟩
  | false =>
    rw [run_countError_tolerated meter hexceeded, List.append_nil]
    exact ⟨hcounted, .inl ⟨rfl, rfl⟩⟩

/-! ## One exchange -/

/-- How a look for an answer ends and counts. -/
inductive Exchanged (health : Health) (counts : Nat × Nat) (meter : Meter ω)
    (history : List Event) : Ending (Option Response) → Prop
  /-- The answer has arrived. -/
  | answered (response : Response) (h : Tallied health.recordSuccess counts meter history) :
      Exchanged health counts meter history (.returned (some response))
  /-- The answer may still arrive. -/
  | awaited (h : Tallied health counts meter history) :
      Exchanged health counts meter history (.returned none)
  /-- The request was given up, and another error is tolerated. -/
  | abandoned (error : SessionError) (hsoft : error.isRetryable = true)
      (h : Tallied health.recordError (counts.1 + 1, counts.2) meter history)
      (htolerated : health.recordError.isExceeded = false) :
      Exchanged health counts meter history (.failed error)
  /-- The request was given up, and so is the meter. -/
  | exceeded (h : Tallied health.recordError (counts.1 + 1, counts.2) meter history)
      (hexceeded : health.recordError.isExceeded = true) :
      Exchanged health counts meter history (.failed .unresponsive)
  /-- The line has failed. -/
  | broken (error : SessionError) (hhard : error.isRetryable = false)
      (h : Tallied health counts meter history) :
      Exchanged health counts meter history (.failed error)

/-- Giving up a request counts an error. -/
theorem abandon_exchanged {entry : Log.Entry} (hentry : tally [.logged entry] = (1, 0))
    {error : SessionError} (hsoft : error.isRetryable = true) :
    Ensures (Tallied health counts)
      (log entry >>= fun _ => changePoll Poll.clear >>= fun _ => countError >>= fun _ =>
        (fail error : Act (Meter ω) (Option Response)))
      fun ending meter history => Exchanged health counts meter history ending := by
  have hlog : Ensures (Tallied (ω := ω) health counts) (log entry)
      (Returns () (Tallied health (counts.1 + 1, counts.2))) := by
    refine fun meter history h => ⟨rfl, h.health_eq, ?_⟩
    show tally (history ++ [.logged entry]) = _
    rw [tally_append, h.tally_eq, hentry]
    rfl
  refine hlog.returns_bind ((changePoll_tallied _).returns_bind ?_)
  refine countError_tallied.bind (fun _ => ?_) (fun error' meter history h => ?_)
    fun meter history h => ?_
  · -- the error is tolerated
    refine ensures_fail fun meter history h => ?_
    obtain ⟨htallied, ⟨htolerated, -⟩ | ⟨-, hending⟩⟩ := h
    · exact .abandoned error hsoft htallied htolerated
    · cases hending
  · -- it is one too many, and the meter is given up instead
    obtain ⟨htallied, ⟨-, hending⟩ | ⟨hexceeded, hending⟩⟩ := h
    · cases hending
    · rw [Ending.failed.inj hending]
      exact .exceeded htallied hexceeded
  · obtain ⟨-, ⟨-, hending⟩ | ⟨-, hending⟩⟩ := h <;> cases hending

variable [Wire ω]

/-- A request that can be written is sent unless the line fails. -/
theorem pendingOrSend_tallied {asked : Request} {sent : Frame} (hsent : asked.toFrame = .ok sent) :
    Ensures (Tallied (ω := ω) health counts) (pendingOrSend asked) fun ending meter history =>
      Tallied health counts meter history ∧ ending ≠ .unfinished ∧
        ∀ error, ending = .failed error → error.isRetryable = false := by
  refine ensures_get_bind fun meter => Ensures.of_left ?_
  cases meter.poll.pending with
  | some pending => exact ensures_pure fun _ _ h => ⟨h, nofun, nofun⟩
  | none =>
    have hsend : Ensures (Tallied (ω := ω) health counts) (onLink (Link.sendRequest asked))
        fun ending meter history => Tallied health counts meter history ∧ ending ≠ .unfinished ∧
          ∀ error, ending = .failed error → error.isRetryable = false := by
      refine fun meter history h =>
        ⟨onLink_tallied (Link.sendRequest_tallied asked) meter history h,
          Link.finishes_sendRequest asked meter.link, fun error heq => ?_⟩
      exact Link.sendRequest_hard hsent heq
    refine hsend.bind (fun _ => ?_) (fun error _ _ h => ⟨h.1, nofun, ?_⟩) fun _ _ h => ?_
    · exact ((changePoll_tallied _).weaken (fun _ _ h => h.1) fun _ _ _ h => h).returns_bind
        (ensures_pure fun _ _ h => ⟨h, nofun, nofun⟩)
    · intro error' heq
      rw [← Ending.failed.inj heq]
      exact h.2.2 error rfl
    · exact absurd rfl h.2.1

/-- One look for an answer counts a success, an error, or nothing yet. -/
theorem pollExchange_exchanged {asked : Request} {sent : Frame} (hsent : asked.toFrame = .ok sent) :
    Ensures (Tallied (ω := ω) health counts) (pollExchange asked)
      fun ending meter history => Exchanged health counts meter history ending := by
  refine (pendingOrSend_tallied hsent).bind (fun request => Ensures.of_left ?_)
    (fun error _ _ h => .broken error (h.2.2 error rfl) h.1) fun _ _ h => absurd rfl h.2.1
  -- the look itself counts nothing, so what is counted is what is made of its end
  have hlook : Ensures (Tallied (ω := ω) health counts) (onLink (Link.pollResponse request))
      fun ending meter history => ending ≠ .unfinished ∧ Tallied health counts meter history :=
    fun meter history h => ⟨Link.finishes_pollResponse request meter.link,
      onLink_tallied (Link.pollResponse_tallied request) meter history h⟩
  refine hlook.attempt_bind (fun _ _ h => h.1 rfl) (fun found => ?_) fun error => ?_
  · refine Ensures.of_right ?_
    cases found with
    | some response =>
      have hcount : Ensures (Tallied (ω := ω) health counts) countSuccess
          (Returns () (Tallied health.recordSuccess counts)) := by
        refine ensures_modify fun meter history h => ⟨rfl, ?_, h.tally_eq⟩
        rw [← h.health_eq]
      exact (changePoll_tallied _).returns_bind (hcount.returns_bind
        (ensures_pure fun _ _ h => .answered response h))
    | none =>
      -- without an answer, the request is abandoned once its polls are used up
      refine (changePoll_tallied _).returns_bind (ensures_get_bind fun meter => Ensures.of_left ?_)
      show Ensures _ (if meter.link.config.budget ≤ meter.poll.polls then _ else _) _
      split
      · exact abandon_exchanged rfl rfl
      · exact ensures_pure fun _ _ h => .awaited h
  · refine Ensures.of_right ?_
    show Ensures _ (if error.isRetryable then _ else _) _
    split
    · rename_i hsoft
      exact abandon_exchanged rfl hsoft
    · rename_i hhard
      exact (changePoll_tallied _).returns_bind (ensures_fail fun _ _ h =>
        .broken error (Bool.eq_false_iff.2 hhard) h)

end Meter

end Multimeter
