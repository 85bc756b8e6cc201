import Multimeter.Proofs.Meter.Emission
/-!
# What is in flight

The request in flight, the polls spent on it, the window and the playback position, over any wire.

* `Poll.Sound`: what always holds of them.
* `Poll.After`: how one poll changes them.
* `pollExchange_spec`: one poll; a response is read from the frame handed out last.
* `pollLive_spec`: a poll of the displays hands over the group of the display answer in the frame
  handed out last, or nothing.
-/

namespace Multimeter

namespace Poll

/-- What the session asks for: the displays if nothing is played back, else its window. -/
def Asks (poll : Poll) (request : Request) : Prop :=
  request = .readDisplay ∧ poll.playback = none ∨
    ∃ window kind, request = .readMemory window.request ∧ poll.window = some window ∧
      poll.playback = some kind

/-- What always holds of the request in flight and of the playback position. -/
structure Sound (budget : Nat) (poll : Poll) : Prop where
  /-- No polls are counted without a request. -/
  polls_eq : poll.pending = none → poll.polls = 0
  /-- A request has been looked for, but not as often as is allowed. -/
  polls_lt : ∀ request, poll.pending = some request → 0 < poll.polls ∧ poll.polls < budget
  /-- The request in flight is what the session asks for. -/
  asks : ∀ request, poll.pending = some request → poll.Asks request
  /-- The window covers entries from the playback position on. -/
  covers : ∀ kind window, poll.playback = some kind → poll.window = some window →
    window.Covers kind.layout poll.cursor

/-- How one poll for the answer to `request` changes what is in flight: a response settles
the request, a missing answer is counted, and a failure abandons the request unless it was
never sent. -/
def After (request : Request) (budget : Nat) (before : Poll) :
    Ending (Option Response) → Poll → Prop
  | .returned (some _), after => after = { before with pending := none, polls := 0 }
  | .returned none, after => before.polls + 1 < budget ∧
      after = { before with pending := some request, polls := before.polls + 1 }
  | .failed _, after => before.pending = none ∧ after = before ∨ after = before.clear
  | .unfinished, _ => False

/-- Nothing is in flight at first. -/
theorem sound_new (budget : Nat) : Sound budget {} :=
  ⟨fun _ => rfl, nofun, nofun, nofun⟩

/-- Nothing is in flight after clearing. -/
theorem sound_clear (budget : Nat) (poll : Poll) : poll.clear.Sound budget :=
  ⟨fun _ => rfl, nofun, nofun, nofun⟩

variable {budget : Nat} {poll : Poll} {request : Request}

/-- Nothing else is in flight than what the session asks for. -/
theorem Sound.pending_of_asks (h : poll.Sound budget) (hasks : poll.Asks request) :
    poll.pending = none ∧ poll.polls = 0 ∨ poll.pending = some request := by
  cases hpending : poll.pending with
  | none => exact .inl ⟨rfl, h.polls_eq hpending⟩
  | some pending =>
    refine .inr (congrArg some ?_)
    -- what is in flight and what is asked for both follow the playback, so they agree
    rcases h.asks pending hpending with ⟨rfl, hnone⟩ | ⟨window, kind, rfl, hwindow, hkind⟩
    · rcases hasks with ⟨rfl, -⟩ | ⟨_, _, -, -, hsome⟩
      · rfl
      · rw [hnone] at hsome
        cases hsome
    · rcases hasks with ⟨-, hnone⟩ | ⟨window', _, rfl, hwindow', -⟩
      · rw [hkind] at hnone
        cases hnone
      · obtain rfl : window = window' := Option.some.inj (hwindow.symm.trans hwindow')
        rfl

/-- One poll for what the session asks for keeps everything in order. -/
theorem Sound.after (h : poll.Sound budget) (hasks : poll.Asks request)
    {ending : Ending (Option Response)} {after : Poll}
    (hafter : poll.After request budget ending after) :
    after.Sound budget := by
  match ending, hafter with
  | .returned (some _), hafter =>
    rw [hafter]
    exact ⟨fun _ => rfl, nofun, nofun, h.covers⟩
  | .returned none, ⟨hbudget, hafter⟩ =>
    rw [hafter]
    refine ⟨nofun, fun _ _ => ⟨Nat.succ_pos _, hbudget⟩, fun request' heq => ?_, h.covers⟩
    obtain rfl : request = request' := Option.some.inj heq
    exact hasks
  | .failed _, .inl hafter =>
    rw [hafter.2]
    exact h
  | .failed _, .inr hafter =>
    rw [hafter]
    exact sound_clear budget poll

/-- A poll for an answer moves no playback. -/
theorem After.same_position {ending : Ending (Option Response)} {after : Poll}
    (h : poll.After request budget ending after) :
    after.playback = poll.playback ∧ after.cursor = poll.cursor := by
  match ending, h with
  | .returned (some _), h =>
    rw [h]
    exact ⟨rfl, rfl⟩
  | .returned none, h =>
    rw [h.2]
    exact ⟨rfl, rfl⟩
  | .failed _, .inl h =>
    rw [h.2]
    exact ⟨rfl, rfl⟩
  | .failed _, .inr h =>
    rw [h]
    exact ⟨rfl, rfl⟩

/-- What is in flight when live polling takes over: at most a request for the displays. -/
def turnLive (poll : Poll) : Poll :=
  let poll := if poll.pending.any (· ≠ .readDisplay) then poll.clear else poll
  { poll with playback := none }

/-- A session that is polled live asks for the displays. -/
theorem asks_turnLive (poll : Poll) : poll.turnLive.Asks .readDisplay := .inl ⟨rfl, rfl⟩

/-- What is in flight stays in order when live polling takes over. -/
theorem Sound.turnLive (h : poll.Sound budget) : poll.turnLive.Sound budget := by
  unfold Poll.turnLive
  split
  · exact ⟨fun _ => rfl, nofun, nofun, nofun⟩
  -- what is kept in flight is a request for the displays
  · rename_i hlive
    refine ⟨h.polls_eq, h.polls_lt, fun request hpending => .inl ⟨?_, rfl⟩, nofun⟩
    have hpending : poll.pending = some request := hpending
    simpa [hpending] using hlive

/-- What is in flight when the playback of a storage begins or goes on. -/
def turnTo (kind : Storage.Kind) (poll : Poll) : Poll :=
  if poll.playback = some kind then poll
  else { poll.clear with playback := some kind, cursor := 0 }

/-- What is in flight stays in order when a playback begins or goes on. -/
theorem Sound.turnTo (h : poll.Sound budget) (kind : Storage.Kind) :
    (poll.turnTo kind).Sound budget := by
  unfold Poll.turnTo
  split
  · exact h
  · exact ⟨fun _ => rfl, nofun, nofun, nofun⟩

/-- The storage that is turned to is played back. -/
theorem playback_turnTo (kind : Storage.Kind) (poll : Poll) :
    (poll.turnTo kind).playback = some kind := by
  unfold Poll.turnTo
  split
  · assumption
  · rfl

end Poll

namespace Meter

open Act

variable {ω : Type} {inv : Link ω → List Event → Prop} {config : Config} {calls : List Sink.Call}
  {known : Meter ω}

/-! ## Steps -/

/-- A change of what is in flight changes nothing else. -/
theorem Standing.changePoll {meter : Meter ω} {history : List Event}
    (h : Standing inv config calls known meter history) (change : Poll → Poll) :
    Standing inv config calls { known with poll := change known.poll }
      { meter with poll := change meter.poll } history :=
  ⟨h.link, h.plain, h.alike.information, h.alike.storages, congrArg change h.alike.poll,
    h.alike.context⟩

/-- A change of what is in flight returns nothing and leaves the rest of the session as
it stands. -/
theorem changePoll_spec (change : Poll → Poll) :
    Ensures (Standing inv config calls known) (changePoll change)
      (Returns () (Standing inv config calls { known with poll := change known.poll })) :=
  ensures_modify fun _ _ h => ⟨rfl, h.changePoll change⟩

/-- Counting an error comes to an end. -/
theorem finishes_countError : Finishes (countError (ω := ω)) := by
  have hmodify (change : Meter ω → Meter ω) : Finishes (modify change) := fun _ => nofun
  have hget : Finishes (get : Act (Meter ω) (Meter ω)) := fun _ => nofun
  have hlog (entry : Log.Entry) : Finishes (log entry : Act (Meter ω) Unit) := fun _ => nofun
  refine (hmodify _).bind fun _ => hget.bind fun meter => ?_
  split
  · exact (hlog _).bind fun _ => finishes_fail _
  · exact finishes_pure ()

/-- Counting an error comes to an end and leaves the session as it stands, up to the counter. -/
theorem countError_spec (hinv : Link.Quiet inv) :
    Ensures (Standing inv config calls known) countError fun ending meter history =>
      ending ≠ .unfinished ∧ Standing inv config calls known meter history :=
  fun meter history h => ⟨finishes_countError meter, keeps_countError hinv meter history h⟩

/-- An error that is counted ends in a failure, if only of patience. -/
theorem countError_fail (hinv : Link.Quiet inv) {α : Type} (error : SessionError) :
    Ensures (Standing inv config calls known)
      (countError >>= fun _ => (fail error : Act (Meter ω) α))
      fun ending meter history =>
        (∃ error, ending = .failed error) ∧ Standing inv config calls known meter history := by
  refine (countError_spec hinv).bind (fun _ => ?_) (fun error _ _ h => ⟨⟨error, rfl⟩, h.2⟩)
    fun _ _ h => absurd rfl h.1
  exact ensures_fail fun _ _ h => ⟨⟨error, rfl⟩, h.2⟩

/-- How a session stands is told by any equal description of it. -/
theorem Standing.of_eq {known' : Meter ω} {meter : Meter ω} {history : List Event}
    (h : Standing inv config calls known meter history) (hknown : known = known') :
    Standing inv config calls known' meter history :=
  hknown ▸ h

variable [Wire ω]

/-! ## One poll -/

/-- The request is sent unless it is in flight. -/
theorem pendingOrSend_spec (hinv : Link.Lasting inv) {request : Request}
    (hpending : known.poll.pending = none ∧ known.poll.polls = 0 ∨
      known.poll.pending = some request) :
    Ensures (Standing inv config calls known) (pendingOrSend request) fun ending meter history =>
      match ending with
      | .returned asked => asked = request ∧ Standing inv config calls
          { known with poll := { known.poll with pending := some request } } meter history
      | .failed _ => known.poll.pending = none ∧ Standing inv config calls known meter history
      | .unfinished => False := by
  refine standing_get_bind fun meter hmeter _ => ?_
  rw [hmeter.poll]
  rcases hpending with ⟨hnone, hpolls⟩ | hsome
  · rw [hnone]
    have hkeeps := (hinv.toMaintained.and (Link.maintained_plain _ config calls)).keeps_sendRequest
      request fun _ hframe => ⟨request, hframe⟩
    have hsend : Ensures (Standing inv config calls known) (onLink (Link.sendRequest request))
        fun ending meter history =>
          ending ≠ .unfinished ∧ Standing inv config calls known meter history :=
      fun meter history h =>
        ⟨Link.finishes_sendRequest request meter.link, keeps_onLink hkeeps meter history h⟩
    -- only when it has been sent is the request in flight
    refine hsend.bind (fun _ => ?_) (fun _ _ _ h => ⟨rfl, h.2⟩) fun _ _ h => absurd rfl h.1
    refine ((changePoll_spec _).of_right).returns_bind (ensures_pure fun _ _ h => ⟨rfl, h.of_eq ?_⟩)
    exact congrArg (fun polls =>
      { known with poll := { known.poll with pending := some request, polls } }) hpolls.symm
  · rw [hsome]
    refine ensures_pure fun _ _ h => ⟨rfl, h.of_eq ?_⟩
    rw [← hsome]

omit [Wire ω] in
/-- A request that is abandoned ends in an error, and nothing is in flight behind it. -/
theorem abandon_spec (hinv : Link.Quiet inv) {entry : Log.Entry}
    (hentry : (Event.logged entry).frame? = none) (error : SessionError) :
    Ensures (Standing inv config calls known)
      (log entry >>= fun _ => changePoll Poll.clear >>= fun _ => countError >>= fun _ =>
        (fail error : Act (Meter ω) (Option Response)))
      fun ending meter history =>
        (∃ error, ending = .failed error) ∧
          Standing inv config calls { known with poll := known.poll.clear } meter history :=
  (returns_log fun _ _ h => h.logged hinv hentry).returns_bind
    ((changePoll_spec Poll.clear).returns_bind (countError_fail hinv error))

omit [Wire ω] in
/-- The change that one poll makes, and where its response comes from. -/
def Polled (inv : Link ω → List Event → Prop) (config : Config) (calls : List Sink.Call)
    (known : Meter ω) (request : Request) (ending : Ending (Option Response)) (meter : Meter ω)
    (history : List Event) : Prop :=
  (∃ poll, known.poll.After request config.budget ending poll ∧
    Standing inv config calls { known with poll } meter history) ∧
  ∀ response, ending = .returned (some response) → Answered request response history

omit [Wire ω] in
/-- A poll for an answer comes to an end. -/
theorem Polled.finishes {request : Request} {meter : Meter ω} {history : List Event}
    (h : Polled inv config calls known request .unfinished meter history) : False := by
  obtain ⟨⟨_, hafter, _⟩, _⟩ := h
  exact hafter

/-- One poll changes what is in flight as `Poll.After` says. Its response is what the frame handed
out last says. -/
theorem pollExchange_spec (hinv : Link.Lasting inv) {request : Request}
    (hpending : known.poll.pending = none ∧ known.poll.polls = 0 ∨
      known.poll.pending = some request) :
    Ensures (Standing inv config calls known) (pollExchange request)
      (Polled inv config calls known request) := by
  -- a request that could not be sent leaves everything as it was
  refine (pendingOrSend_spec hinv hpending).bind (fun asked => ?_)
    (fun _ _ _ h => ⟨⟨known.poll, .inl ⟨h.1, rfl⟩, h.2⟩, fun _ heq => nomatch heq⟩)
    fun _ _ h => h.elim
  refine Ensures.of_imp fun hasked => ?_
  subst hasked
  -- whichever way the request is abandoned, what was in flight is cleared
  have habandoned {ending : Ending (Option Response)} {meter : Meter ω} {history : List Event}
      (h : (∃ error, ending = .failed error) ∧
        Standing inv config calls { known with poll := known.poll.clear } meter history) :
      Polled inv config calls known asked ending meter history := by
    obtain ⟨⟨error, rfl⟩, hstanding⟩ := h
    exact ⟨⟨known.poll.clear, .inr rfl, hstanding⟩, fun _ heq => nomatch heq⟩
  have hkeeps :=
    (hinv.toMaintained.and (Link.maintained_plain _ config calls)).keeps_pollResponse asked
  have hspec := hkeeps.promises (Link.pollResponse_spec asked) fun _ _ _ => trivial
  refine (onLink_spec hspec).promises_attempt_bind
    (fun meter => Link.finishes_pollResponse asked meter.link) (fun found => ?_) fun error => ?_
  · cases found with
    | some response =>
      -- a response settles the request, and counting the success comes behind it
      let settled (meter : Meter ω) (history : List Event) : Prop :=
        Standing inv config calls
          { known with poll := { known.poll with pending := none, polls := 0 } } meter history ∧
          Answered asked response history
      have hpure : Ensures settled (Pure.pure (some response))
          (Polled inv config calls known asked) := by
        refine ensures_pure fun _ _ h => ⟨⟨_, rfl, h.1⟩, fun response' heq => ?_⟩
        obtain rfl : response = response' := Option.some.inj (Ending.returned.inj heq)
        exact h.2
      have hcount : Ensures settled (countSuccess >>= fun _ => Pure.pure (some response))
          (Polled inv config calls known asked) :=
        ensures_modify_bind hpure fun _ _ h => ⟨h.1.withHealth _, h.2⟩
      exact ensures_modify_bind hcount fun _ _ h =>
        ⟨h.1.changePoll fun poll => { poll with pending := none, polls := 0 }, h.2 response rfl⟩
    | none =>
      -- nothing was there yet: the poll is counted, and the last one allowed abandons the request
      refine (changePoll_spec _).of_left.returns_bind
        (standing_get_bind fun meter hmeter hconfig => ?_)
      rw [hconfig, hmeter.poll]
      show Ensures _ (if config.budget ≤ known.poll.polls + 1 then _ else _) _
      split
      · exact (abandon_spec hinv.toQuiet rfl _).weaken (fun _ _ h => h) fun _ _ _ h => habandoned h
      · rename_i hbudget
        exact ensures_pure fun _ _ h =>
          ⟨⟨_, ⟨Nat.lt_of_not_le hbudget, rfl⟩, h⟩, fun _ heq => nomatch heq⟩
  -- an error abandons the request, and it is counted if it may go away
  · show Ensures _ (if error.isRetryable then _ else _) _
    split
    · exact (abandon_spec hinv.toQuiet rfl _).weaken (fun _ _ h => h) fun _ _ _ h => habandoned h
    · exact (changePoll_spec Poll.clear).returns_bind (ensures_fail fun _ _ h =>
        habandoned ⟨⟨error, rfl⟩, h⟩)

/-! ## Polls of the displays -/

omit [Wire ω] in
/-- What a live poll does: it hands over the group of the display answer in the frame handed out
last, if it has sampled, and nothing else. -/
def LivePolled (inv : Link ω → List Event → Prop) (config : Config) (calls : List Sink.Call)
    (known : Meter ω) (ending : Ending PollStatus) (meter : Meter ω)
    (history : List Event) : Prop :=
  ∃ poll context groups, poll.Sound config.budget ∧
    Standing inv config (calls ++ groups) { known with poll, context } meter history ∧
    (ending ≠ .returned .sampled ∧ groups = [] ∨
      ending = .returned .sampled ∧ ∃ display, groups = displayGroup known display ∧
        Answered .readDisplay (.display display) history)

/-- A poll of the displays hands over the group of the answer handed out last, or nothing. -/
theorem pollLive_spec (hinv : Link.Lasting inv) (hsound : known.poll.Sound config.budget) :
    Ensures (Standing inv config calls known) pollLive (LivePolled inv config calls known) := by
  have hasks := known.poll.asks_turnLive
  -- a poll that has not sampled has handed over nothing
  have hunsampled {found : Ending (Option Response)} {ending : Ending PollStatus}
      (hending : ending ≠ .returned .sampled) (meter : Meter ω) (history : List Event)
      (h : Polled inv config calls { known with poll := known.poll.turnLive } .readDisplay found
        meter history) :
      LivePolled inv config calls known ending meter history := by
    obtain ⟨⟨poll, hafter, hstanding⟩, -⟩ := h
    refine ⟨poll, known.context, [], hsound.turnLive.after hasks hafter, ?_, .inl ⟨hending, rfl⟩⟩
    rw [List.append_nil]
    exact hstanding
  refine (changePoll_spec Poll.turnLive).returns_bind ?_
  refine (pollExchange_spec hinv (hsound.turnLive.pending_of_asks hasks)).attempt_bind
    (fun _ _ h => h.finishes) (fun found => ?_) fun error => ?_
  · cases found with
    | some response =>
      cases response with
      | display display =>
        -- the answer stays the last one while its group is handed over
        let answered (link : Link ω) (history : List Event) : Prop :=
          inv link history ∧ Answered .readDisplay (.display display) history
        have hquiet : Link.Quiet answered := hinv.toQuiet.and_answered _ _
        have hsampled (poll : Poll) (hpoll : poll.Sound config.budget) :
            Ensures (Standing answered config calls { known with poll })
              (modify (fun meter => { meter with context := display.context }) >>= fun _ =>
                emitDisplay display >>= fun _ => Pure.pure .sampled)
              (LivePolled inv config calls known) := by
          have hemit : Ensures
              (Standing answered config calls { known with poll, context := display.context })
              (emitDisplay display >>= fun _ => Pure.pure .sampled)
              (LivePolled inv config calls known) :=
            (emitDisplay_spec hquiet display).returns_bind (ensures_pure fun _ _ h =>
              ⟨poll, display.context, displayGroup known display, hpoll,
                ⟨h.link.1, h.plain, h.alike⟩, .inr ⟨rfl, display, rfl, h.link.2⟩⟩)
          exact ensures_modify_bind hemit fun _ _ h =>
            ⟨h.link, h.plain, h.alike.information, h.alike.storages, h.alike.poll, rfl⟩
        refine Ensures.weaken (Ensures.of_exists fun poll => Ensures.of_imp (hsampled poll))
          (fun meter history h => ?_) fun _ _ _ h => h
        obtain ⟨⟨poll, hafter, hstanding⟩, hanswered⟩ := h
        exact ⟨poll, hsound.turnLive.after hasks hafter, ⟨hstanding.link, hanswered _ rfl⟩,
          hstanding.plain, hstanding.alike⟩
      | _ => exact ensures_fail (hunsampled (fun heq => nomatch heq))
    | none => exact ensures_pure (hunsampled (fun heq => nomatch heq))
  · show Ensures _ (if error.isRetryable then _ else _) _
    split
    · exact ensures_pure (hunsampled (fun heq => nomatch heq))
    · exact ensures_fail (hunsampled (fun heq => nomatch heq))

end Meter

end Multimeter
