import Multimeter.Proofs.Link.Writes
import Multimeter.Proofs.Meter.Setbacks
/-!
# Live polling

Polls of the displays, one after the other, over any wire: the first one sends the request, the
others look for the answer, and behind the one that finds it, or gives it up, the next request is
sent.

* `Concluded`, `pollExchange_concluded`: why a look for an answer ends as it does.
* `Underway.step`: what one poll of the displays writes and counts, and what it leaves in flight.
* `LiveOpening`, `LiveExchange`: the polls of an exchange that goes on, and of one that is over.
* `run_live`: polls in a row are exchanges, one behind the other.
-/

namespace Multimeter

/-- Behind a look for an answer, a request is in flight only if the answer may still arrive. -/
theorem Poll.After.pending_eq_none {before after : Poll} {request : Request} {budget : Nat}
    {ending : Ending (Option Response)} (h : before.After request budget ending after)
    (hending : ending ≠ .returned none) : after.pending = none := by
  match ending, h with
  | .returned (some _), h => rw [h]
  | .returned none, _ => exact absurd rfl hending
  | .failed _, .inl h => rw [h.2, h.1]
  | .failed _, .inr h => rw [h]; rfl

namespace Meter

open Act

variable {ω : Type} {config : Config} {known : Meter ω} {budget polls : Nat}

/-! ## One look -/

/-- Why a look for an answer ends as it does, behind so many looks in vain. A response comes of
something decisive. So does an error, unless the looks are used up; and an error that gives up no
request is one of the line. -/
def Concluded (budget polls : Nat) (history : List Event) : Ending (Option Response) → Prop
  | .returned (some _) => Decided history
  | .returned none => True
  | .failed error => (budget ≤ polls + 1 ∨ Decided history) ∧
      ((tally history).1 = 0 → error.isLine = true)
  | .unfinished => False

/-- A look that ends the exchange was the last in the budget, or something decisive has happened. -/
theorem Concluded.due {history : List Event} {ending : Ending (Option Response)}
    (h : Concluded budget polls history ending) (hending : ending ≠ .returned none) :
    budget ≤ polls + 1 ∨ Decided history := by
  match ending, h with
  | .returned (some _), h => exact .inr h
  | .returned none, _ => exact absurd rfl hending
  | .failed _, h => exact h.1

/-- A request that is given up is reported, however its end is counted. -/
theorem abandon_concluded {entry : Log.Entry} (hentry : (Event.logged entry).isAbandonment = true)
    (hframe : (Event.logged entry).frame? = none) (error : SessionError) :
    Ensures (fun meter history => Standing Link.Coherent config [] known meter history ∧
        (budget ≤ polls + 1 ∨ Decided history))
      (log entry >>= fun _ => changePoll Poll.clear >>= fun _ => countError >>= fun _ =>
        (fail error : Act (Meter ω) (Option Response)))
      fun ending _ history => Concluded budget polls history ending := by
  intro meter history ⟨hstanding, hdue⟩
  have hquiet : Link.Quiet (Link.Coherent (ω := ω)) := ⟨fun _ _ _ _ h => h, fun _ _ _ h => h⟩
  obtain ⟨⟨error', hending⟩, -⟩ := abandon_spec hquiet hframe error meter history hstanding
  rw [hending, run_log_bind]
  refine ⟨hdue.imp_right (·.append _), fun hnone => ?_⟩
  have hcounted := List.countP_eq_zero.1 hnone (.logged entry)
    (List.mem_append_right history List.mem_cons_self)
  exact absurd hentry hcounted

variable [Wire ω]

/-- Only a failure of the line keeps the request from being in flight. -/
theorem pendingOrSend_decided {asked : Request} {sent : Frame} (hsent : asked.toFrame = .ok sent) :
    Ensures (fun _ _ => True) (pendingOrSend (ω := ω) asked) fun ending _ history =>
      ∀ error, ending = .failed error → Decided history ∧ error.isLine = true := by
  refine ensures_get_bind fun meter => Ensures.of_left ?_
  cases meter.poll.pending with
  | some pending => exact ensures_pure fun _ _ _ => nofun
  | none =>
    have hsend : Ensures (fun _ _ => True) (onLink (ω := ω) (Link.sendRequest asked))
        fun ending _ history => ending = .returned () ∨
          Decided history ∧ ∃ error, ending = .failed error ∧ error.isLine = true :=
      fun meter history h => Link.sendRequest_decided hsent meter.link history h
    refine hsend.bind (fun _ => fun _ _ _ => nofun) (fun error _ _ h => ?_) fun _ _ _ => nofun
    obtain ⟨hdecided, _, heq, hline⟩ := h.resolve_left nofun
    intro error' heq'
    obtain rfl := Ending.failed.inj heq'
    exact ⟨hdecided, Ending.failed.inj heq ▸ hline⟩

/-- Nothing but what is decisive ends the look for an answer before the looks are used up. -/
theorem pollExchange_concluded {asked : Request} {sent : Frame} (hsent : asked.toFrame = .ok sent)
    (hpending : known.poll.pending = none ∧ known.poll.polls = 0 ∨
      known.poll.pending = some asked) :
    Ensures (Standing Link.Coherent config [] known) (pollExchange asked)
      fun ending _ history => Concluded config.budget known.poll.polls history ending := by
  -- either the request is in flight, or sending it has failed for good
  have hsends : Ensures (Standing Link.Coherent config [] known) (pendingOrSend asked) _ :=
    pendingOrSend_spec lasting_coherent hpending
  refine ((hsends.and (pendingOrSend_decided hsent)).weaken (fun _ _ h => ⟨h, trivial⟩)
    fun _ _ _ h => h).bind (fun request => ?_) (fun error _ _ h => ?_) fun _ _ h => h.1.elim
  rotate_left
  · obtain ⟨hdecided, hline⟩ := h.2 error rfl
    exact ⟨.inr hdecided, fun _ => hline⟩
  refine Ensures.of_left (Ensures.of_imp fun hrequest => ?_)
  subst hrequest
  let asking : Meter ω := { known with poll := { known.poll with pending := some request } }
  -- one look for the answer finds nothing, or something decisive has happened
  have hlook :
      Ensures (Standing Link.Coherent config [] asking) (onLink (Link.pollResponse request))
      fun ending meter history => ending ≠ .unfinished ∧
        Standing Link.Coherent config [] asking meter history ∧
        (ending = .returned none ∨ Decided history) ∧
        ∀ error, ending = .failed error → error.isLine = true ∨ error.isRetryable = true := by
    intro meter history h
    have hinv : Link.Lasting (Link.Coherent (ω := ω)) := lasting_coherent
    have hkeeps :=
      (hinv.toMaintained.and (Link.maintained_plain _ config [])).keeps_pollResponse request
    have hends := Link.pollResponse_line request meter.link history h.link
    exact ⟨Link.finishes_pollResponse request meter.link, keeps_onLink hkeeps meter history h,
      Link.pollResponse_decided request meter.link history h.link, hends.error⟩
  -- an answer is decisive, a look without one may be the last of the budget
  refine hlook.attempt_bind (fun _ _ h => h.1 rfl) (fun found => ?_) fun error => ?_
  · cases found with
    | some response =>
      refine fun meter history h => ?_
      have hdecided : Decided history := h.2.2.1.resolve_left nofun
      exact hdecided.append _
    | none =>
      refine Ensures.of_right (Ensures.of_left ((changePoll_spec _).returns_bind
        (standing_get_bind fun meter hmeter hconfig => ?_)))
      rw [hconfig, hmeter.poll]
      show Ensures _ (if config.budget ≤ known.poll.polls + 1 then _ else _) _
      split
      · rename_i hbudget
        exact (abandon_concluded rfl rfl .timeout).weaken (fun _ _ h => ⟨h, .inl hbudget⟩)
          fun _ _ _ h => h
      · exact ensures_pure fun _ _ _ => trivial
  · show Ensures _ (if error.isRetryable then _ else _) _
    split
    · exact (abandon_concluded rfl rfl error).weaken
        (fun _ _ h => ⟨h.2.1, .inr (h.2.2.1.resolve_left nofun)⟩) fun _ _ _ h => h
    · rename_i hhard
      refine ensures_modify_bind (ensures_fail fun _ _ h => h) fun _ _ h => ?_
      exact ⟨.inr (h.2.2.1.resolve_left nofun), fun _ =>
        (h.2.2.2 error rfl).resolve_right hhard⟩

omit [Wire ω] in
/-- Counting, logging and remembering what is in flight write nothing. -/
theorem bookkeeping_writes (frames : List (List UInt8)) :
    Bookkeeping fun (meter : Meter ω) history => Link.Writes (· = frames) meter.link history where
  log _ := ensures_report fun _ _ h => h.quiet rfl
  recordError := ensures_modify fun _ _ h => h
  recordSuccess := ensures_modify fun _ _ h => h
  changePoll _ := ensures_modify fun _ _ h => h

/-- A look for an answer writes the request, unless that is in flight, and nothing else. -/
theorem written_pollExchange {asked : Request} {sent : Frame} (hsent : asked.toFrame = .ok sent)
    (meter : Meter ω) : written ((pollExchange asked).run meter).events =
      if meter.poll.pending = none then [sent.encode] else [] := by
  let frames := if meter.poll.pending = none then [sent.encode] else []
  let wrote (frames : List (List UInt8)) (state : Meter ω) (history : List Event) : Prop :=
    Link.Writes (· = frames) state.link history
  -- the request is sent unless one is in flight
  have hsend : Ensures (fun state history => wrote [] state history ∧ state.poll = meter.poll)
      (pendingOrSend asked) fun _ => wrote frames := by
    refine ensures_get_bind fun state => Ensures.weaken (Ensures.of_imp
      fun hstate : state.poll = meter.poll => ?_)
      (fun _ _ h => ⟨h.2 ▸ h.1.2, h.1.1⟩) fun _ _ _ h => h
    rw [hstate]
    cases hpending : meter.poll.pending with
    | some pending =>
      have hframes : frames = [] := if_neg (by simp [hpending])
      exact ensures_pure fun _ _ h => hframes ▸ h
    | none =>
      have hframes : frames = [] ++ [sent.encode] := if_pos hpending
      have hwrote : Ensures (wrote []) (onLink (Link.sendRequest asked)) fun _ => wrote frames :=
        fun state history h => Link.sendRequest_writes hsent (fun _ h => by rw [h, hframes])
          state.link history h
      refine hwrote.bind (fun _ => ?_) (fun _ _ _ h => h) fun _ _ h => h
      exact ensures_modify_bind (ensures_pure fun _ _ h => h) fun _ _ h => h
  -- the look itself writes nothing
  have hlooks : Link.Maintained (fun _ => False) (Link.Writes (ω := ω) (· = frames)) :=
    Link.maintained_writes nofun
  have hlook (request : Request) : Keeps (wrote frames) (onLink (Link.pollResponse request)) :=
    fun state history h => hlooks.keeps_pollResponse request state.link history h
  exact (bookkeeping_writes frames).ensures_pollExchange hsend hlook meter [] ⟨rfl, rfl⟩

/-! ## One poll -/

/-- The request for the displays. -/
theorem toFrame_readDisplay : Request.readDisplay.toFrame = .ok (Frame.empty .readDisplay) := rfl

/-- What a live poll makes of the end of its look for the answer. -/
def liveEnding : Ending (Option Response) → Ending PollStatus
  | .returned (some (.display _)) => .returned .sampled
  | .returned (some _) => .failed (.codec .dataMismatch)
  | .returned none => .returned .waiting
  | .failed error => if error.isRetryable then .returned .dropped else .failed error
  | .unfinished => .unfinished

omit [Wire ω] in
/-- Handing over samples leaves what is in flight and the error counter alone, and
writes nothing. -/
theorem run_emitDisplay (display : Display) (meter : Meter ω) :
    let outcome := (emitDisplay display).run meter
    outcome.ending = .returned () ∧ outcome.state.poll = meter.poll ∧
      outcome.state.health = meter.health ∧ written outcome.events = [] := by
  intro outcome
  have hquiet : Link.Quiet fun (_ : Link ω) (_ : List Event) => True :=
    ⟨fun _ _ _ _ _ => trivial, fun _ _ _ _ => trivial⟩
  have hstart : Standing (fun _ _ => True) meter.link.config [] meter meter [] :=
    ⟨trivial, ⟨rfl, rfl⟩, rfl, rfl, rfl, rfl⟩
  obtain ⟨hending, hstanding⟩ := emitDisplay_spec hquiet display meter [] hstart
  have hemitting : Emitting fun (state : Meter ω) history =>
      state.health = meter.health ∧ Link.Writes (· = []) state.link history :=
    { report := fun _ => ensures_report fun _ _ h => ⟨h.1, h.2.quiet rfl⟩
      sink := fun _ => ensures_report fun _ _ h => ⟨h.1, h.2.quiet rfl⟩
      changePoll := fun _ => ensures_modify fun _ _ h => h }
  obtain ⟨hhealth, hwrote⟩ := hemitting.keeps_emitDisplay display meter [] ⟨rfl, rfl⟩
  exact ⟨hending, hstanding.alike.poll, hhealth, hwrote⟩

omit [Wire ω] in
/-- What a live poll comes to whose look for the answer came to `looked`. -/
structure Relays (looked : Outcome (Meter ω) (Option Response)) (ending : Ending PollStatus)
    (meter : Meter ω) (history : List Event) : Prop where
  /-- The poll ends as its look tells. -/
  ending_eq : ending = liveEnding looked.ending
  /-- What is in flight is what the look has left in flight. -/
  poll_eq : meter.poll = looked.state.poll
  /-- Behind the look nothing more is counted. -/
  health_eq : meter.health = looked.state.health
  /-- Behind the look nothing more is written. -/
  events_eq : ∃ emitted, history = looked.events ++ emitted ∧ written emitted = []

omit [Wire ω] in
/-- Handing over a display neither writes nor changes the error counter. -/
theorem emitDisplay_relays {looked : Outcome (Meter ω) (Option Response)}
    {ending : Ending PollStatus} (display : Display) :
    Ensures (Relays looked ending) (emitDisplay display) (Returns () (Relays looked ending)) := by
  intro state history h
  obtain ⟨hreturned, hpoll, hhealth, hwritten⟩ := run_emitDisplay display state
  obtain ⟨emitted, hevents, hemitted⟩ := h.events_eq
  refine ⟨hreturned, h.ending_eq, hpoll.trans h.poll_eq, hhealth.trans h.health_eq,
    emitted ++ ((emitDisplay display).run state).events, ?_, ?_⟩
  · rw [hevents, List.append_assoc]
  · rw [written_append, hemitted, hwritten]
    rfl

/-- A live poll is a look for the answer, behind which samples may be handed over. -/
theorem pollLive_relays (meter : Meter ω) :
    let looked := (pollExchange .readDisplay).run { meter with poll := meter.poll.turnLive }
    let outcome := pollLive.run meter
    Relays looked outcome.ending outcome.state outcome.events := by
  intro looked outcome
  let turned : Meter ω := { meter with poll := meter.poll.turnLive }
  have hlook : Ensures (fun state history => state = turned ∧ history = [])
      (pollExchange .readDisplay) fun ending state history =>
        looked.ending = ending ∧ state = looked.state ∧ history = looked.events := by
    rintro _ _ ⟨rfl, rfl⟩
    exact ⟨rfl, rfl, rfl⟩
  have hfinishes : looked.ending ≠ .unfinished := by
    intro hunfinished
    have hexchanged := pollExchange_exchanged toFrame_readDisplay turned [] ⟨rfl, rfl⟩
    rw [show ((pollExchange .readDisplay).run turned).ending = _ from hunfinished] at hexchanged
    cases hexchanged
  -- where no samples are handed over, the poll ends behind its look
  have hdone {ending : Ending (Option Response)} {state : Meter ω} {history : List Event}
      (h : looked.ending = ending ∧ state = looked.state ∧ history = looked.events) :
      Relays looked (liveEnding ending) state history := by
    obtain ⟨hending, rfl, rfl⟩ := h
    exact ⟨by rw [hending], rfl, rfl, [], (List.append_nil _).symm, rfl⟩
  have hrelays : Ensures (fun state history => state = meter ∧ history = []) pollLive
      (Relays looked) := by
    refine ensures_modify_bind (hlook.attempt_bind (fun _ _ h => hfinishes h.1) (fun found => ?_)
      fun error => ?_) fun _ _ h => ⟨by rw [h.1]; rfl, h.2⟩
    · cases found with
      | none => exact ensures_pure fun _ _ h => hdone h
      | some response =>
        cases response with
        | display display =>
          refine ensures_modify_bind ((emitDisplay_relays display).returns_bind
            (ensures_pure fun _ _ h => h)) fun _ _ h => ?_
          obtain ⟨hending, hpoll, hhealth, hevents⟩ := hdone h
          exact ⟨hending, hpoll, hhealth, hevents⟩
        | _ => exact ensures_fail fun _ _ h => hdone h
    · show Ensures _ (if error.isRetryable then _ else _) _
      split
      · rename_i hsoft
        have hdropped : liveEnding (.failed error) = .returned .dropped := if_pos hsoft
        exact ensures_pure fun _ _ h => hdropped ▸ hdone h
      · rename_i hhard
        have hfailed : liveEnding (.failed error) = .failed error := if_neg hhard
        exact ensures_fail fun _ _ h => hfailed ▸ hdone h
  exact hrelays meter [] ⟨rfl, rfl⟩

/-! ## What a poll leaves -/

/-- A poll of the displays waits just when its look has found nothing. -/
theorem liveEnding_eq_waiting_iff {ending : Ending (Option Response)} :
    liveEnding ending = .returned .waiting ↔ ending = .returned none := by
  refine ⟨fun h => ?_, fun h => by rw [h]; rfl⟩
  rcases ending with (_ | response) | error | _
  · rfl
  · cases response <;> cases h
  · rw [liveEnding] at h
    split at h <;> cases h
  · cases h

/-- How a poll of the displays changes the number of errors counted, by the way in which it ends. -/
def recount : Ending PollStatus → Nat → Nat
  | .returned .dropped, errors | .failed .unresponsive, errors => min (errors + 1) 255
  | .returned .sampled, errors => errors - 1
  | _, errors => errors

/-- An exchange is over with this end of a poll. -/
def Settles (ending : Ending PollStatus) : Prop :=
  ending = .returned .sampled ∨ ending = .returned .dropped ∨
    ∃ error, ending = .failed error ∧ error.isHard = true

/-- A fault of the line leaves the error counter alone. -/
theorem recount_of_isLine {error : SessionError} (h : error.isLine = true) (errors : Nat) :
    recount (.failed error) errors = errors := by
  cases error with
  | io | shortWrite => rfl
  | _ => cases h

omit [Wire ω] in
/-- A look for the answer to the request for the displays counts as the poll tells by its end. -/
theorem Exchanged.errors_eq_recount {health : Health} {meter : Meter ω} {history : List Event}
    {ending : Ending (Option Response)} (h : Exchanged health (0, 0) meter history ending)
    (hconcluded : Concluded budget polls history ending)
    (hanswered : ∀ found, ending = .returned found → Request.readDisplay.AnsweredBy found) :
    meter.health.errors.toNat = Meter.recount (liveEnding ending) health.errors.toNat ∧
      (liveEnding ending = .returned .waiting ∨ Settles (liveEnding ending)) := by
  cases h with
  | answered response h =>
    have hcommand := hanswered _ rfl response rfl
    cases response with
    | display display =>
      rw [h.health_eq]
      exact ⟨health.errors_recordSuccess, .inr (.inl rfl)⟩
    | _ => cases hcommand
  | awaited h => exact ⟨by rw [h.health_eq]; rfl, .inl rfl⟩
  | abandoned error hsoft h =>
    have hdropped : liveEnding (.failed error) = .returned .dropped := if_pos hsoft
    rw [hdropped, h.health_eq]
    exact ⟨health.errors_recordError, .inr (.inr (.inl rfl))⟩
  | exceeded h =>
    rw [h.health_eq]
    exact ⟨health.errors_recordError, .inr (.inr (.inr ⟨_, rfl, rfl⟩))⟩
  | broken error hhard h =>
    have hfailed : liveEnding (.failed error) = .failed error :=
      if_neg (Bool.eq_false_iff.1 hhard)
    have hline : error.isLine = true := hconcluded.2 (congrArg Prod.fst h.tally_eq)
    rw [hfailed, h.health_eq, recount_of_isLine hline]
    exact ⟨rfl, .inr (.inr (.inr ⟨error, rfl, SessionError.isHard_of_isLine hline⟩))⟩

omit [Wire ω] in
/-- What a poll of the displays comes to that finds no other request in flight. -/
structure LivePoll (budget : Nat) (before : Meter ω) (outcome : Outcome (Meter ω) PollStatus) :
    Prop where
  /-- The request is written unless it is in flight. -/
  written_eq : written outcome.events =
    if before.poll.pending = none then [(Frame.empty .readDisplay).encode] else []
  /-- The error counter changes as the end of the poll tells. -/
  errors_eq : outcome.state.health.errors.toNat =
    recount outcome.ending before.health.errors.toNat
  /-- The poll waits, or it settles the exchange. -/
  ends : outcome.ending = .returned .waiting ∨ Settles outcome.ending
  /-- As long as the answer is waited for, the request is in flight, and its polls are counted. -/
  waits : outcome.ending = .returned .waiting → before.poll.polls + 1 < budget ∧
    outcome.state.poll.pending = some .readDisplay ∧
      outcome.state.poll.polls = before.poll.polls + 1
  /-- If the poll does not wait, no request is in flight, and either the polls are used up or
  something was decisive. -/
  settles : outcome.ending ≠ .returned .waiting → outcome.state.poll.pending = none ∧
    (budget ≤ before.poll.polls + 1 ∨ Decided outcome.events)

/-- In any session that was reached, a poll of the displays counts, waits and settles as it should,
unless another request is in flight. -/
theorem Reached.livePoll {meter : Meter ω} (h : Reached Link.Coherent config meter [])
    (hlive : meter.poll.pending = none ∨ meter.poll.pending = some .readDisplay) :
    LivePoll config.budget meter (pollLive.run meter) := by
  let turned : Meter ω := { meter with poll := meter.poll.turnLive }
  have hturned : turned.poll = { meter.poll with playback := none } := by
    show meter.poll.turnLive = _
    rcases hlive with hnone | hsome
    · simp [Poll.turnLive, hnone]
    · simp [Poll.turnLive, hsome]
  have hpending : turned.poll.pending = none ∧ turned.poll.polls = 0 ∨
      turned.poll.pending = some .readDisplay :=
    h.2.1.turnLive.pending_of_asks meter.poll.asks_turnLive
  have hstanding : Standing Link.Coherent config [] turned turned [] :=
    h.afresh.changePoll Poll.turnLive
  let looked := (pollExchange .readDisplay).run turned
  obtain ⟨⟨poll, hafter, hleft⟩, -⟩ :=
    pollExchange_spec lasting_coherent hpending turned [] hstanding
  have hconcluded : Concluded config.budget meter.poll.polls looked.events looked.ending := by
    have hconcluded := pollExchange_concluded toFrame_readDisplay hpending turned [] hstanding
    rwa [hturned] at hconcluded
  have hexchanged : Exchanged meter.health (0, 0) looked.state looked.events looked.ending :=
    pollExchange_exchanged toFrame_readDisplay turned [] ⟨rfl, rfl⟩
  have hanswered := (pollExchange_ends .readDisplay turned []
    ⟨hstanding.link, hpending.imp_left And.left⟩).value
  have hwritten : written looked.events =
      if meter.poll.pending = none then [(Frame.empty .readDisplay).encode] else [] := by
    have hwritten := written_pollExchange toFrame_readDisplay turned
    rwa [hturned] at hwritten
  obtain ⟨hcounted, hends⟩ := hexchanged.errors_eq_recount hconcluded hanswered
  -- handing over samples changes nothing of this
  have hrelays : Relays looked (pollLive.run meter).ending (pollLive.run meter).state
      (pollLive.run meter).events := pollLive_relays meter
  obtain ⟨hending, hpoll, hhealth, emitted, hevents, hemitted⟩ := hrelays
  have hpoll : (pollLive.run meter).state.poll = poll := hpoll.trans hleft.alike.poll
  refine ⟨?_, ?_, hending ▸ hends, fun hwaiting => ?_, fun hsettled => ?_⟩
  · rw [hevents, written_append, hemitted, List.append_nil, hwritten]
  · rw [hhealth, hending, hcounted]
  · have hfound : looked.ending = .returned none :=
      liveEnding_eq_waiting_iff.1 (hending.symm.trans hwaiting)
    have hafter : turned.poll.After .readDisplay config.budget looked.ending poll := hafter
    rw [hfound, hturned] at hafter
    rw [hpoll, hafter.2]
    exact ⟨hafter.1, rfl, rfl⟩
  · have hfound : looked.ending ≠ .returned none := fun hnone =>
      hsettled (hending.trans (liveEnding_eq_waiting_iff.2 hnone))
    rw [hpoll, hevents]
    exact ⟨hafter.pending_eq_none hfound, (hconcluded.due hfound).imp_right (·.append _)⟩

/-! ## Polls in a row -/

omit [Wire ω] in
/-- The first of the polls writes the request for the displays, and nothing more is written. -/
def WritesOnce : List (Outcome (Meter ω) PollStatus) → Prop
  | [] => True
  | first :: later => written first.events = [(Frame.empty .readDisplay).encode] ∧
      ∀ poll ∈ later, written poll.events = []

/-- The polls of an exchange that is not over yet. -/
structure LiveOpening (budget : Nat) (polls : List (Outcome (Meter ω) PollStatus)) : Prop where
  /-- The request is written once. -/
  writes : WritesOnce polls
  /-- The answer is still missing. -/
  waits : ∀ poll ∈ polls, poll.ending = .returned .waiting
  /-- There are polls left. -/
  length_lt : polls.length < budget

/-- The polls of an exchange that is over. -/
structure LiveExchange (budget : Nat) (polls : List (Outcome (Meter ω) PollStatus)) : Prop where
  /-- The request is written once. -/
  writes : WritesOnce polls
  /-- All polls but the last one have waited, and that one has settled the exchange. -/
  ends : ∃ waiting last, polls = waiting ++ [last] ∧
    (∀ poll ∈ waiting, poll.ending = .returned .waiting) ∧ Settles last.ending
  /-- No more polls are spent on it than allowed. -/
  length_le : polls.length ≤ budget
  /-- If nothing was decisive, all of them are. -/
  length_eq : (∀ poll ∈ polls, ¬ Decided poll.events) → polls.length = budget

/-- The polls of an exchange have begun, and the session has been left by the last of them. -/
structure Underway (config : Config) (opened : List (Outcome (Meter ω) PollStatus))
    (meter : Meter ω) : Prop where
  /-- The session was reached. -/
  reached : Reached Link.Coherent config meter []
  /-- The exchange is not over. -/
  opening : LiveOpening config.budget opened
  /-- The request is in flight once the exchange has begun. -/
  pending_eq : meter.poll.pending = if opened = [] then none else some .readDisplay
  /-- Its polls are counted. -/
  polls_eq : meter.poll.polls = opened.length

omit [Wire ω] in
/-- The request is written once as long as the first poll writes it and no other poll does. -/
theorem WritesOnce.concat {polls : List (Outcome (Meter ω) PollStatus)} (h : WritesOnce polls)
    {poll : Outcome (Meter ω) PollStatus} (hwritten : written poll.events =
      if polls = [] then [(Frame.empty .readDisplay).encode] else []) :
    WritesOnce (polls ++ [poll]) := by
  cases polls with
  | nil => exact ⟨hwritten.trans (if_pos rfl), List.forall_mem_nil _⟩
  | cons first later =>
    have hnothing := hwritten.trans (if_neg (List.cons_ne_nil first later))
    exact ⟨h.1, List.forall_mem_append.2 ⟨h.2, List.forall_mem_singleton.2 hnothing⟩⟩

omit [Wire ω] in
/-- An exchange that has not begun has room for at least one poll. -/
theorem liveOpening_nil (config : Config) :
    LiveOpening config.budget ([] : List (Outcome (Meter ω) PollStatus)) :=
  ⟨trivial, List.forall_mem_nil _, config.cycles_pos config.receiveTimeout⟩

/-- The next poll of an exchange finds no other request in flight. -/
theorem Underway.livePoll {opened : List (Outcome (Meter ω) PollStatus)} {meter : Meter ω}
    (h : Underway config opened meter) : LivePoll config.budget meter (pollLive.run meter) := by
  refine h.reached.livePoll ?_
  rw [h.pending_eq]
  split
  · exact .inl rfl
  · exact .inr rfl

/-- With its next poll, an exchange has still written its request once. -/
theorem Underway.writesOnce {opened : List (Outcome (Meter ω) PollStatus)} {meter : Meter ω}
    (h : Underway config opened meter) : WritesOnce (opened ++ [pollLive.run meter]) := by
  refine h.opening.writes.concat (h.livePoll.written_eq.trans ?_)
  rw [h.pending_eq]
  split <;> simp

/-- One poll of the displays goes on with the exchange, or the exchange is over with it. -/
theorem Underway.step {opened : List (Outcome (Meter ω) PollStatus)} {meter : Meter ω}
    (h : Underway config opened meter) :
    let outcome := pollLive.run meter
    LivePoll config.budget meter outcome ∧
      (Underway config (opened ++ [outcome]) outcome.state ∨
        LiveExchange config.budget (opened ++ [outcome]) ∧ Underway config [] outcome.state) := by
  intro outcome
  have hpoll : LivePoll config.budget meter outcome := h.livePoll
  have hkept := (keeps_call lasting_coherent 0 Call.pollLive).of_discard meter [] h.reached
  have hreached : Reached Link.Coherent config outcome.state [] := ⟨hkept.afresh, hkept.2⟩
  have hlength : (opened ++ [outcome]).length = meter.poll.polls + 1 := by
    rw [List.length_append, h.polls_eq]
    rfl
  refine ⟨hpoll, ?_⟩
  by_cases hwaiting : outcome.ending = .returned .waiting
  · -- the request stays in flight, and the budget has room for another poll
    obtain ⟨hbudget, hpending, hpolls⟩ := hpoll.waits hwaiting
    have hwaits : ∀ poll ∈ opened ++ [outcome], poll.ending = .returned .waiting :=
      List.forall_mem_append.2 ⟨h.opening.waits, List.forall_mem_singleton.2 hwaiting⟩
    refine .inl ⟨hreached, ⟨h.writesOnce, hwaits, hlength ▸ hbudget⟩, ?_, ?_⟩
    · rw [hpending, if_neg (by simp)]
    · rw [hpolls, hlength]
  · -- nothing is in flight any more, so the next poll begins an exchange of its own
    obtain ⟨hpending, hdue⟩ := hpoll.settles hwaiting
    have hlt := h.opening.length_lt
    have hpolls := h.polls_eq
    refine .inr ⟨⟨h.writesOnce, ⟨opened, outcome, rfl, h.opening.waits,
      hpoll.ends.resolve_left hwaiting⟩, by omega, fun hquiet => ?_⟩,
      ⟨hreached, liveOpening_nil config, hpending, hreached.2.1.polls_eq hpending⟩⟩
    have hbudget := hdue.resolve_right (hquiet outcome (by simp))
    omega

/-- The polls that follow complete the exchange that has begun, and others behind it. -/
theorem Underway.exchanges_repeated {opened : List (Outcome (Meter ω) PollStatus)} {meter : Meter ω}
    (h : Underway config opened meter) (count : Nat) :
    ∃ (exchanges : List (List (Outcome (Meter ω) PollStatus)))
        (later : List (Outcome (Meter ω) PollStatus)),
      opened ++ pollLive.repeated count meter = exchanges.flatten ++ later ∧
      (∀ polls ∈ exchanges, LiveExchange config.budget polls) ∧
      LiveOpening config.budget later := by
  induction count generalizing opened meter with
  | zero => exact ⟨[], opened, List.append_nil _, List.forall_mem_nil _, h.opening⟩
  | succ count ih =>
    rcases h.step.2 with hopened | ⟨hexchange, hnext⟩
    · obtain ⟨exchanges, later, heq, hrest⟩ := ih hopened
      rw [List.append_assoc] at heq
      exact ⟨exchanges, later, heq, hrest⟩
    · -- the next exchange starts behind this one
      obtain ⟨exchanges, later, heq, hexchanges, hlater⟩ := ih hnext
      refine ⟨(opened ++ [pollLive.run meter]) :: exchanges, later, ?_,
        List.forall_mem_cons.2 ⟨hexchange, hexchanges⟩, hlater⟩
      rw [List.flatten_cons, List.append_assoc, ← heq, List.append_assoc]
      rfl

/-- Wherever a run of polls stands, it stands within an exchange or between two of them. -/
theorem Underway.exists_after {opened : List (Outcome (Meter ω) PollStatus)} {meter : Meter ω}
    (h : Underway config opened meter) (count : Nat) :
    ∃ opened', Underway config opened' (pollLive.after count meter) := by
  induction count generalizing opened meter with
  | zero => exact ⟨opened, h⟩
  | succ count ih => exact h.step.2.elim ih fun hnext => ih hnext.2

/-- Take any session, over any wire, with no request in flight, and from there on polls of the
displays, whatever each of them comes to. They are exchanges, one behind the other, and the last one
may not be over.

The first poll of an exchange writes the request, and no other poll does; nothing else is written.
All polls wait but the last one, which samples, or is dropped, or fails. No more polls are spent on
an exchange than the budget has it; and if the request gets across whole, no read fails and no frame
is handed out, as many as that. A poll that is dropped, or with which the meter is given up, counts
an error, one that samples takes an error away, and no other changes the counter. -/
theorem run_live (wire : ω) (config : Config) (operations : List (Nat × Operation))
    (count : Nat) :
    let meter := (perform (Meter.new wire config) operations).1
    let outcomes := pollLive.repeated count meter
    meter.poll.pending = none →
      (∃ (exchanges : List (List (Outcome (Meter ω) PollStatus)))
          (later : List (Outcome (Meter ω) PollStatus)),
        outcomes = exchanges.flatten ++ later ∧
        (∀ polls ∈ exchanges, LiveExchange config.budget polls) ∧
        LiveOpening config.budget later) ∧
      ∀ index < count,
        let before := pollLive.after index meter
        let outcome := pollLive.run before
        outcomes[index]? = some outcome ∧
          outcome.state.health.errors.toNat =
            recount outcome.ending before.health.errors.toNat := by
  intro meter outcomes hpending
  have hreached := reached_perform wire config operations
  have hstart : Underway config [] meter :=
    ⟨⟨hreached.afresh, hreached.2⟩, liveOpening_nil config, hpending,
      hreached.2.1.polls_eq hpending⟩
  refine ⟨hstart.exchanges_repeated count, fun index hindex => ?_⟩
  intro before outcome
  obtain ⟨_, hunderway⟩ := hstart.exists_after index
  exact ⟨getElem?_repeated pollLive hindex meter, hunderway.step.1.errors_eq⟩

/-- Two polls are allowed for an answer. The first request is not answered, the second one does not
get across whole, and with the fourth poll there is a third one. -/
theorem run_live_of_mute :
    let config : Config := { receiveTimeout := 100 }
    let wire : ScriptedWire := { rules := [.all, .atMost 2] }
    let meter := Meter.new wire config
    let outcomes := pollLive.repeated 4 meter
    meter.poll.pending = none ∧ config.budget = 2 ∧
      outcomes.map (·.ending) = [.returned .waiting, .returned .dropped,
        .failed (.shortWrite 2 5), .returned .waiting] ∧
      ∃ (exchanges : List (List (Outcome (Meter ScriptedWire) PollStatus)))
        (later : List (Outcome (Meter ScriptedWire) PollStatus)),
        outcomes = exchanges.flatten ++ later ∧
          (∀ polls ∈ exchanges, LiveExchange config.budget polls) ∧
          LiveOpening config.budget later := by
  intro config wire meter outcomes
  exact ⟨rfl, by decide +kernel, by decide +kernel, (run_live wire config [] 4 rfl).1⟩

end Meter

end Multimeter
