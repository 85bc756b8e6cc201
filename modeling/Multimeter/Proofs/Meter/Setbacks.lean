import Multimeter.Proofs.Meter.Tally
/-!
# Polls that fail softly

A poll whose request is given up, because no answer comes or a wrong one does, counts an error and
is dropped, until the ceiling of the error counter is passed. A block without entries counts an
error, too, but only after its arrival has been counted as a success, so that a meter which sends
nothing but such blocks is never given up.

* `Setback`: what one poll reports and how it counts.
* `pollLive_setback`, `pollStorage_setback`: every poll counts in this way.
* `Polling.after_repeated`: how the errors add up over a run of polls.
* `run_setbacks`: how many polls of a run are dropped, and how the one after it ends.
* `pollStorage_tolerates_empty`: a meter that sends empty blocks is not given up in time.
-/

namespace Multimeter

namespace Health

variable {health : Health} (hle : health.errors.toNat ≤ health.ceiling.toNat)
include hle

/-- Another error passes the ceiling if no more are tolerated. -/
theorem isExceeded_recordError_iff (hceiling : health.ceiling ≠ 255) :
    health.recordError.isExceeded = true ↔ health.errors = health.ceiling := by
  have herrors := errors_recordError health
  have hbound := health.ceiling.toNat_lt
  have hne : health.ceiling.toNat ≠ 255 := fun heq => hceiling (UInt8.toNat_inj.1 heq)
  have hsame : health.recordError.ceiling = health.ceiling := rfl
  rw [isExceeded_iff, ← UInt8.toNat_inj, hsame]
  omega

/-- An error behind a success passes the ceiling only if none are tolerated. -/
theorem isExceeded_recordSuccess_recordError_iff (hceiling : health.ceiling ≠ 255) :
    health.recordSuccess.recordError.isExceeded = true ↔ health.ceiling = 0 := by
  have herrors := errors_recordError health.recordSuccess
  have hsuccess := errors_recordSuccess health
  have hbound := health.ceiling.toNat_lt
  have hne : health.ceiling.toNat ≠ 255 := fun heq => hceiling (UInt8.toNat_inj.1 heq)
  have hsame : health.recordSuccess.recordError.ceiling = health.ceiling := rfl
  have hzero : (0 : UInt8).toNat = 0 := rfl
  rw [isExceeded_iff, ← UInt8.toNat_inj, hsame, hzero]
  omega

end Health

/-- How a poll ends that counts as dropped: the counter may have passed its ceiling. -/
def Health.verdict (health : Health) : Ending PollStatus :=
  if health.isExceeded then .failed .unresponsive else .returned .dropped

namespace Meter

open Act

variable {ω : Type} {blocks : Prop} {health : Health}

/-! ## One poll -/

/-- What a poll reports, and how it counts. A poll may be for `blocks` of a storage. -/
inductive Setback (blocks : Prop) (health : Health) (meter : Meter ω) (history : List Event) :
    Ending PollStatus → Prop
  /-- Nothing was dropped; as long as the answer is waited for, nothing is counted. -/
  | clear {ending : Ending PollStatus} (htally : tally history = (0, 0))
      (hdropped : ending ≠ .returned .dropped)
      (hwaiting : ending = .returned .waiting → meter.health = health) :
      Setback blocks health meter history ending
  /-- The request was given up. -/
  | abandoned (h : Tallied health.recordError (1, 0) meter history) :
      Setback blocks health meter history health.recordError.verdict
  /-- A block without entries has arrived. -/
  | emptied (hblocks : blocks) (h : Tallied health.recordSuccess.recordError (0, 1) meter history) :
      Setback blocks health meter history health.recordSuccess.recordError.verdict

/-- An answer that has not arrived is waited for. -/
theorem wait_setback : Ensures
    (fun meter history => Exchanged (ω := ω) health (0, 0) meter history (.returned none))
    (Pure.pure .waiting)
    fun ending meter history => Setback blocks health meter history ending := by
  refine ensures_pure fun meter history h => ?_
  cases h with
  | awaited h => exact .clear h.tally_eq nofun fun _ => h.health_eq

/-- A request that was given up counts as dropped, unless the meter was given up with it. -/
theorem drop_setback (error : SessionError) : Ensures
    (fun meter history => Exchanged (ω := ω) health (0, 0) meter history (.failed error))
    (if error.isRetryable then Pure.pure .dropped else Act.fail error)
    fun ending meter history => Setback blocks health meter history ending := by
  split
  -- an error that may go away was counted, so it is one that was tolerated
  · rename_i hsoft
    refine ensures_pure fun meter history h => ?_
    cases h with
    | abandoned error _ h htolerated =>
      have hverdict : health.recordError.verdict = .returned .dropped :=
        if_neg (Bool.eq_false_iff.1 htolerated)
      exact hverdict ▸ .abandoned h
    | exceeded h hexceeded => cases hsoft
    | broken error hhard h =>
      rw [hhard] at hsoft
      cases hsoft
  -- any other error has ended the exchange, or it is the one that gives the meter up
  · rename_i hhard
    refine ensures_fail fun meter history h => ?_
    cases h with
    | abandoned error hsoft h htolerated => exact absurd hsoft hhard
    | exceeded h hexceeded =>
      have hverdict : health.recordError.verdict = .failed .unresponsive := if_pos hexceeded
      exact hverdict ▸ .abandoned h
    | broken error _ h => exact .clear h.tally_eq nofun nofun

/-- Behind an answer, its arrival is all that has been counted. -/
theorem answered_setback {response : Response} {second : Act (Meter ω) PollStatus}
    (h : Ensures (Tallied health.recordSuccess (0, 0)) second
      fun ending meter history => Setback blocks health meter history ending) :
    Ensures (fun meter history =>
      Exchanged health (0, 0) meter history (.returned (some response))) second
      fun ending meter history => Setback blocks health meter history ending := by
  refine h.weaken (fun meter history h => ?_) fun _ _ _ h => h
  cases h with
  | answered _ h => exact h

/-- What comes before the end of a poll may fail, which is no setback. -/
theorem setback_bind {α : Type} {health' : Health} {act : Act (Meter ω) α}
    {second : α → Act (Meter ω) PollStatus} (hact : Keeps (Tallied health' (0, 0)) act)
    (hsecond : ∀ value, Ensures (Tallied health' (0, 0)) (second value)
      fun ending meter history => Setback blocks health meter history ending) :
    Ensures (Tallied health' (0, 0)) (act >>= second)
      fun ending meter history => Setback blocks health meter history ending :=
  Ensures.bind hact hsecond (fun _ _ _ h => .clear h.tally_eq nofun nofun)
    fun _ _ h => .clear h.tally_eq nofun nofun

/-- A poll that has got its answer was no setback, whatever it returns. -/
theorem settled_setback {health' : Health} {status : PollStatus} (hdropped : status ≠ .dropped)
    (hwaiting : status ≠ .waiting) : Ensures (Tallied (ω := ω) health' (0, 0)) (Pure.pure status)
    fun ending meter history => Setback blocks health meter history ending :=
  ensures_pure fun _ _ h => .clear h.tally_eq (fun heq => hdropped (Ending.returned.inj heq))
    fun heq => absurd (Ending.returned.inj heq) hwaiting

/-- A hard error adds nothing to the count of setbacks. -/
theorem missed_setback {health' : Health} (error : SessionError) :
    Ensures (Tallied (ω := ω) health' (0, 0)) (Act.fail error)
      fun ending meter history => Setback blocks health meter history ending :=
  ensures_fail fun _ _ h => .clear h.tally_eq nofun nofun

/-- A block without entries counts an error behind the success of its arrival. -/
theorem playBlock_setback (kind : Storage.Kind) (info : Storage.Info) (window : Storage.Window)
    (block : Payload) :
    Ensures (Tallied (ω := ω) health.recordSuccess (0, 0)) (playBlock kind info window block)
      fun ending meter history => Setback True health meter history ending := by
  refine (changePoll_tallied _).returns_bind ?_
  cases info.entries block.bytes with
  | nil =>
    refine ensures_get_bind fun meter => Ensures.of_left ?_
    -- the log entry is what tells the empty block
    have hlog (entry : Nat) : Ensures (Tallied (ω := ω) health.recordSuccess (0, 0))
        (log (.emptyBlock kind entry)) (Returns () (Tallied health.recordSuccess (0, 1))) := by
      refine fun meter history h => ⟨rfl, h.health_eq, ?_⟩
      show tally (history ++ [.logged (.emptyBlock kind entry)]) = _
      rw [tally_append, h.tally_eq]
      rfl
    refine (hlog meter.poll.cursor).returns_bind (countError_tallied.bind (fun _ => ?_)
      (fun error _ _ h => ?_) fun _ _ h => ?_)
    · refine ensures_pure fun meter history h => ?_
      obtain ⟨htallied, ⟨htolerated, -⟩ | ⟨-, hending⟩⟩ := h
      · have hverdict : health.recordSuccess.recordError.verdict = .returned .dropped :=
          if_neg (Bool.eq_false_iff.1 htolerated)
        exact hverdict ▸ .emptied trivial htallied
      · cases hending
    · obtain ⟨htallied, ⟨-, hending⟩ | ⟨hexceeded, hending⟩⟩ := h
      · cases hending
      · have hverdict : health.recordSuccess.recordError.verdict = .failed .unresponsive :=
          if_pos hexceeded
        rw [Ending.failed.inj hending]
        exact hverdict ▸ .emptied trivial htallied
    · obtain ⟨-, ⟨-, hending⟩ | ⟨-, hending⟩⟩ := h <;> cases hending
  | cons entry entries =>
    -- a block with entries counts nothing
    refine setback_bind
      (Keeps.forM fun entry _ => emitting_tallied.keeps_emitEntry entry) fun _ => ?_
    refine ensures_get_bind fun meter => Ensures.of_left ?_
    show Ensures _ (if _ then _ else _) _
    split
    · exact setback_bind (fun _ _ h => h.quiet rfl rfl) fun _ => settled_setback nofun nofun
    · exact settled_setback nofun nofun

/-- A poll that was dropped has counted an error and is not the last one tolerated. -/
theorem Setback.of_dropped {meter : Meter ω} {history : List Event}
    (h : Setback blocks health meter history (.returned .dropped)) :
    (Tallied health.recordError (1, 0) meter history ∨
      blocks ∧ Tallied health.recordSuccess.recordError (0, 1) meter history) ∧
      meter.health.isExceeded = false := by
  generalize hending : Ending.returned PollStatus.dropped = ending at h
  have hverdict (counted : Health) (h : Ending.returned PollStatus.dropped = counted.verdict) :
      counted.isExceeded = false := by
    rw [Health.verdict] at h
    split at h
    · cases h
    · exact Bool.eq_false_iff.2 ‹_›
  cases h with
  | clear _ hdropped => exact absurd hending.symm hdropped
  | abandoned h => exact ⟨.inl h, h.health_eq ▸ hverdict _ hending⟩
  | emptied hblocks h => exact ⟨.inr ⟨hblocks, h⟩, h.health_eq ▸ hverdict _ hending⟩

/-- A poll that abandons its request ends as the error that is counted for it tells. -/
theorem Setback.of_abandoned {meter : Meter ω} {history : List Event} {ending : Ending PollStatus}
    (h : Setback blocks health meter history ending) (hpos : 0 < (tally history).1) :
    ending = health.recordError.verdict := by
  cases h with
  | clear htally =>
    rw [htally] at hpos
    exact absurd hpos (Nat.lt_irrefl 0)
  | abandoned => rfl
  | emptied _ h =>
    rw [h.tally_eq] at hpos
    exact absurd hpos (Nat.lt_irrefl 0)

/-- A poll with an empty block ends as the error behind its success tells. -/
theorem Setback.of_emptied {meter : Meter ω} {history : List Event} {ending : Ending PollStatus}
    (h : Setback blocks health meter history ending) (hpos : 0 < (tally history).2) :
    ending = health.recordSuccess.recordError.verdict := by
  cases h with
  | clear htally =>
    rw [htally] at hpos
    exact absurd hpos (Nat.lt_irrefl 0)
  | abandoned h =>
    rw [h.tally_eq] at hpos
    exact absurd hpos (Nat.lt_irrefl 0)
  | emptied => rfl

/-- A poll that waits counts nothing. -/
theorem Setback.of_waiting {meter : Meter ω} {history : List Event}
    (h : Setback blocks health meter history (.returned .waiting)) :
    Tallied health (0, 0) meter history := by
  generalize hending : Ending.returned PollStatus.waiting = ending at h
  have hverdict (counted : Health) : Ending.returned PollStatus.waiting ≠ counted.verdict := by
    rw [Health.verdict]
    split <;> nofun
  cases h with
  | clear htally _ hwaiting => exact ⟨hwaiting hending.symm, htally⟩
  | abandoned => exact absurd hending (hverdict _)
  | emptied => exact absurd hending (hverdict _)

/-! ## Adding up -/

/-- The polls that were dropped. -/
def drops (outcomes : List (Outcome (Meter ω) PollStatus)) : Nat :=
  outcomes.countP (·.ending = .returned .dropped)

/-- The blocks without entries that arrived. -/
def emptyBlocks (outcomes : List (Outcome (Meter ω) PollStatus)) : Nat :=
  (outcomes.flatMap (·.events)).countP Event.isEmptyBlock

/-- The empty blocks of a run are those of its first poll and those of the others. -/
theorem emptyBlocks_cons (outcome : Outcome (Meter ω) PollStatus)
    (outcomes : List (Outcome (Meter ω) PollStatus)) :
    emptyBlocks (outcome :: outcomes) = (tally outcome.events).2 + emptyBlocks outcomes := by
  rw [emptyBlocks, List.flatMap_cons, List.countP_append]
  rfl

/-- How the errors add up over a run of polls: every poll that was dropped has counted one, unless
it was for a block without entries. -/
structure Adding (config : Config) (meter last : Meter ω)
    (outcomes : List (Outcome (Meter ω) PollStatus)) : Prop where
  /-- All polls that were dropped have added an error, except at most those with empty blocks. -/
  le_errors : meter.health.errors.toNat + drops outcomes ≤
    last.health.errors.toNat + emptyBlocks outcomes
  /-- Without empty blocks, just the polls that were dropped have added an error. -/
  errors_le : emptyBlocks outcomes = 0 →
    last.health.errors.toNat = meter.health.errors.toNat + drops outcomes
  /-- The ceiling has not been passed. -/
  within : last.health.errors.toNat ≤ config.maxErrors.toNat

/-- What the first poll adds and what the others add comes to what all of them add. -/
theorem Adding.cons {config : Config} {meter next last : Meter ω}
    {outcome : Outcome (Meter ω) PollStatus} {outcomes : List (Outcome (Meter ω) PollStatus)}
    (hfirst : Adding config meter next [outcome]) (hlater : Adding config next last outcomes) :
    Adding config meter last (outcome :: outcomes) := by
  have hdropped : drops (outcome :: outcomes) = drops [outcome] + drops outcomes := by
    simp [drops, List.countP_cons, Nat.add_comm]
  have hemptied :
      emptyBlocks (outcome :: outcomes) = emptyBlocks [outcome] + emptyBlocks outcomes := by
    rw [emptyBlocks_cons, emptyBlocks_cons]
    rfl
  have h := hfirst.le_errors
  have h' := hlater.le_errors
  refine ⟨by omega, fun hnone => ?_, hlater.within⟩
  rw [hlater.errors_le (by omega), hfirst.errors_le (by omega), hdropped, Nat.add_assoc]

/-- What one poll adds that has waited or was dropped. -/
theorem Setback.adding {config : Config} {meter : Meter ω}
    {outcome : Outcome (Meter ω) PollStatus} (hmax : config.maxErrors ≠ 255)
    (hceiling : outcome.state.health.ceiling = config.maxErrors)
    (hwithin : meter.health.errors.toNat ≤ config.maxErrors.toNat)
    (h : Setback blocks meter.health outcome.state outcome.events outcome.ending)
    (hending : outcome.ending = .returned .waiting ∨ outcome.ending = .returned .dropped) :
    Adding config meter outcome.state [outcome] ∧ (¬ blocks → emptyBlocks [outcome] = 0) := by
  have hemptied : emptyBlocks [outcome] = (tally outcome.events).2 := emptyBlocks_cons outcome []
  rcases hending with hending | hending
  · -- a poll that waits has counted nothing
    rw [hending] at h
    obtain ⟨hhealth, htally⟩ := h.of_waiting
    have hdropped : drops [outcome] = 0 := by simp [drops, hending]
    rw [htally] at hemptied
    exact ⟨⟨by rw [hhealth]; omega, fun _ => by rw [hhealth]; omega, hhealth ▸ hwithin⟩,
      fun _ => hemptied⟩
  · -- a counter within the ceiling is below its end, so a tolerated error has raised it
    rw [hending] at h
    obtain ⟨hcounted, htolerated⟩ := h.of_dropped
    have hdropped : drops [outcome] = 1 := by simp [drops, hending]
    have hle : outcome.state.health.errors.toNat ≤ config.maxErrors.toNat := by
      have hiff := outcome.state.health.isExceeded_iff
      rw [htolerated, hceiling] at hiff
      exact Nat.le_of_not_lt fun hlt => Bool.false_ne_true (hiff.2 hlt)
    have hbound : config.maxErrors.toNat < 255 := by
      have hlt := config.maxErrors.toNat_lt
      have hne : config.maxErrors.toNat ≠ 255 := fun heq => hmax (UInt8.toNat_inj.1 heq)
      omega
    rcases hcounted with ⟨hhealth, htally⟩ | ⟨hblocks, hhealth, htally⟩
    · have herrors := Health.errors_recordError meter.health
      rw [← hhealth] at herrors
      rw [htally] at hemptied
      exact ⟨⟨by omega, fun _ => by omega, hle⟩, fun _ => hemptied⟩
    · have herrors := Health.errors_recordError meter.health.recordSuccess
      have hsuccess := Health.errors_recordSuccess meter.health
      rw [← hhealth] at herrors
      rw [htally] at hemptied
      exact ⟨⟨by omega, fun _ => by omega, hle⟩, fun hnot => absurd hblocks hnot⟩

/-! ## Polls of a meter -/

variable [Wire ω]

/-- A live poll counts as every poll does, and it is never for a block. -/
theorem pollLive_setback : Ensures (Tallied (ω := ω) health (0, 0)) pollLive
    fun ending meter history => Setback False health meter history ending := by
  have hsent : Request.readDisplay.toFrame = .ok (Frame.empty .readDisplay) := rfl
  refine (changePoll_tallied _).returns_bind ?_
  refine (pollExchange_exchanged hsent).attempt_bind (fun _ _ h => nomatch h) (fun found => ?_)
    drop_setback
  cases found with
  | none => exact wait_setback
  | some response =>
    cases response with
    | display display =>
      refine answered_setback (setback_bind (fun _ _ h => h.quiet rfl rfl) fun _ => ?_)
      exact setback_bind (emitting_tallied.keeps_emitDisplay display) fun _ =>
        settled_setback nofun nofun
    | _ => exact answered_setback (missed_setback _)

/-- A look at a playback counts as every poll does: a window never asks for more than fits. -/
theorem playNext_setback {config : Config} {calls : List Sink.Call} {known : Meter ω}
    {kind : Storage.Kind} {info : Storage.Info} (hsound : known.poll.Sound config.budget)
    (hkind : known.poll.playback = some kind) (hlayout : info.HasLayout kind) :
    Ensures (fun meter history => Standing Link.Coherent config calls known meter history ∧
      Tallied health (0, 0) meter history) (playNext kind info)
      fun ending meter history => Setback True health meter history ending := by
  refine ensures_get_bind fun meter => Ensures.weaken (Ensures.of_imp
    (fun hmeter : Alike known meter => ?_)) (fun _ _ h => ⟨h.2 ▸ h.1.1.alike, h.1⟩) fun _ _ _ h => h
  rw [hmeter.poll]
  split
  · have hfinished : Ensures (Tallied (ω := ω) health (0, 0)) (Pure.pure .finished)
        fun ending meter history => Setback True health meter history ending :=
      settled_setback nofun nofun
    exact hfinished.of_right
  rename_i hreadable
  -- short of the last entry, a window is at hand or can be planned
  refine ((windowOrPlan_succeeds hsound hkind hlayout (Nat.lt_of_not_le hreadable)).and
    (emitting_tallied.keeps_windowOrPlan info)).bind (fun window => ?_) (fun _ _ _ h => h.1.elim)
    fun _ _ h => h.1.elim
  refine Ensures.weaken (Ensures.of_imp (fun hcovers : window.Covers kind.layout
    known.poll.cursor => ?_)) (fun _ _ h => ⟨h.1.1.2.1, h.2⟩) fun _ _ _ h => h
  -- its request has a frame, so nothing but the line can keep it from being sent
  obtain ⟨sent, hsent⟩ := Request.toFrame_of_length_le hcovers.length_le
  refine (pollExchange_exchanged hsent).attempt_bind (fun _ _ h => nomatch h) (fun found => ?_)
    drop_setback
  cases found with
  | none => exact wait_setback
  | some response =>
    cases response with
    | memory block => exact answered_setback (playBlock_setback kind info window block)
    | _ => exact answered_setback (missed_setback _)

/-! ## Runs of polls -/

/-- What is polled. -/
inductive Source where
  /-- The displays. -/
  | live
  /-- The playback of a storage. -/
  | storage (kind : Storage.Kind)
  deriving DecidableEq, Repr

namespace Source

/-- Poll it. -/
def poll (patience : Nat) : Source → Act (Meter ω) PollStatus
  | live => pollLive
  | storage kind => pollStorage patience kind

/-- It can be polled at once: a storage is known to be as full as it is. -/
def Ready (meter : Meter ω) : Source → Prop
  | live => True
  | storage kind => (meter.storage? kind).isSome = true

/-- Its polls are for blocks. -/
def IsStorage : Source → Prop
  | live => False
  | storage _ => True

end Source

/-- A poll of a known storage counts as every poll does, and the storage stays known. -/
theorem pollStorage_setback {config : Config} {meter : Meter ω} {kind : Storage.Kind}
    {info : Storage.Info} (hreached : Reached Link.Coherent config meter [])
    (hinfo : meter.storage? kind = some info) (patience : Nat) :
    let outcome := (pollStorage patience kind).run meter
    Setback True meter.health outcome.state outcome.events outcome.ending ∧
      outcome.state.storage? kind = some info := by
  obtain ⟨storages, hstorages, rfl⟩ := Option.map_eq_some_iff.1 hinfo
  have hlayout := hreached.2.2 storages hstorages kind
  -- the look at the playback begins with the poll state turned to the storage
  let turned : Meter ω := { meter with poll := meter.poll.turnTo kind }
  have hsound : turned.poll.Sound config.budget := hreached.2.1.turnTo kind
  have hkind : turned.poll.playback = some kind := meter.poll.playback_turnTo kind
  have hstanding : Standing Link.Coherent config [] turned turned [] :=
    hreached.afresh.changePoll (Poll.turnTo kind)
  have hstart : Tallied meter.health (0, 0) turned [] := ⟨rfl, rfl⟩
  have hsetback := playNext_setback hsound hkind hlayout turned [] ⟨hstanding, hstart⟩
  have hwithin := playNext_within lasting_coherent hsound hkind hlayout turned [] hstanding
  rw [← run_pollStorage_of_known hinfo patience] at hsetback hwithin
  exact ⟨hsetback, hwithin.1.trans hinfo⟩

omit [Wire ω] in
/-- The session was reached with this configuration, and the source can be polled. -/
structure Polling (source : Source) (config : Config) (meter : Meter ω) : Prop where
  /-- The session was reached. -/
  reached : Reached Link.Coherent config meter []
  /-- It tolerates as many errors as it was told to. -/
  ceiling_eq : meter.health.ceiling = config.maxErrors
  /-- The source can be polled. -/
  ready : source.Ready meter

/-- One poll counts as it should, and the source can be polled again. -/
theorem Polling.step {source : Source} {config : Config} {meter : Meter ω}
    (h : Polling source config meter) (patience : Nat) :
    let outcome := (source.poll patience).run meter
    Setback source.IsStorage meter.health outcome.state outcome.events outcome.ending ∧
      Polling source config outcome.state := by
  cases source with
  | live =>
    have hstart : Tallied meter.health (0, 0) meter [] := ⟨rfl, rfl⟩
    have hreached :=
      (keeps_call lasting_coherent patience Call.pollLive).of_discard meter [] h.reached
    exact ⟨pollLive_setback meter [] hstart, ⟨hreached.afresh, hreached.2⟩,
      (upheld_ceiling config.maxErrors).keeps_pollLive meter [] h.ceiling_eq, trivial⟩
  | storage kind =>
    have hreached :=
      (keeps_call lasting_coherent patience (Call.pollStorage kind)).of_discard meter [] h.reached
    obtain ⟨info, hinfo⟩ := Option.isSome_iff_exists.1 h.ready
    obtain ⟨hsetback, hready⟩ := pollStorage_setback h.reached hinfo patience
    have hceiling :=
      (upheld_ceiling config.maxErrors).keeps_pollStorage patience kind meter [] h.ceiling_eq
    exact ⟨hsetback, ⟨hreached.afresh, hreached.2⟩, hceiling,
      Option.isSome_iff_exists.2 ⟨info, hready⟩⟩

/-- While every poll waits or is dropped, the errors add up, and the source can be polled on. -/
theorem Polling.after_repeated {source : Source} {config : Config} {patience : Nat}
    {meter : Meter ω} (hmax : config.maxErrors ≠ 255) (h : Polling source config meter)
    (hwithin : meter.health.errors.toNat ≤ config.maxErrors.toNat) (count : Nat)
    (hrun : ∀ outcome ∈ (source.poll patience).repeated count meter,
      outcome.ending = .returned .waiting ∨ outcome.ending = .returned .dropped) :
    Polling source config ((source.poll patience).after count meter) ∧
      Adding config meter ((source.poll patience).after count meter)
        ((source.poll patience).repeated count meter) ∧
      (¬ source.IsStorage → emptyBlocks ((source.poll patience).repeated count meter) = 0) := by
  -- the errors of the first poll are added to those of the others
  induction count generalizing meter with
  | zero => exact ⟨h, ⟨Nat.le_refl _, fun _ => rfl, hwithin⟩, fun _ => rfl⟩
  | succ count ih =>
    obtain ⟨hsetback, hnext⟩ := h.step patience
    obtain ⟨hfirst, hlater⟩ := List.forall_mem_cons.1 hrun
    obtain ⟨hadding, hlive⟩ := hsetback.adding hmax hnext.ceiling_eq hwithin hfirst
    obtain ⟨hlast, haddings, hlives⟩ := ih hnext hadding.within hlater
    refine ⟨hlast, hadding.cons haddings, fun hsource => ?_⟩
    have hfirstEmptied := hlive hsource
    rw [emptyBlocks_cons] at hfirstEmptied
    have hlaterEmptied := hlives hsource
    rw [Act.repeated, emptyBlocks_cons, hlaterEmptied]
    exact hfirstEmptied

/-- A run of polls in which each one waits or is dropped, by a session that has counted no errors
before. No more polls are dropped than errors are tolerated, apart from those with empty blocks; and
if there are no such blocks, every dropped poll has added an error. The next request that is given
up fails for good if no more errors are tolerated; the next empty block does so only if none ever
were. -/
theorem run_setbacks (wire : ω) (config : Config) (operations : List (Nat × Operation))
    (source : Source) (patience count : Nat) (hmax : config.maxErrors ≠ 255) :
    let meter := (perform (Meter.new wire config) operations).1
    let outcomes := (source.poll patience).repeated count meter
    let last := (source.poll patience).after count meter
    let next := (source.poll patience).run last
    meter.health.errors = 0 → source.Ready meter →
    (∀ outcome ∈ outcomes,
      outcome.ending = .returned .waiting ∨ outcome.ending = .returned .dropped) →
      drops outcomes ≤ config.maxErrors.toNat + emptyBlocks outcomes ∧
      (emptyBlocks outcomes = 0 → last.health.errors.toNat = drops outcomes) ∧
      (source = .live → emptyBlocks outcomes = 0) ∧
      (0 < (tally next.events).1 → next.ending =
        if last.health.errors = config.maxErrors then .failed .unresponsive
        else .returned .dropped) ∧
      (0 < (tally next.events).2 → next.ending =
        if config.maxErrors = 0 then .failed .unresponsive else .returned .dropped) := by
  intro meter outcomes last next hstart hready hrun
  have hreached := reached_perform wire config operations
  -- the source can be polled, and each poll adds what it should
  have hpolling : Polling source config meter :=
    ⟨⟨hreached.afresh, hreached.2⟩, ceiling_perform wire config operations, hready⟩
  have herrors : meter.health.errors.toNat = 0 := by rw [hstart]; rfl
  obtain ⟨hlast, hadding, hlive⟩ := hpolling.after_repeated hmax (by omega) count hrun
  obtain ⟨hsetback, -⟩ := hlast.step patience
  have hle : meter.health.errors.toNat + drops outcomes ≤
      last.health.errors.toNat + emptyBlocks outcomes := hadding.le_errors
  have hceiling : last.health.ceiling = config.maxErrors := hlast.ceiling_eq
  have hwithin : last.health.errors.toNat ≤ last.health.ceiling.toNat :=
    hceiling ▸ hadding.within
  -- the next poll is counted against the same ceiling
  rw [← hceiling] at hmax ⊢
  refine ⟨by omega, fun hnone => ?_, fun hsource => hlive (by rw [hsource]; exact id),
    fun habandoned => ?_, fun hemptied => ?_⟩
  · have hsame : last.health.errors.toNat = meter.health.errors.toNat + drops outcomes :=
      hadding.errors_le hnone
    rw [hsame, herrors, Nat.zero_add]
  · rw [show next.ending = last.health.recordError.verdict from hsetback.of_abandoned habandoned,
      Health.verdict]
    exact if_congr (Health.isExceeded_recordError_iff hwithin hmax) rfl rfl
  · rw [show next.ending = last.health.recordSuccess.recordError.verdict from
      hsetback.of_emptied hemptied, Health.verdict]
    exact if_congr (Health.isExceeded_recordSuccess_recordError_iff hwithin hmax) rfl rfl

/-- On a dead line, with one error tolerated, the first live poll is dropped and the second one
gives up the meter. -/
theorem run_setbacks_of_dead :
    let config : Config := { receiveTimeout := 50, maxErrors := 1 }
    let meter := Meter.new ({} : ScriptedWire) config
    let outcomes := (Source.live.poll 1).repeated 1 meter
    let next := (Source.live.poll 1).run ((Source.live.poll 1).after 1 meter)
    drops outcomes = 1 ∧ emptyBlocks outcomes = 0 ∧ next.ending = .failed .unresponsive := by
  intro config meter outcomes next
  have hrun : ∀ outcome ∈ outcomes,
      outcome.ending = .returned .waiting ∨ outcome.ending = .returned .dropped := by
    intro outcome hmem
    rw [List.mem_singleton.1 hmem]
    exact .inr (by decide +kernel)
  obtain ⟨-, -, hlive, habandoned, -⟩ := run_setbacks ({} : ScriptedWire) config [] .live 1 1
    (by decide) rfl trivial hrun
  refine ⟨by decide +kernel, hlive rfl, ?_⟩
  exact (habandoned (by decide +kernel)).trans (by decide +kernel)

/-- A meter sends a block without entries whenever it is asked for some. One error is tolerated, yet
two polls in a row are dropped. -/
theorem pollStorage_tolerates_empty :
    let reply (response : Response) : List Segment := [.bytes response.frame.encode]
    let config : Config := { maxErrors := 1 }
    let wire : ScriptedWire :=
      { replies := [reply (.information twoHundredSeries),
          reply (.memory ⟨[0, 0, 0, 1, 0, 1], by decide⟩), reply (.memory .empty),
          reply (.memory .empty)] }
    let operations := [(1, Operation.call .identify), (1, .call .readStorages)]
    let meter := (perform (Meter.new wire config) operations).1
    let outcomes := ((Source.storage .mem).poll 1).repeated 2 meter
    config.validate = .ok () ∧ meter.health.errors = 0 ∧ (Source.storage .mem).Ready meter ∧
      outcomes.map (·.ending) = [.returned .dropped, .returned .dropped] ∧
      drops outcomes = config.maxErrors.toNat + 1 := by
  intro reply config wire operations meter outcomes
  have hready : (meter.storage? .mem).isSome = true := by decide +kernel
  exact ⟨rfl, by decide +kernel, hready, by decide +kernel, by decide +kernel⟩

end Meter

end Multimeter
