import Multimeter.Proofs.Act.Repeated
import Multimeter.Proofs.Link.Unanswered
import Multimeter.Proofs.Meter.Progress
import Multimeter.Proofs.Meter.Steps
/-!
# Exchanges that never succeed

A blocking exchange is repeated after every failure that may go away, until the error counter has
passed its ceiling. The counter takes as many failures for that as are still tolerated, and one
more. It is kept in one byte though, so a ceiling of 255 is never passed, and then the exchange is
repeated for ever.

* `FailsSoftly`: every attempt at an act fails, in a way that may go away.
* `retry_gives_up`, `retry_goes_on`: how often such an act is attempted.
* `Call.asks?`: the request of the first exchange that a blocking call starts.
* `run_unanswered`: how a blocking call ends whose exchange never succeeds.
* `identify_goes_on`: a valid configuration and a silent line for which it does not end.
-/

namespace Multimeter

namespace Health

/-- How many failures in a row it takes for the ceiling to be passed. -/
def attempts (health : Health) : Nat := max 1 (health.ceiling.toNat + 1 - health.errors.toNat)

/-- No more attempts are made than errors are tolerated, and one. -/
theorem attempts_le (health : Health) : health.attempts ≤ health.ceiling.toNat + 1 :=
  Nat.max_le.2 ⟨Nat.le_add_left _ _, Nat.sub_le _ _⟩

/-- The ceiling is exceeded when more errors are counted than it allows. -/
theorem isExceeded_iff (health : Health) :
    health.isExceeded = true ↔ health.ceiling.toNat < health.errors.toNat := by
  rw [isExceeded, decide_eq_true_iff, UInt8.lt_iff_toNat_lt]

/-- A failure that does not pass the ceiling is one of the attempts. -/
theorem attempts_recordError {health : Health} (hceiling : health.ceiling ≠ 255)
    (hexceeded : health.recordError.isExceeded = false) :
    health.recordError.attempts + 1 = health.attempts := by
  have herrors := errors_recordError health
  have hbound := health.ceiling.toNat_lt
  have hne : health.ceiling.toNat ≠ 255 := fun heq => hceiling (UInt8.toNat_inj.1 heq)
  have hle : ¬ health.ceiling.toNat < health.recordError.errors.toNat := by
    have hiff := health.recordError.isExceeded_iff
    rw [hexceeded] at hiff
    exact fun hlt => Bool.false_ne_true (hiff.2 hlt)
  have hsame : health.recordError.ceiling = health.ceiling := rfl
  simp only [attempts, hsame]
  omega

/-- The failure that passes the ceiling is the only one that it takes. -/
theorem attempts_eq_one {health : Health} (hexceeded : health.recordError.isExceeded = true) :
    health.attempts = 1 := by
  have herrors := errors_recordError health
  have hlt := health.recordError.isExceeded_iff.1 hexceeded
  have hsame : health.recordError.ceiling = health.ceiling := rfl
  rw [hsame] at hlt
  rw [attempts]
  omega

/-- No counter passes a full ceiling. -/
theorem isExceeded_of_ceiling {health : Health} (hceiling : health.ceiling = 255) :
    health.isExceeded = false := by
  have hbound := health.errors.toNat_lt
  rw [Bool.eq_false_iff, Ne, isExceeded_iff, hceiling]
  show ¬ 255 < health.errors.toNat
  omega

end Health

namespace Meter

open Act

variable {ω : Type} {α : Type}

/-- However often the act has been attempted, the next attempt fails in a way that may go away. -/
def FailsSoftly (act : Act (Link ω) α) (link : Link ω) : Prop :=
  ∀ count, ∃ error, (act.run (act.after count link)).ending = .failed error ∧
    error.isRetryable = true

/-- An act that fails softly for ever does so after one attempt, too. -/
theorem FailsSoftly.next {act : Act (Link ω) α} {link : Link ω} (h : FailsSoftly act link) :
    FailsSoftly act (act.run link).state := fun count => h (count + 1)

/-! ## Attempts -/

/-- What the session has counted after a failed attempt. -/
def failed (meter : Meter ω) (link : Link ω) : Meter ω :=
  { meter with link, health := meter.health.recordError }

/-- The failure that passes the ceiling is an error of its own. -/
theorem run_countError_exceeded (meter : Meter ω)
    (h : meter.health.recordError.isExceeded = true) :
    countError.run meter =
      { ending := .failed .unresponsive
        state := { meter with health := meter.health.recordError }
        events := [.logged (.unresponsive meter.health.recordError.errors)] } := by
  rw [countError, run_modify_bind, run_get_bind, if_pos h]
  rfl

/-- An error within the ceiling is counted, and nothing is logged. -/
theorem run_countError_tolerated (meter : Meter ω)
    (h : meter.health.recordError.isExceeded = false) :
    countError.run meter =
      { ending := .returned (), state := { meter with health := meter.health.recordError }
        events := [] } := by
  rw [countError, run_modify_bind, run_get_bind, if_neg (Bool.eq_false_iff.1 h)]
  rfl

section Attempts

variable {act : Act (Link ω) α} {meter : Meter ω} {error : SessionError}
  (hending : (act.run meter.link).ending = .failed error) (hsoft : error.isRetryable = true)
include hending hsoft

/-- The attempt that passes the ceiling is the last one. -/
theorem run_retry_exceeded (patience : Nat)
    (hexceeded : (meter.failed (act.run meter.link).state).health.isExceeded = true) :
    (retry act (patience + 1)).run meter =
      { ending := .failed .unresponsive
        state := meter.failed (act.run meter.link).state
        events := (act.run meter.link).events ++ [.logged
          (.unresponsive (meter.failed (act.run meter.link).state).health.errors)] } := by
  have hattempt : ((onLink act).attempt.run meter).ending = .returned (.error error) :=
    attempt_of_failed hending
  have hstate : ((onLink act).attempt.run meter).state =
      { meter with link := (act.run meter.link).state } := rfl
  have hcount := run_countError_exceeded { meter with link := (act.run meter.link).state } hexceeded
  rw [retry, run_bind_of_returned hattempt]
  simp only [hsoft, ↓reduceIte, hstate]
  rw [run_bind_of_failed (congrArg Outcome.ending hcount)]
  simp only [hcount]
  rfl

/-- An attempt that does not pass the ceiling is followed by another one. -/
theorem run_retry_tolerated (patience : Nat)
    (hexceeded : (meter.failed (act.run meter.link).state).health.isExceeded = false) :
    (retry act (patience + 1)).run meter =
      let next := meter.failed (act.run meter.link).state
      let later := (retry act patience).run next
      { ending := later.ending
        state := later.state
        events := (act.run meter.link).events ++
          .logged (.retrying next.health.errors next.health.ceiling) :: later.events } := by
  have hattempt : ((onLink act).attempt.run meter).ending = .returned (.error error) :=
    attempt_of_failed hending
  have hstate : ((onLink act).attempt.run meter).state =
      { meter with link := (act.run meter.link).state } := rfl
  have hcount :=
    run_countError_tolerated { meter with link := (act.run meter.link).state } hexceeded
  rw [retry, run_bind_of_returned hattempt]
  simp only [hsoft, ↓reduceIte, hstate]
  rw [run_bind_of_returned (congrArg Outcome.ending hcount)]
  simp only [hcount]
  rw [run_get_bind, run_log_bind]
  rfl

end Attempts

/-- As long as the ceiling can be passed, an act that fails softly is attempted until it has
been. -/
theorem retry_gives_up {act : Act (Link ω) α} {writes : Nat}
    (hwrites : ∀ link, (act.run link).events.countP Event.isWrite = writes) {meter : Meter ω}
    (hfails : FailsSoftly act meter.link) (hceiling : meter.health.ceiling ≠ 255) {patience : Nat}
    (hpatience : meter.health.attempts ≤ patience) :
    ((retry act patience).run meter).ending = .failed .unresponsive ∧
      ((retry act patience).run meter).events.countP Event.isWrite =
        meter.health.attempts * writes := by
  -- each attempt uses up one of the failures that are tolerated
  induction patience generalizing meter with
  | zero => exact absurd (Nat.le_trans (Nat.le_max_left 1 _) hpatience) (Nat.not_succ_le_zero 0)
  | succ patience ih =>
    obtain ⟨error, hending, hsoft⟩ := hfails 0
    have hfirst := hwrites meter.link
    cases hexceeded : (meter.failed (act.run meter.link).state).health.isExceeded with
    | true =>
      rw [run_retry_exceeded hending hsoft patience hexceeded]
      refine ⟨rfl, ?_⟩
      rw [List.countP_append, hfirst, Health.attempts_eq_one hexceeded, Nat.one_mul]
      rfl
    | false =>
      have hattempts : (meter.failed (act.run meter.link).state).health.attempts + 1 =
          meter.health.attempts := Health.attempts_recordError hceiling hexceeded
      obtain ⟨hlast, hlater⟩ := @ih (meter.failed (act.run meter.link).state) hfails.next
        hceiling (by omega)
      rw [run_retry_tolerated hending hsoft patience hexceeded]
      refine ⟨hlast, ?_⟩
      rw [List.countP_append, List.countP_cons_of_neg Bool.false_ne_true, hfirst, hlater,
        ← hattempts, Nat.succ_mul, Nat.add_comm]

/-- If the ceiling cannot be passed, an act that fails softly is attempted for ever. -/
theorem retry_goes_on {act : Act (Link ω) α} {writes : Nat}
    (hwrites : ∀ link, (act.run link).events.countP Event.isWrite = writes) {meter : Meter ω}
    (hfails : FailsSoftly act meter.link) (hceiling : meter.health.ceiling = 255) (patience : Nat) :
    ((retry act patience).run meter).ending = .unfinished ∧
      ((retry act patience).run meter).events.countP Event.isWrite = patience * writes := by
  induction patience generalizing meter with
  | zero => exact ⟨rfl, (Nat.zero_mul writes).symm⟩
  | succ patience ih =>
    obtain ⟨error, hending, hsoft⟩ := hfails 0
    have hexceeded : (meter.failed (act.run meter.link).state).health.isExceeded = false :=
      Health.isExceeded_of_ceiling hceiling
    obtain ⟨hlast, hlater⟩ :=
      @ih (meter.failed (act.run meter.link).state) hfails.next hceiling
    rw [run_retry_tolerated hending hsoft patience hexceeded]
    refine ⟨hlast, ?_⟩
    rw [List.countP_append, List.countP_cons_of_neg Bool.false_ne_true, hwrites, hlater,
      Nat.succ_mul, Nat.add_comm]

variable [Wire ω]

/-! ## Blocking calls -/

/-- The request for the block that tells how full the storages are, if the meter is known. -/
def surveyRequest? (meter : Meter ω) : Option Request :=
  meter.model?.map fun _ => .readMemory Storage.infoBlock

/-- The request of the first exchange that a blocking call starts in a session, if it starts one. -/
def Call.asks? (meter : Meter ω) : Call → Option Request
  | .identify => some .readInformation
  | .readDisplay => some .readDisplay
  | .readStorages => meter.surveyRequest?
  | .readEntries kind start count =>
    match meter.storage? kind with
    | none => meter.surveyRequest?
    | some info => (info.plan start count).toOption.map fun window => .readMemory window.request
  | .pollLive | .pollStorage _ => none

/-- Reading how full the storages are ends as its exchange does, if that has no value. -/
theorem stop_readStorages {meter : Meter ω} {asked : Request} {patience : Nat}
    {stop : Option SessionError} (hasks : meter.surveyRequest? = some asked)
    (hstop : ((exchange patience asked).run meter).ending.stop? = some stop) :
    ((readStorages patience).run meter).ending.stop? = some stop ∧
      ((readStorages patience).run meter).events =
        ((exchange patience asked).run meter).events := by
  obtain ⟨model, hmodel, rfl⟩ := Option.map_eq_some_iff.1 hasks
  rw [readStorages, run_get_bind, hmodel]
  exact stop_bind hstop

/-- A blocking call ends as its first exchange does, if that has no value. -/
theorem Call.stop_act {meter : Meter ω} {asked : Request} {patience : Nat}
    {stop : Option SessionError} {call : Call} (hasks : call.asks? meter = some asked)
    (hstop : ((exchange patience asked).run meter).ending.stop? = some stop) :
    ((call.act patience).run meter).ending.stop? = some stop ∧
      ((call.act patience).run meter).events = ((exchange patience asked).run meter).events := by
  -- what follows an act without a value adds nothing, so the first exchange is all there is
  have hdiscard {α : Type} {act : Act (Meter ω) α}
      (h : (act.run meter).ending.stop? = some stop ∧
        (act.run meter).events = ((exchange patience asked).run meter).events) :
      (act.discard.run meter).ending.stop? = some stop ∧
        (act.discard.run meter).events = ((exchange patience asked).run meter).events :=
    ⟨(stop_bind h.1).1, (stop_bind h.1).2.trans h.2⟩
  cases call with
  | identify =>
    obtain rfl := Option.some.inj hasks
    exact hdiscard (stop_bind hstop)
  | readDisplay =>
    obtain rfl := Option.some.inj hasks
    exact hdiscard (stop_bind hstop)
  | readStorages => exact hdiscard (stop_readStorages hasks hstop)
  | readEntries kind start count =>
    refine hdiscard ?_
    rw [asks?] at hasks
    cases hinfo : meter.storage? kind with
    | none =>
      rw [hinfo] at hasks
      -- the storages are read first, and that already does not come to a value
      obtain ⟨hending, hevents⟩ := stop_readStorages hasks hstop
      have hread : ((storageOrRead patience kind).run meter).ending.stop? = some stop ∧
          ((storageOrRead patience kind).run meter).events =
            ((exchange patience asked).run meter).events := by
        rw [storageOrRead, run_get_bind, hinfo]
        exact ⟨(stop_bind hending).1, (stop_bind hending).2.trans hevents⟩
      exact ⟨(stop_bind hread.1).1, (stop_bind hread.1).2.trans hread.2⟩
    | some info =>
      rw [hinfo] at hasks
      obtain ⟨window, hwindow, rfl⟩ := Option.map_eq_some_iff.1 hasks
      have hplan : info.plan start count = .ok window := by
        revert hwindow
        cases info.plan start count <;> simp [Except.toOption]
      have hstored := run_storageOrRead_of_known hinfo patience
      rw [Meter.readEntries, run_bind_of_returned (congrArg Outcome.ending hstored), hstored, hplan]
      exact stop_bind hstop
  | pollLive => cases hasks
  | pollStorage kind => cases hasks

/-- A blocking call whose first exchange fails softly for ever ends when the ceiling of the error
counter has been passed, with no more writes than the ceiling has it and one more. It does not end
if the ceiling is as high as the counter can count. -/
theorem run_unanswered (wire : ω) (config : Config) (operations : List (Nat × Operation))
    (call : Call) (asked : Request) :
    let meter := (perform (Meter.new wire config) operations).1
    call.asks? meter = some asked → FailsSoftly (Link.request asked) meter.link →
      (config.maxErrors ≠ 255 → ∀ patience, config.maxErrors.toNat < patience →
        let outcome := (call.act patience).run meter
        outcome.ending = .failed .unresponsive ∧
          outcome.events.countP Event.isWrite ≤ config.maxErrors.toNat + 1) ∧
      (config.maxErrors = 255 → ∀ patience,
        ((call.act patience).run meter).ending = .unfinished) := by
  intro meter hasks hfails
  have hceiling : meter.health.ceiling = config.maxErrors := ceiling_perform wire config operations
  refine ⟨fun hbelow patience hpatience => ?_, fun hfull patience => ?_⟩
  -- below the greatest ceiling the attempts are numbered, and each writes once at most
  · have hattempts := meter.health.attempts_le
    rw [hceiling] at hattempts
    obtain ⟨hending, hwrites⟩ := retry_gives_up (Link.request_written asked) hfails
      (hceiling ▸ hbelow) (Nat.le_trans hattempts hpatience)
    obtain ⟨hstop, hevents⟩ := Call.stop_act hasks (Ending.stop?_eq_failed_iff.2 hending)
    refine ⟨Ending.stop?_eq_failed_iff.1 hstop, ?_⟩
    calc
      ((call.act patience).run meter).events.countP Event.isWrite
        = meter.health.attempts * asked.writes := by rw [hevents]; exact hwrites
      _ ≤ meter.health.attempts * 1 := Nat.mul_le_mul_left _ asked.writes_le
      _ ≤ config.maxErrors.toNat + 1 := by rwa [Nat.mul_one]
  -- the counter stops at the greatest ceiling and never passes it
  · have hending := (retry_goes_on (Link.request_written asked) hfails
      (hceiling.trans hfull) patience).1
    have hstop := (Call.stop_act hasks (Ending.stop?_eq_unfinished_iff.2 hending)).1
    exact Ending.stop?_eq_unfinished_iff.1 hstop

/-- On a dead line, every exchange fails softly. -/
theorem failsSoftly_of_dead {mute : ω → Prop} (h : Link.Dead mute) {asked : Request} {sent : Frame}
    (hsent : asked.toFrame = .ok sent) {link : Link ω} (hidling : Link.Idling mute [] link []) :
    FailsSoftly (Link.request asked) link := by
  intro count
  induction count generalizing link with
  | zero => exact ⟨.timeout, (h.times_out hsent hidling).1, rfl⟩
  | succ count ih => exact ih (h.times_out hsent hidling).2

/-- A line that never answers lets every identification time out. -/
theorem failsSoftly_of_script (config : Config) :
    FailsSoftly (Link.request .readInformation) (Link.new ({} : ScriptedWire) config) :=
  failsSoftly_of_dead Link.dead_of_script rfl
    ⟨rfl, rfl, rfl, Frame.Parser.coherent_new .response⟩

/-- A silent line, and three errors are tolerated. -/
theorem run_unanswered_of_three :
    let meter := Meter.new ({} : ScriptedWire) { maxErrors := 3 }
    let outcome := (Call.identify.act 4).run meter
    FailsSoftly (Link.request .readInformation) meter.link ∧
      outcome.ending = .failed .unresponsive ∧ outcome.events.countP Event.isWrite ≤ 4 := by
  intro meter outcome
  have hfails := failsSoftly_of_script { maxErrors := 3 }
  exact ⟨hfails, (run_unanswered ({} : ScriptedWire) { maxErrors := 3 } []
    .identify .readInformation rfl hfails).1 (by decide) 4 (by decide)⟩

/-- The configuration is valid, and the line stays silent. Yet identifying the meter goes on for as
long as one has patience, with one write after the other. -/
theorem identify_goes_on :
    let config : Config := { maxErrors := 255 }
    let meter := Meter.new ({} : ScriptedWire) config
    config.validate = .ok () ∧ FailsSoftly (Link.request .readInformation) meter.link ∧
      ∀ patience, ((Call.identify.act patience).run meter).ending = .unfinished ∧
        ((Call.identify.act patience).run meter).events.countP Event.isWrite = patience := by
  intro config meter
  have hfails : FailsSoftly (Link.request .readInformation) meter.link :=
    failsSoftly_of_script config
  refine ⟨rfl, hfails, fun patience => ?_⟩
  obtain ⟨hending, hwrites⟩ := retry_goes_on (Link.request_written .readInformation) hfails rfl
    patience
  have hasks : Call.identify.asks? meter = some .readInformation := rfl
  obtain ⟨hstop, hevents⟩ := Call.stop_act hasks (Ending.stop?_eq_unfinished_iff.2 hending)
  refine ⟨Ending.stop?_eq_unfinished_iff.1 hstop, ?_⟩
  rw [hevents]
  exact hwrites.trans (Nat.mul_one patience)

end Meter

end Multimeter
