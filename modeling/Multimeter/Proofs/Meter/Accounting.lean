import Multimeter.Proofs.Link.Fragments
import Multimeter.Proofs.Meter.Retry
/-!
# What a blocking exchange counts

A blocking exchange is attempted until it succeeds, until it fails in a way that does not go away,
or until one failure more than are tolerated has been counted. How often that is, and where it
leaves the error counter, follows from the outcomes of the attempts and from the counter at the
start.

* `FailsFirst`: the first attempts at an act fail in a way that may go away.
* `Accounted`: what a number of attempts have done, and what the session has counted.
* `retry_after`: attempts that are tolerated, and the one that ends them.
* `Concludes`: the three ways in which an exchange comes out.
* `run_exchange`: a blocking exchange comes out in one of them, with the counter that belongs to it.
-/

namespace Multimeter

namespace Health

variable {health : Health}

/-- Every ceiling leaves at least one attempt. -/
theorem attempts_pos (health : Health) : 0 < health.attempts :=
  Nat.lt_of_lt_of_le Nat.zero_lt_one (Nat.le_max_left _ _)

/-- The failure behind which there is no attempt passes the ceiling. -/
theorem isExceeded_of_attempts (hceiling : health.ceiling ≠ 255) (h : health.attempts = 1) :
    health.recordError.isExceeded = true := by
  cases hexceeded : health.recordError.isExceeded with
  | true => rfl
  | false =>
    have hattempts := attempts_recordError hceiling hexceeded
    have hpos := health.recordError.attempts_pos
    omega

/-- A failure with more attempts behind it is tolerated and counted in full. -/
theorem tolerated_of_attempts (h : 1 < health.attempts) :
    health.recordError.isExceeded = false ∧
      health.recordError.errors.toNat = health.errors.toNat + 1 := by
  constructor
  · refine Bool.eq_false_iff.2 fun hexceeded => ?_
    rw [attempts_eq_one hexceeded] at h
    exact Nat.lt_irrefl 1 h
  · have hceiling := health.ceiling.toNat_lt
    rw [attempts] at h
    rw [errors_recordError]
    omega

end Health

/-- The requests of the exchanges that blocking operations make. -/
inductive Request.IsExchanged : Request → Prop
  /-- An exchange asks for the identification. -/
  | information : IsExchanged .readInformation
  /-- An exchange asks for the displays. -/
  | display : IsExchanged .readDisplay
  /-- An exchange asks for the block that tells how full the storages are. -/
  | survey : IsExchanged (.readMemory Storage.infoBlock)
  /-- An exchange asks for stored entries, as they are planned. -/
  | entries {info : Storage.Info} {start count : Nat} {window : Storage.Window}
    (h : info.plan start count = .ok window) : IsExchanged (.readMemory window.request)

/-- No plan asks for more than an answer carries, whatever the layout. -/
theorem Storage.Info.length_le_of_plan {info : Info} {start count : Nat} {window : Window}
    (h : info.plan start count = .ok window) : window.request.length.toNat ≤ maxPayload := by
  simp only [plan] at h
  split at h
  · cases h
  split at h
  · cases h
  split at h
  · cases h
  split at h
  · cases h
  obtain rfl := Except.ok.inj h
  refine Nat.le_trans (Nat.mod_le _ _) ?_
  refine Nat.le_trans (Nat.mul_le_mul_right _ ?_) (Nat.div_mul_le_self _ info.entrySize.toNat)
  exact Nat.le_trans (Nat.min_le_left _ _) (Nat.min_le_right _ _)

/-- All of them can be sent. -/
theorem Request.IsExchanged.exists_toFrame {asked : Request} (h : asked.IsExchanged) :
    ∃ sent, asked.toFrame = .ok sent := by
  cases h with
  | information | display => exact ⟨_, rfl⟩
  | survey => exact toFrame_of_length_le (by decide)
  | entries h => exact toFrame_of_length_le (Storage.Info.length_le_of_plan h)

/-- Log entries apart, the same is written. -/
theorem written_unlogged (history : List Event) : written (unlogged history) = written history := by
  induction history with
  | nil => rfl
  | cons event history ih =>
    cases event with
    | logged entry => exact ih
    | wrote _ bytes _ => exact congrArg (bytes :: ·) ih
    | read | paused | sank => exact ih

namespace Meter

open Act

variable {ω : Type} {α : Type} {act : Act (Link ω) α} {meter : Meter ω} {count patience : Nat}

/-- The first `count` attempts at the act fail in a way that may go away. -/
def FailsFirst (act : Act (Link ω) α) (link : Link ω) (count : Nat) : Prop :=
  ∀ index < count, ∃ error, (act.run (act.after index link)).ending = .failed error ∧
    error.isRetryable = true

/-- Behind the first failure there is one less to come. -/
theorem FailsFirst.next {link : Link ω} (h : FailsFirst act link (count + 1)) :
    FailsFirst act (act.run link).state count :=
  fun index hindex => h (index + 1) (Nat.succ_lt_succ hindex)

/-- `count` attempts at the act have been made, and nothing else has been done but logging. Of the
session, the link is where they have left it, and `errors` errors are counted. -/
structure Accounted (act : Act (Link ω) α) (meter : Meter ω) (count errors : Nat)
    (outcome : Outcome (Meter ω) α) : Prop where
  /-- Only the link and the counter have changed. -/
  state_eq : outcome.state =
    { meter with link := act.after count meter.link, health := outcome.state.health }
  /-- The ceiling of the counter has not changed. -/
  ceiling_eq : outcome.state.health.ceiling = meter.health.ceiling
  /-- The counter stands at the number of errors. -/
  errors_eq : outcome.state.health.errors.toNat = errors
  /-- What was done are the attempts, one after the other. -/
  unlogged_eq : unlogged outcome.events =
    (act.repeated count meter.link).flatMap fun attempt => unlogged attempt.events

/-! ## One attempt -/

/-- A success ends the exchange and takes an error back. -/
theorem retry_returned {value : α} (h : (act.run meter.link).ending = .returned value) :
    ((retry act (patience + 1)).run meter).ending = .returned value ∧
      Accounted act meter 1 (meter.health.errors.toNat - 1)
        ((retry act (patience + 1)).run meter) := by
  have hattempt : ((onLink act).attempt.run meter).ending = .returned (.ok value) :=
    attempt_of_returned h
  have hrun : (retry act (patience + 1)).run meter =
      { ending := .returned value
        state := { meter with
          link := (act.run meter.link).state
          health := meter.health.recordSuccess }
        events := (act.run meter.link).events } := by
    rw [retry, run_bind_of_returned hattempt]
    show Outcome.mk _ _ ((act.run meter.link).events ++ []) = _
    rw [List.append_nil]
    rfl
  rw [hrun]
  exact ⟨rfl, rfl, rfl, Health.errors_recordSuccess _, (List.append_nil _).symm⟩

/-- A failure that does not go away ends the exchange and is not counted. -/
theorem retry_failed {error : SessionError} (h : (act.run meter.link).ending = .failed error)
    (hhard : error.isRetryable = false) :
    ((retry act (patience + 1)).run meter).ending = .failed error ∧
      Accounted act meter 1 meter.health.errors.toNat ((retry act (patience + 1)).run meter) := by
  have hattempt : ((onLink act).attempt.run meter).ending = .returned (.error error) :=
    attempt_of_failed h
  have hrun : (retry act (patience + 1)).run meter =
      { ending := .failed error
        state := { meter with link := (act.run meter.link).state }
        events := (act.run meter.link).events } := by
    rw [retry, run_bind_of_returned hattempt]
    simp only [hhard, Bool.false_eq_true, ↓reduceIte, run_fail, List.append_nil]
    rfl
  rw [hrun]
  exact ⟨rfl, rfl, rfl, rfl, (List.append_nil _).symm⟩

/-- A failure that is not tolerated any more ends the exchange. -/
theorem retry_exceeded {error : SessionError} (h : (act.run meter.link).ending = .failed error)
    (hsoft : error.isRetryable = true)
    (hexceeded : (meter.failed (act.run meter.link).state).health.isExceeded = true) :
    ((retry act (patience + 1)).run meter).ending = .failed .unresponsive ∧
      Accounted act meter 1 (min (meter.health.errors.toNat + 1) 255)
        ((retry act (patience + 1)).run meter) := by
  rw [run_retry_exceeded h hsoft patience hexceeded]
  refine ⟨rfl, rfl, rfl, Health.errors_recordError _, ?_⟩
  rw [unlogged_append]
  rfl

/-- A failure that is tolerated is one of the attempts. -/
theorem Accounted.of_tolerated {error : SessionError} {errors : Nat}
    (hending : (act.run meter.link).ending = .failed error) (hsoft : error.isRetryable = true)
    (hexceeded : (meter.failed (act.run meter.link).state).health.isExceeded = false)
    (h : Accounted act (meter.failed (act.run meter.link).state) count errors
      ((retry act patience).run (meter.failed (act.run meter.link).state))) :
    Accounted act meter (count + 1) errors ((retry act (patience + 1)).run meter) := by
  rw [run_retry_tolerated hending hsoft patience hexceeded]
  refine ⟨h.state_eq, h.ceiling_eq, h.errors_eq, ?_⟩
  rw [unlogged_append, repeated, List.flatMap_cons]
  exact congrArg (unlogged (act.run meter.link).events ++ ·) h.unlogged_eq

/-! ## All attempts -/

/-- The session is where `count` failures have left it that were all tolerated. -/
structure Tolerated (act : Act (Link ω) α) (meter : Meter ω) (count : Nat) (next : Meter ω) :
    Prop where
  /-- The link is where the attempts have left it. -/
  link_eq : next.link = act.after count meter.link
  /-- The ceiling of the counter has not changed. -/
  ceiling_eq : next.health.ceiling = meter.health.ceiling
  /-- Each failure was counted. -/
  errors_eq : next.health.errors.toNat = meter.health.errors.toNat + count
  /-- Each of them was one that may still happen. -/
  attempts_eq : next.health.attempts + count = meter.health.attempts

/-- As long as failures are tolerated, the exchange ends as the attempt behind them makes it end. -/
theorem retry_after {ending : Ending α} {errors : Nat} (hceiling : meter.health.ceiling ≠ 255)
    (hfails : FailsFirst act meter.link count) (hcount : count < meter.health.attempts)
    (hpatience : count < patience)
    (hlast : ∀ next patience, Tolerated act meter count next →
      ((retry act (patience + 1)).run next).ending = ending ∧
        Accounted act next 1 errors ((retry act (patience + 1)).run next)) :
    ((retry act patience).run meter).ending = ending ∧
      Accounted act meter (count + 1) errors ((retry act patience).run meter) := by
  -- each failure uses up one of the attempts, and the rest of the exchange starts behind it
  induction count generalizing meter patience with
  | zero =>
    obtain ⟨patience, rfl⟩ := Nat.exists_eq_add_one.2 hpatience
    exact hlast meter patience ⟨rfl, rfl, rfl, rfl⟩
  | succ count ih =>
    obtain ⟨patience, rfl⟩ := Nat.exists_eq_add_one.2 (Nat.zero_lt_of_lt hpatience)
    obtain ⟨error, hending, hsoft⟩ := hfails 0 (Nat.succ_pos count)
    obtain ⟨hexceeded, herrors⟩ :
        (meter.failed (act.run meter.link).state).health.isExceeded = false ∧
          (meter.failed (act.run meter.link).state).health.errors.toNat =
            meter.health.errors.toNat + 1 := Health.tolerated_of_attempts (by omega)
    have hattempts : (meter.failed (act.run meter.link).state).health.attempts + 1 =
        meter.health.attempts := Health.attempts_recordError hceiling hexceeded
    have hlater := @ih (meter.failed (act.run meter.link).state) patience hceiling hfails.next
      (by omega) (by omega) fun next patience h => hlast next patience ?_
    · refine ⟨?_, hlater.2.of_tolerated hending hsoft hexceeded⟩
      rw [run_retry_tolerated hending hsoft patience hexceeded]
      exact hlater.1
    · refine ⟨h.link_eq, h.ceiling_eq, ?_, ?_⟩
      · rw [h.errors_eq, herrors]
        omega
      · have hleft := h.attempts_eq
        omega

/-- Of as many failures as there are attempts, all but the last are tolerated, and that one ends the
exchange. -/
theorem retry_exhausted (hceiling : meter.health.ceiling ≠ 255)
    (hfails : FailsFirst act meter.link meter.health.attempts)
    (hpatience : meter.health.attempts ≤ patience) :
    ((retry act patience).run meter).ending = .failed .unresponsive ∧
      Accounted act meter meter.health.attempts
        (min (meter.health.errors.toNat + meter.health.attempts) 255)
        ((retry act patience).run meter) := by
  obtain ⟨count, hcount⟩ := Nat.exists_eq_add_one.2 meter.health.attempts_pos
  rw [hcount] at hfails hpatience ⊢
  obtain ⟨error, hending, hsoft⟩ := hfails count (Nat.lt_succ_self count)
  refine retry_after hceiling (fun index hindex => hfails index (Nat.lt_succ_of_lt hindex))
    (by omega) hpatience fun next patience h => ?_
  -- the failures before this one have used up all other attempts
  have hlast : (act.run next.link).ending = .failed error := h.link_eq ▸ hending
  have hexceeded : next.health.recordError.isExceeded = true := by
    refine Health.isExceeded_of_attempts (h.ceiling_eq ▸ hceiling) ?_
    have hleft := h.attempts_eq
    omega
  rw [← Nat.add_assoc, ← h.errors_eq]
  exact retry_exceeded hlast hsoft hexceeded

/-! ## Whole exchanges -/

/-- How an exchange with `budget` attempts comes out that starts with `errors` errors counted: the
number of attempts, how they make it end, and how many errors are counted then. -/
inductive Concludes (act : Act (Link ω) α) (link : Link ω) (budget errors : Nat) :
    Nat → Ending α → Nat → Prop
  /-- Behind some failures, an attempt succeeds, which takes one error back. -/
  | answered {earlier : Nat} {value : α} (hfails : FailsFirst act link earlier)
    (hbudget : earlier < budget)
    (hlast : (act.run (act.after earlier link)).ending = .returned value) :
    Concludes act link budget errors (earlier + 1) (.returned value) (errors + earlier - 1)
  /-- Behind some failures, an attempt fails in a way that does not go away, which is
  not counted. -/
  | refused {earlier : Nat} {error : SessionError} (hfails : FailsFirst act link earlier)
    (hbudget : earlier < budget)
    (hlast : (act.run (act.after earlier link)).ending = .failed error)
    (hhard : error.isRetryable = false) :
    Concludes act link budget errors (earlier + 1) (.failed error) (errors + earlier)
  /-- All attempts fail, and all failures are counted as far as the counter goes. -/
  | exhausted (hfails : FailsFirst act link budget) :
    Concludes act link budget errors budget (.failed .unresponsive) (min (errors + budget) 255)

/-- As long as each attempt comes to an end, so does the exchange. -/
theorem exists_concludes (hact : Finishes act) (link : Link ω) (budget errors : Nat) :
    ∃ count ending counted, Concludes act link budget errors count ending counted := by
  -- either the first attempts have failed, or one of them has ended the exchange
  have hfirst (tried : Nat) (htried : tried ≤ budget) : FailsFirst act link tried ∨
      ∃ count ending counted, Concludes act link budget errors count ending counted := by
    induction tried with
    | zero => exact .inl nofun
    | succ tried ih =>
      obtain hfails | hended := ih (Nat.le_of_succ_le htried)
      case inr => exact .inr hended
      cases hlast : (act.run (act.after tried link)).ending with
      | unfinished => exact absurd hlast (hact _)
      | returned value => exact .inr ⟨_, _, _, .answered hfails htried hlast⟩
      | failed error =>
        cases hsoft : error.isRetryable with
        | false => exact .inr ⟨_, _, _, .refused hfails htried hlast hsoft⟩
        | true =>
          refine .inl fun index hindex => ?_
          obtain hearlier | rfl := Nat.lt_succ_iff_lt_or_eq.1 hindex
          · exact hfails index hearlier
          · exact ⟨error, hlast, hsoft⟩
  obtain hfails | hended := hfirst budget (Nat.le_refl budget)
  · exact ⟨_, _, _, .exhausted hfails⟩
  · exact hended

/-- Trying again comes out as the outcomes of the attempts have it. -/
theorem retry_concludes {ending : Ending α} {counted : Nat} (hceiling : meter.health.ceiling ≠ 255)
    (hpatience : meter.health.attempts ≤ patience)
    (h : Concludes act meter.link meter.health.attempts meter.health.errors.toNat count ending
      counted) :
    ((retry act patience).run meter).ending = ending ∧
      Accounted act meter count counted ((retry act patience).run meter) := by
  cases h with
  | answered hfails hbudget hlast =>
    refine retry_after hceiling hfails hbudget (Nat.lt_of_lt_of_le hbudget hpatience)
      fun next patience htolerated => ?_
    rw [← htolerated.errors_eq]
    exact retry_returned (htolerated.link_eq ▸ hlast)
  | refused hfails hbudget hlast hhard =>
    refine retry_after hceiling hfails hbudget (Nat.lt_of_lt_of_le hbudget hpatience)
      fun next patience htolerated => ?_
    rw [← htolerated.errors_eq]
    exact retry_failed (htolerated.link_eq ▸ hlast) hhard
  | exhausted hfails => exact retry_exhausted hceiling hfails hpatience

variable [Wire ω]

/-- Each attempt at an exchange writes the frame of its request. -/
theorem Accounted.written_eq {asked : Request} {sent : Frame} {errors : Nat}
    {outcome : Outcome (Meter ω) Response} (hsent : asked.toFrame = .ok sent)
    (h : Accounted (Link.request asked) meter count errors outcome) :
    written outcome.events = List.replicate count sent.encode := by
  rw [← written_unlogged, h.unlogged_eq]
  clear h
  generalize meter.link = link
  induction count generalizing link with
  | zero => rfl
  | succ count ih =>
    rw [repeated, List.flatMap_cons, written_append, written_unlogged, Link.written_request, hsent,
      ih, List.replicate_succ]
    rfl

/-- The first success, or the first failure that does not go away, ends a blocking exchange if there
is still an attempt for it; otherwise the exchange ends when one failure more than are tolerated has
been counted. One of the three happens. Each attempt before the end counts one error, a success
takes one back, and a failure that does not go away counts none. Nothing but the attempts is done,
each of which writes the frame of the request, and every request that is exchanged has one. -/
theorem run_exchange (meter : Meter ω) (asked : Request) (patience : Nat) :
    let ceiling := meter.health.ceiling.toNat
    let errors := meter.health.errors.toNat
    let budget := max 1 (ceiling + 1 - errors)
    let attempt := Link.request asked
    let outcome := (exchange patience asked).run meter
    ceiling ≤ 254 → budget ≤ patience →
      (∃ count ending counted, Concludes attempt meter.link budget errors count ending counted) ∧
      (∀ count ending counted, Concludes attempt meter.link budget errors count ending counted →
        outcome.ending = ending ∧ Accounted attempt meter count counted outcome ∧
          ∀ sent, asked.toFrame = .ok sent →
            written outcome.events = List.replicate count sent.encode) ∧
      (asked.IsExchanged → ∃ sent, asked.toFrame = .ok sent) := by
  intro ceiling errors budget attempt outcome hceiling hpatience
  -- the counter reaches 255, so that a ceiling below can be passed
  have hbelow : meter.health.ceiling ≠ 255 := by
    intro hfull
    have hle : meter.health.ceiling.toNat ≤ 254 := hceiling
    rw [hfull] at hle
    exact absurd hle (by decide)
  refine ⟨exists_concludes (Link.finishes_request asked) meter.link budget errors, ?_,
    Request.IsExchanged.exists_toFrame⟩
  intro count ending counted hconcludes
  obtain ⟨hending, hcounted⟩ := retry_concludes hbelow hpatience hconcludes
  exact ⟨hending, hcounted, fun sent hsent => hcounted.written_eq hsent⟩

/-- Two errors are counted, and four are tolerated: behind silence and a refusal, the third attempt
is answered, and there would have been no fourth. -/
theorem run_exchange_of_third :
    let answer : Response := .batteryLife #v[1, 2, 3, 4]
    let wire : ScriptedWire :=
      { replies := [[], [.bytes (Response.failure 3).frame.encode], [.bytes answer.frame.encode]] }
    let meter := { Meter.new wire {} with health := { errors := 2, ceiling := 4 } }
    let outcome := (exchange 3 .readBatteryLife).run meter
    Concludes (Link.request .readBatteryLife) meter.link 3 2 3 (.returned answer) 3 ∧
      outcome.ending = .returned answer ∧ outcome.state.health.errors.toNat = 3 ∧
      written outcome.events = List.replicate 3 (Frame.empty .readBatteryLife).encode := by
  intro answer wire meter outcome
  have hfails : FailsFirst (Link.request .readBatteryLife) meter.link 2 := by
    intro index hindex
    obtain rfl | rfl : index = 0 ∨ index = 1 := by omega
    · exact ⟨.timeout, by decide +kernel, rfl⟩
    · exact ⟨.deviceFailure 3, by decide +kernel, rfl⟩
  have hconcludes :
      Concludes (Link.request .readBatteryLife) meter.link 3 2 3 (.returned answer) 3 :=
    .answered hfails (by decide) (by decide +kernel)
  obtain ⟨hending, hcounted, hwritten⟩ :=
    (run_exchange meter .readBatteryLife 3 (by decide) (by decide)).2.1 3 _ 3 hconcludes
  exact ⟨hconcludes, hending, hcounted.errors_eq, hwritten _ rfl⟩

end Meter

end Multimeter
