import Mathlib.Data.List.Forall2
import Multimeter.Proofs.Act
/-!
# Acts that see only a part of the state

A state may hold more than its acts ever look at. A view of the state leaves that out; an act sees
only the view if nothing of what it does, ends with and leaves in view depends on the rest.

* `Outcome.LooksLike view`: two outcomes differ at most in what the view of the state leaves out.
* `SeesOnly view act`: from states that look alike, the act comes to outcomes that look alike. There
  is one rule for each way to build an act.
* `runEach`: what each of some acts comes to that are done one after the other; from states that
  look alike, acts that see only the view come to the same (`SeesOnly.runEach`).
-/

namespace Multimeter

variable {σ τ α β ι : Type}

/-- The outcomes differ at most in what the view of the state leaves out. -/
structure Outcome.LooksLike (view : σ → σ) (outcome outcome' : Outcome σ α) : Prop where
  /-- The endings are the same. -/
  ending_eq : outcome.ending = outcome'.ending
  /-- The same events have happened. -/
  events_eq : outcome.events = outcome'.events
  /-- The states look alike. -/
  view_eq : view outcome.state = view outcome'.state

namespace Act

variable {view : σ → σ}

/-- From states that look alike, the act comes to outcomes that look alike. -/
def SeesOnly (view : σ → σ) (act : Act σ α) : Prop :=
  ∀ state state', view state = view state' →
    (act.run state).LooksLike view (act.run state')

/-- It is enough that the act does not see what the view leaves out of a single state. -/
theorem seesOnly_of_view {act : Act σ α}
    (h : ∀ state, (act.run (view state)).LooksLike view (act.run state)) : SeesOnly view act := by
  intro state state' hview
  have hleft := h state
  have hright := h state'
  rw [hview] at hleft
  exact ⟨hleft.ending_eq.symm.trans hright.ending_eq, hleft.events_eq.symm.trans hright.events_eq,
    hleft.view_eq.symm.trans hright.view_eq⟩

/-! ## Rules -/

/-- Returning a value looks at nothing. -/
theorem seesOnly_pure (value : α) : SeesOnly view (Pure.pure value : Act σ α) :=
  fun _ _ hview => ⟨rfl, rfl, hview⟩

/-- Failing looks at nothing. -/
theorem seesOnly_fail (error : SessionError) : SeesOnly view (fail error : Act σ α) :=
  fun _ _ hview => ⟨rfl, rfl, hview⟩

/-- Giving up looks at nothing. -/
theorem seesOnly_giveUp : SeesOnly view (giveUp : Act σ α) :=
  fun _ _ hview => ⟨rfl, rfl, hview⟩

/-- Reporting an event looks at nothing. -/
theorem seesOnly_report (event : Event) : SeesOnly view (report event) :=
  fun _ _ hview => ⟨rfl, rfl, hview⟩

/-- A log entry looks at nothing. -/
theorem seesOnly_log (entry : Log.Entry) : SeesOnly view (log entry) :=
  seesOnly_report (.logged entry)

/-- A result that was computed does not depend on the state. -/
theorem seesOnly_lift {ε : Type} (wrap : ε → SessionError) (result : Except ε α) :
    SeesOnly view (lift wrap result : Act σ α) := by
  cases result with
  | ok value => exact seesOnly_pure value
  | error error => exact seesOnly_fail (wrap error)

/-- A change sees only the view if it brings nothing into it. -/
theorem seesOnly_modify {change : σ → σ}
    (h : ∀ state, view (change (view state)) = view (change state)) :
    SeesOnly view (modify change) :=
  seesOnly_of_view fun state => ⟨rfl, rfl, h state⟩

/-- Acts one after the other see only the view if each of them does. -/
theorem SeesOnly.bind {first : Act σ α} {second : α → Act σ β} (hfirst : SeesOnly view first)
    (hsecond : ∀ value, SeesOnly view (second value)) : SeesOnly view (first >>= second) := by
  intro state state' hview
  obtain ⟨hending, hevents, hmid⟩ := hfirst state state' hview
  -- the two runs go on together or stop together
  cases hleft : (first.run state).ending with
  | returned value =>
    have hright := hending.symm.trans hleft
    have hlater := hsecond value _ _ hmid
    rw [run_bind_of_returned hleft, run_bind_of_returned hright]
    exact ⟨hlater.ending_eq, congrArg₂ (· ++ ·) hevents hlater.events_eq, hlater.view_eq⟩
  | failed error =>
    rw [run_bind_of_failed hleft, run_bind_of_failed (hending.symm.trans hleft)]
    exact ⟨rfl, hevents, hmid⟩
  | unfinished =>
    rw [run_bind_of_unfinished hleft, run_bind_of_unfinished (hending.symm.trans hleft)]
    exact ⟨rfl, hevents, hmid⟩

/-- What follows may know the state, but may take no more of it than is in view. -/
theorem seesOnly_get_bind {second : σ → Act σ β} (hsecond : ∀ state, SeesOnly view (second state))
    (h : ∀ state, second (view state) = second state) : SeesOnly view (get >>= second) := by
  intro state state' hview
  -- both runs go on with the same act, the one that the view of either state gives
  have hsame : second state' = second state := by rw [← h state', ← hview, h state]
  show ((second state).run state).LooksLike view ((second state').run state')
  rw [hsame]
  exact hsecond state state state' hview

/-- A function of the value of an act sees no more than the act. -/
theorem SeesOnly.map {act : Act σ α} (h : SeesOnly view act) (change : α → β) :
    SeesOnly view (change <$> act) := by
  rw [← bind_pure_comp]
  exact h.bind fun value => seesOnly_pure (change value)

/-- An act whose value is dropped sees no more than before. -/
theorem SeesOnly.discard {act : Act σ α} (h : SeesOnly view act) : SeesOnly view act.discard :=
  h.bind fun _ => seesOnly_pure ()

/-- An attempt sees no more than the act. -/
theorem SeesOnly.attempt {act : Act σ α} (h : SeesOnly view act) : SeesOnly view act.attempt := by
  intro state state' hview
  obtain ⟨hending, hevents, hstate⟩ := h state state' hview
  refine ⟨?_, hevents, hstate⟩
  simp only [Act.attempt, Act.run] at hending ⊢
  rw [hending]

/-- Acts for the elements of a list see only the view if each of them does. -/
theorem SeesOnly.forM {act : ι → Act σ Unit} (h : ∀ x, SeesOnly view (act x)) (xs : List ι) :
    SeesOnly view (xs.forM act) := by
  induction xs with
  | nil => exact seesOnly_pure ()
  | cons x xs ih => exact (h x).bind fun _ => ih

/-- An act on a part of the state sees only what is in view of that part. -/
theorem SeesOnly.within {part : τ → σ} {replace : σ → τ → τ} {whole : τ → τ} {act : Act σ α}
    (h : SeesOnly view act) (hpart : ∀ state, view (part (whole state)) = view (part state))
    (hwhole : ∀ state new new', view new = view new' →
      whole (replace new (whole state)) = whole (replace new' state)) :
    SeesOnly whole (within part replace act) := by
  refine seesOnly_of_view fun state => ?_
  have hsame := h (part (whole state)) (part state) (hpart state)
  exact ⟨hsame.ending_eq, hsame.events_eq, hwhole state _ _ hsame.view_eq⟩

/-! ## Runs -/

/-- Do acts one after the other, whatever became of the ones before, and tell what each came to. -/
def runEach (state : σ) : List (Act σ α) → List (Outcome σ α)
  | [] => []
  | act :: acts => act.run state :: runEach (act.run state).state acts

/-- Acts that see only the view come to the same from states that look alike. -/
theorem SeesOnly.runEach {acts : List (Act σ α)} (h : ∀ act ∈ acts, SeesOnly view act)
    {state state' : σ} (hview : view state = view state') :
    List.Forall₂ (Outcome.LooksLike view) (runEach state acts) (runEach state' acts) := by
  induction acts generalizing state state' with
  | nil => exact .nil
  | cons act acts ih =>
    -- whatever the first act came to, the others start from states that look alike again
    have hfirst := h act List.mem_cons_self state state' hview
    exact .cons hfirst (ih (fun act hact => h act (List.mem_cons_of_mem _ hact)) hfirst.view_eq)

/-- Acts that see only the view have the same history from states that look alike, and lead to
states that look alike. -/
theorem SeesOnly.runAll {acts : List (Act σ Unit)} (h : ∀ act ∈ acts, SeesOnly view act)
    {state state' : σ} (hview : view state = view state') :
    view (runAll state acts).1 = view (runAll state' acts).1 ∧
      (runAll state acts).2 = (runAll state' acts).2 := by
  induction acts generalizing state state' with
  | nil => exact ⟨hview, rfl⟩
  | cons act acts ih =>
    have hfirst := h act List.mem_cons_self state state' hview
    obtain ⟨hlast, hevents⟩ :=
      ih (fun act hact => h act (List.mem_cons_of_mem _ hact)) hfirst.view_eq
    exact ⟨hlast, congrArg₂ (· ++ ·) hfirst.events_eq hevents⟩

end Act

end Multimeter
