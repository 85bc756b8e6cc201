import Multimeter.Act
/-!
# Reasoning about acts

A specification of an act relates the state and the history before it, that is all events so far, to
its ending, the state that it leaves and the history after it. An act may end in three ways, and its
state and its events stay whichever it is; so a specification speaks of every ending.

* `Ensures pre act post`: from every state and history with `pre`, `act` ends with `post`. There is
  one rule for each way to build an act.
* `Promises inv promise`: `inv` holds however an act ends, and `promise` holds of a value.
* `Returns value inv`: the act ends with `value`, and `inv` holds.
* `Keeps inv act`: `act` keeps `inv`, however it ends.
* `Finishes act`: `act` never loses patience.
* `runAll`: acts done one after the other, whatever became of the ones before, as the caller of a
  session does them; what each act keeps, the whole run keeps (`Keeps.runAll`).
-/

namespace Multimeter.Act

variable {σ α β : Type} {pre pre' : σ → List Event → Prop}
  {post post' : Ending α → σ → List Event → Prop} {inv : σ → List Event → Prop}

/-- From every state and history with `pre`, `act` ends with `post`. -/
def Ensures (pre : σ → List Event → Prop) (act : Act σ α)
    (post : Ending α → σ → List Event → Prop) : Prop :=
  ∀ state history, pre state history →
    post (act.run state).ending (act.run state).state (history ++ (act.run state).events)

/-- However it ends, `act` keeps `inv`. -/
def Keeps (inv : σ → List Event → Prop) (act : Act σ α) : Prop :=
  Ensures inv act fun _ => inv

/-! ## Rules -/

/-- A specification may ask for more and promise less. -/
theorem Ensures.weaken {act : Act σ α} (h : Ensures pre act post)
    (hpre : ∀ state history, pre' state history → pre state history)
    (hpost : ∀ ending state history, post ending state history → post' ending state history) :
    Ensures pre' act post' :=
  fun state history hstate => hpost _ _ _ (h state history (hpre state history hstate))

/-- More may be known of the state before than is asked for. -/
theorem Ensures.of_left {also : σ → List Event → Prop} {act : Act σ α} (h : Ensures pre act post) :
    Ensures (fun state history => pre state history ∧ also state history) act post :=
  fun state history hstate => h state history hstate.1

/-- What is known besides the pre-condition may be dropped. -/
theorem Ensures.of_right {also : σ → List Event → Prop} {act : Act σ α} (h : Ensures pre act post) :
    Ensures (fun state history => also state history ∧ pre state history) act post :=
  fun state history hstate => h state history hstate.2

/-- What two specifications promise is promised together. -/
theorem Ensures.and {act : Act σ α} (h : Ensures pre act post) (h' : Ensures pre' act post') :
    Ensures (fun state history => pre state history ∧ pre' state history) act
      fun ending state history => post ending state history ∧ post' ending state history :=
  fun state history hstate => ⟨h state history hstate.1, h' state history hstate.2⟩

/-- What is known to exist may be used throughout. -/
theorem Ensures.of_exists {ι : Type} {pre : ι → σ → List Event → Prop} {act : Act σ α}
    (h : ∀ i, Ensures (pre i) act post) :
    Ensures (fun state history => ∃ i, pre i state history) act post :=
  fun state history ⟨i, hstate⟩ => h i state history hstate

/-- What does not depend on the state may be used throughout. -/
theorem Ensures.of_imp {p : Prop} {act : Act σ α} (h : p → Ensures pre act post) :
    Ensures (fun state history => p ∧ pre state history) act post :=
  fun state history hstate => h hstate.1 state history hstate.2

/-- A value that is returned meets the post-condition where the state stands. -/
theorem ensures_pure {value : α}
    (h : ∀ state history, pre state history → post (.returned value) state history) :
    Ensures pre (Pure.pure value : Act σ α) post := by
  intro state history hstate
  rw [run_pure, List.append_nil]
  exact h state history hstate

/-- An error meets the post-condition where the state stands. -/
theorem ensures_fail {error : SessionError}
    (h : ∀ state history, pre state history → post (.failed error) state history) :
    Ensures pre (fail error : Act σ α) post := by
  intro state history hstate
  rw [run_fail, List.append_nil]
  exact h state history hstate

/-- Giving up meets the post-condition where the state stands. -/
theorem ensures_giveUp
    (h : ∀ state history, pre state history → post .unfinished state history) :
    Ensures pre (giveUp : Act σ α) post := by
  intro state history hstate
  rw [run_giveUp, List.append_nil]
  exact h state history hstate

/-- The value that a look at the state returns is the state itself. -/
theorem ensures_get {post : Ending σ → σ → List Event → Prop}
    (h : ∀ state history, pre state history → post (.returned state) state history) :
    Ensures pre (get : Act σ σ) post := by
  intro state history hstate
  rw [run_get, List.append_nil]
  exact h state history hstate

/-- The post-condition of a change holds of the changed state. -/
theorem ensures_modify {change : σ → σ} {post : Ending Unit → σ → List Event → Prop}
    (h : ∀ state history, pre state history → post (.returned ()) (change state) history) :
    Ensures pre (modify change) post := by
  intro state history hstate
  rw [run_modify, List.append_nil]
  exact h state history hstate

/-- The post-condition of a report holds of the history with the event behind it. -/
theorem ensures_report {event : Event} {post : Ending Unit → σ → List Event → Prop}
    (h : ∀ state history, pre state history → post (.returned ()) state (history ++ [event])) :
    Ensures pre (report event) post := by
  intro state history hstate
  rw [run_report]
  exact h state history hstate

/-- Two acts in a row: the second starts from a value of the first, and only from a value. -/
theorem Ensures.bind {first : Act σ α} {second : α → Act σ β}
    {mid : Ending α → σ → List Event → Prop} {post : Ending β → σ → List Event → Prop}
    (hfirst : Ensures pre first mid)
    (hsecond : ∀ value, Ensures (mid (.returned value)) (second value) post)
    (hfailed : ∀ error state history,
      mid (.failed error) state history → post (.failed error) state history)
    (hunfinished : ∀ state history,
      mid .unfinished state history → post .unfinished state history) :
    Ensures pre (first >>= second) post := by
  intro state history hstate
  have hmid := hfirst state history hstate
  -- what the second act does with a value is all that is new; the other endings are passed on
  cases hending : (first.run state).ending with
  | returned value =>
    rw [hending] at hmid
    have hpost := hsecond value _ _ hmid
    rw [run_bind_of_returned hending]
    -- the events of the second act come behind those of the first
    rwa [List.append_assoc] at hpost
  | failed error =>
    rw [hending] at hmid
    rw [run_bind_of_failed hending]
    exact hfailed error _ _ hmid
  | unfinished =>
    rw [hending] at hmid
    rw [run_bind_of_unfinished hending]
    exact hunfinished _ _ hmid

/-- What follows knows the state. -/
theorem ensures_get_bind {second : σ → Act σ β} {post : Ending β → σ → List Event → Prop}
    (h : ∀ state, Ensures (fun state' history => pre state' history ∧ state' = state)
      (second state) post) :
    Ensures pre (get >>= second) post := by
  intro state history hstate
  rw [run_get_bind]
  exact h state state history ⟨hstate, rfl⟩

/-- What follows starts from the changed state. -/
theorem ensures_modify_bind {change : σ → σ} {second : Act σ β}
    {post : Ending β → σ → List Event → Prop} (h : Ensures pre' second post)
    (hpre : ∀ state history, pre state history → pre' (change state) history) :
    Ensures pre (modify change >>= fun _ => second) post := by
  intro state history hstate
  have hmodify : ((modify change).run state).ending = .returned () := rfl
  rw [run_bind_of_returned hmodify]
  exact h _ _ (hpre state history hstate)

/-- What follows a computation without effects starts from its value, or there is its error. -/
theorem ensures_lift_bind {ε : Type} {wrap : ε → SessionError} {result : Except ε α}
    {second : α → Act σ β} {post : Ending β → σ → List Event → Prop}
    (hok : ∀ value, result = .ok value → Ensures pre (second value) post)
    (herror : ∀ error state history, result = .error error → pre state history →
      post (.failed (wrap error)) state history) :
    Ensures pre (lift wrap result >>= second) post := by
  -- both ways to go on were given, so no act is left to run
  cases result with
  | ok value => exact hok value rfl
  | error error => exact ensures_fail fun state history => herror error state history rfl

/-- An attempt at an act that returns a value returns that value. -/
theorem attempt_of_returned {act : Act σ α} {state : σ} {value : α}
    (h : (act.run state).ending = .returned value) :
    (act.attempt.run state).ending = .returned (.ok value) := by
  simp only [attempt, run] at h ⊢
  rw [h]

/-- An attempt at an act that fails returns the error. -/
theorem attempt_of_failed {act : Act σ α} {state : σ} {error : SessionError}
    (h : (act.run state).ending = .failed error) :
    (act.attempt.run state).ending = .returned (.error error) := by
  simp only [attempt, run] at h ⊢
  rw [h]

/-- An attempt at an act that never ends does not end, either. -/
theorem attempt_of_unfinished {act : Act σ α} {state : σ}
    (h : (act.run state).ending = .unfinished) :
    (act.attempt.run state).ending = .unfinished := by
  simp only [attempt, run] at h ⊢
  rw [h]

/-- An attempt takes an error as a value. -/
theorem Ensures.attempt {act : Act σ α} {mid : Ending α → σ → List Event → Prop}
    {post : Ending (Except SessionError α) → σ → List Event → Prop} (h : Ensures pre act mid)
    (hreturned : ∀ value state history,
      mid (.returned value) state history → post (.returned (.ok value)) state history)
    (hfailed : ∀ error state history,
      mid (.failed error) state history → post (.returned (.error error)) state history)
    (hunfinished : ∀ state history,
      mid .unfinished state history → post .unfinished state history) :
    Ensures pre act.attempt post := by
  intro state history hstate
  have hmid := h state history hstate
  -- an attempt turns two of the endings into values and passes the third on
  cases hending : (act.run state).ending with
  | returned value =>
    rw [hending] at hmid
    rw [attempt_of_returned hending]
    exact hreturned value _ _ hmid
  | failed error =>
    rw [hending] at hmid
    rw [attempt_of_failed hending]
    exact hfailed error _ _ hmid
  | unfinished =>
    rw [hending] at hmid
    rw [attempt_of_unfinished hending]
    exact hunfinished _ _ hmid

/-! ## Promises -/

/-- However the act ends, `inv` holds; if it ends with a value, so does the promise on the value. -/
def Promises (inv : σ → List Event → Prop) (promise : α → σ → List Event → Prop)
    (ending : Ending α) (state : σ) (history : List Event) : Prop :=
  inv state history ∧ ∀ value, ending = .returned value → promise value state history

section Promises

variable {mid : σ → List Event → Prop} {promise : α → σ → List Event → Prop}
  {promise' : β → σ → List Event → Prop}

/-- A value that is passed on keeps its promise. -/
theorem promises_pure {value : α}
    (h : ∀ state history, pre state history → inv state history ∧ promise value state history) :
    Ensures pre (Pure.pure value : Act σ α) (Promises inv promise) := by
  refine ensures_pure fun state history hstate => ⟨(h state history hstate).1, fun value' heq => ?_⟩
  obtain rfl : value = value' := Ending.returned.inj heq
  exact (h state history hstate).2

/-- A change that is followed by a value keeps what the changed state keeps, and the value has its
promise there. -/
theorem promises_modify_pure {change : σ → σ} {value : α}
    (h : ∀ state history, pre state history →
      inv (change state) history ∧ promise value (change state) history) :
    Ensures pre (modify change >>= fun _ => Pure.pure value : Act σ α) (Promises inv promise) :=
  have hpure : Ensures (fun state history => inv state history ∧ promise value state history)
      (Pure.pure value : Act σ α) (Promises inv promise) := promises_pure fun _ _ h => h
  ensures_modify_bind hpure h

/-- An act that fails has nothing to promise. -/
theorem promises_fail {error : SessionError}
    (h : ∀ state history, pre state history → inv state history) :
    Ensures pre (fail error : Act σ α) (Promises inv promise) :=
  ensures_fail fun state history hstate => ⟨h state history hstate, nofun⟩

/-- An act that gives up has nothing to promise. -/
theorem promises_giveUp (h : ∀ state history, pre state history → inv state history) :
    Ensures pre (giveUp : Act σ α) (Promises inv promise) :=
  ensures_giveUp fun state history hstate => ⟨h state history hstate, nofun⟩

/-- Two acts in a row: the second may rely on the promise of the first. -/
theorem Ensures.promises_bind {first : Act σ α} {second : α → Act σ β}
    (hfirst : Ensures pre first (Promises mid promise))
    (hsecond : ∀ value,
      Ensures (fun state history => mid state history ∧ promise value state history)
        (second value) (Promises inv promise'))
    (hmid : ∀ state history, mid state history → inv state history) :
    Ensures pre (first >>= second) (Promises inv promise') := by
  -- an ending without a value promises nothing but the invariant
  refine Ensures.bind hfirst (fun value => ?_)
    (fun _ state history h => ⟨hmid state history h.1, nofun⟩)
    fun state history h => ⟨hmid state history h.1, nofun⟩
  exact (hsecond value).weaken (fun state history h => ⟨h.1, h.2 value rfl⟩) fun _ _ _ h => h

/-- Two acts in a row: the first keeps what the second starts from. -/
theorem Keeps.promises_bind {first : Act σ α} {second : α → Act σ β} (hfirst : Keeps mid first)
    (hsecond : ∀ value, Ensures mid (second value) (Promises inv promise'))
    (hmid : ∀ state history, mid state history → inv state history) :
    Ensures mid (first >>= second) (Promises inv promise') :=
  Ensures.bind hfirst hsecond (fun _ state history h => ⟨hmid state history h, nofun⟩)
    fun state history h => ⟨hmid state history h, nofun⟩

/-- What an attempt brings has the promise of the act if it is a value. -/
theorem Ensures.promises_attempt {act : Act σ α} (h : Ensures pre act (Promises inv promise)) :
    Ensures pre act.attempt (Promises inv fun result state history =>
      ∀ value, result = .ok value → promise value state history) := by
  refine h.attempt (fun value state history hpost => ⟨hpost.1, ?_⟩)
    (fun _ _ _ hpost => ⟨hpost.1, ?_⟩) fun _ _ hpost => ⟨hpost.1, nofun⟩
  -- a value keeps its promise, and an error makes none
  · intro result heq value' hvalue
    obtain rfl : Except.ok value = result := Ending.returned.inj heq
    obtain rfl : value = value' := Except.ok.inj hvalue
    exact hpost.2 value rfl
  · intro result heq value' hvalue
    obtain rfl := Ending.returned.inj heq
    cases hvalue

end Promises

/-! ## Acts with a known value -/

/-- The act ends with `value`, and `inv` holds. -/
def Returns (value : α) (inv : σ → List Event → Prop) (ending : Ending α) (state : σ)
    (history : List Event) : Prop :=
  ending = .returned value ∧ inv state history

/-- Behind an act whose value is known, the rest starts with that value. -/
theorem Ensures.returns_bind {first : Act σ α} {second : α → Act σ β} {value : α}
    {mid : σ → List Event → Prop} {post : Ending β → σ → List Event → Prop}
    (hfirst : Ensures pre first (Returns value mid)) (hsecond : Ensures mid (second value) post) :
    Ensures pre (first >>= second) post := by
  -- the first act ends with `value` and in no other way
  refine Ensures.bind hfirst (fun value' => ?_) (fun _ _ _ h => nomatch h.1)
    fun _ _ h => nomatch h.1
  intro state history ⟨heq, hstate⟩
  obtain rfl : value' = value := Ending.returned.inj heq
  exact hsecond state history hstate

/-- The value of an act that does nothing is known. -/
theorem returns_pure {value : α} (h : ∀ state history, pre state history → inv state history) :
    Ensures pre (Pure.pure value : Act σ α) (Returns value inv) :=
  ensures_pure fun state history hstate => ⟨rfl, h state history hstate⟩

/-- A log entry returns nothing and keeps what the entry does not disturb. -/
theorem returns_log {entry : Log.Entry}
    (h : ∀ state history, inv state history → inv state (history ++ [.logged entry])) :
    Ensures inv (log entry) (Returns () inv) :=
  ensures_report fun state history hstate => ⟨rfl, h state history hstate⟩

/-- Doing an act for each element of a list takes what holds of the elements done so far on to all
elements. -/
theorem returns_forM {ι : Type} {act : ι → Act σ Unit} {inv : List ι → σ → List Event → Prop}
    (h : ∀ before x, Ensures (inv before) (act x) (Returns () (inv (before ++ [x]))))
    (before xs : List ι) :
    Ensures (inv before) (xs.forM act) (Returns () (inv (before ++ xs))) := by
  -- the list done so far grows from the front, so it is kept general
  induction xs generalizing before with
  | nil =>
    rw [List.append_nil]
    exact returns_pure fun _ _ hstate => hstate
  | cons x xs ih =>
    have hrest := ih (before ++ [x])
    rw [List.append_assoc, List.singleton_append] at hrest
    show Ensures _ (act x >>= fun _ => xs.forM act) _
    exact (h before x).returns_bind hrest

/-! ## Invariants -/

/-- Returning a value keeps every invariant. -/
theorem keeps_pure (value : α) : Keeps inv (Pure.pure value : Act σ α) :=
  ensures_pure fun _ _ h => h

/-- Failing keeps every invariant. -/
theorem keeps_fail (error : SessionError) : Keeps inv (fail error : Act σ α) :=
  ensures_fail fun _ _ h => h

/-- Looking at the state keeps every invariant. -/
theorem keeps_get : Keeps inv (get : Act σ σ) :=
  ensures_get fun _ _ h => h

/-- A result that was computed keeps every invariant, whether it is a value or an error. -/
theorem keeps_lift {ε : Type} (wrap : ε → SessionError) (result : Except ε α) :
    Keeps inv (lift wrap result : Act σ α) := by
  cases result with
  | ok value => exact keeps_pure value
  | error error => exact keeps_fail (wrap error)

/-- Acts one after the other keep what each of them keeps. -/
theorem Keeps.bind {first : Act σ α} {second : α → Act σ β} (hfirst : Keeps inv first)
    (hsecond : ∀ value, Keeps inv (second value)) : Keeps inv (first >>= second) :=
  Ensures.bind hfirst hsecond (fun _ _ _ h => h) fun _ _ h => h

/-- An act that keeps an invariant keeps it together with what its value promises. -/
theorem Keeps.promises {mid mid' : σ → List Event → Prop} {promise : α → σ → List Event → Prop}
    {act : Act σ α} (hkeeps : Keeps inv act) (h : Ensures mid act (Promises mid' promise))
    (hpre : ∀ state history, inv state history → mid state history) :
    Ensures inv act (Promises inv promise) :=
  fun state history hstate => ⟨hkeeps state history hstate, (h _ _ (hpre _ _ hstate)).2⟩

/-- An attempt keeps what the act keeps. -/
theorem Keeps.attempt {act : Act σ α} (h : Keeps inv act) : Keeps inv act.attempt :=
  Ensures.attempt h (fun _ _ _ h => h) (fun _ _ _ h => h) fun _ _ h => h

/-! ## Acts that come to an end -/

/-- The act never loses patience. -/
def Finishes (act : Act σ α) : Prop := ∀ state, (act.run state).ending ≠ .unfinished

/-- Returning a value comes to an end. -/
theorem finishes_pure (value : α) : Finishes (Pure.pure value : Act σ α) := fun _ => nofun

/-- Failing comes to an end. -/
theorem finishes_fail (error : SessionError) : Finishes (fail error : Act σ α) := fun _ => nofun

/-- A result that was computed comes to an end. -/
theorem finishes_lift {ε : Type} (wrap : ε → SessionError) (result : Except ε α) :
    Finishes (lift wrap result : Act σ α) := by
  cases result with
  | ok value => exact finishes_pure value
  | error error => exact finishes_fail (wrap error)

/-- Acts one after the other come to an end if each of them does. -/
theorem Finishes.bind {first : Act σ α} {second : α → Act σ β} (hfirst : Finishes first)
    (hsecond : ∀ value, Finishes (second value)) : Finishes (first >>= second) := by
  intro state
  cases hending : (first.run state).ending with
  | returned value =>
    rw [run_bind_of_returned hending]
    exact hsecond value _
  | failed error =>
    rw [run_bind_of_failed hending]
    exact nofun
  | unfinished => exact absurd hending (hfirst state)

/-- What follows an attempt that comes to an end starts from the value or from the error. -/
theorem Ensures.attempt_bind {act : Act σ α} {second : Except SessionError α → Act σ β}
    {mid : Ending α → σ → List Event → Prop} {post : Ending β → σ → List Event → Prop}
    (h : Ensures pre act mid) (hfinishes : ∀ state history, ¬ mid .unfinished state history)
    (hok : ∀ value, Ensures (mid (.returned value)) (second (.ok value)) post)
    (herror : ∀ error, Ensures (mid (.failed error)) (second (.error error)) post) :
    Ensures pre (act.attempt >>= second) post := by
  intro state history hstate
  have hmid := h state history hstate
  -- the attempt always returns, so what follows it always starts
  cases hending : (act.run state).ending with
  | returned value =>
    rw [hending] at hmid
    rw [run_bind_of_returned (attempt_of_returned hending)]
    have hpost := hok value _ _ hmid
    rwa [List.append_assoc] at hpost
  | failed error =>
    rw [hending] at hmid
    rw [run_bind_of_returned (attempt_of_failed hending)]
    have hpost := herror error _ _ hmid
    rwa [List.append_assoc] at hpost
  | unfinished =>
    rw [hending] at hmid
    exact absurd hmid (hfinishes _ _)

/-- After an attempt that comes to an end, either the value has its promise or there was
an error. -/
theorem Ensures.promises_attempt_bind {act : Act σ α} {second : Except SessionError α → Act σ β}
    {promise : α → σ → List Event → Prop} {post : Ending β → σ → List Event → Prop}
    (h : Ensures pre act (Promises inv promise)) (hfinishes : Finishes act)
    (hok : ∀ value, Ensures (fun state history => inv state history ∧ promise value state history)
      (second (.ok value)) post)
    (herror : ∀ error, Ensures inv (second (.error error)) post) :
    Ensures pre (act.attempt >>= second) post := by
  -- that the act comes to an end is made a part of what it ends with
  have hmid : Ensures pre act fun ending state history =>
      ending ≠ .unfinished ∧ Promises inv promise ending state history :=
    fun state history hstate => ⟨hfinishes state, h state history hstate⟩
  refine hmid.attempt_bind (fun _ _ h => h.1 rfl) (fun value => ?_) fun error => ?_
  · exact (hok value).weaken (fun _ _ h => ⟨h.2.1, h.2.2 value rfl⟩) fun _ _ _ h => h
  · exact (herror error).weaken (fun _ _ h => h.2.1) fun _ _ _ h => h

/-! ## Runs -/

/-- Do an act for its effects alone. -/
def discard (act : Act σ α) : Act σ Unit := do
  let _ ← act

/-- A post-condition that does not mention the ending survives dropping the value. -/
theorem Ensures.discard {act : Act σ α} (h : Ensures pre act fun _ => inv) :
    Ensures pre act.discard fun _ => inv :=
  h.bind (fun _ => keeps_pure ()) (fun _ _ _ h => h) fun _ _ h => h

/-- An act whose value is dropped keeps what it kept before. -/
theorem Keeps.discard {act : Act σ α} (h : Keeps inv act) : Keeps inv act.discard :=
  Ensures.discard h

/-- Nothing but the value is lost. -/
theorem run_discard (act : Act σ α) (state : σ) :
    (act.discard.run state).state = (act.run state).state ∧
      (act.discard.run state).events = (act.run state).events := by
  have hdiscard : act.discard = (act >>= fun _ => Pure.pure ()) := rfl
  rw [hdiscard]
  cases h : (act.run state).ending with
  | returned value =>
    rw [run_bind_of_returned h]
    exact ⟨rfl, List.append_nil _⟩
  | failed error =>
    rw [run_bind_of_failed h]
    exact ⟨rfl, rfl⟩
  | unfinished =>
    rw [run_bind_of_unfinished h]
    exact ⟨rfl, rfl⟩

/-- What an act keeps whose value is thrown away, the act keeps. -/
theorem Keeps.of_discard {act : Act σ α} (h : Keeps inv act.discard) : Keeps inv act := by
  intro state history hstate
  have hdiscard := h state history hstate
  obtain ⟨hstate, hevents⟩ := run_discard act state
  rwa [hstate, hevents] at hdiscard

/-- Do acts one after the other, whatever became of the ones before. -/
def runAll (state : σ) : List (Act σ Unit) → σ × List Event
  | [] => (state, [])
  | act :: acts =>
    let outcome := act.run state
    let (last, later) := runAll outcome.state acts
    (last, outcome.events ++ later)

/-- What every act keeps, the run keeps. -/
theorem Keeps.runAll {acts : List (Act σ Unit)} (h : ∀ act ∈ acts, Keeps inv act) {state : σ}
    {history : List Event} (hstate : inv state history) :
    inv (runAll state acts).1 (history ++ (runAll state acts).2) := by
  -- each act starts from the state and the history that the ones before have left
  induction acts generalizing state history with
  | nil => simpa [Act.runAll] using hstate
  | cons act acts ih =>
    have hnext := h act List.mem_cons_self state history hstate
    have hlast := ih (fun act hact => h act (List.mem_cons_of_mem _ hact)) hnext
    rwa [List.append_assoc] at hlast

end Multimeter.Act
