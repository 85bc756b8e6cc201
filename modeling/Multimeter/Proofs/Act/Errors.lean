import Multimeter.Proofs.Act
/-!
# Errors of acts

Which errors an act may end with. Such a specification also tells something of the values of the
act, because the errors of what follows depend on them.

* `Ends inv promise may`: the act keeps `inv`, its value has the `promise`, and only errors that
  `may` occur end it.
* `Ensures.ends_bind`: two acts in a row.
* `Ensures.ends_attempt`: an attempt ends with no error, and its value tells of the error instead.
-/

namespace Multimeter.Act

variable {σ α β : Type} {pre inv mid : σ → List Event → Prop} {promise : α → Prop}
  {promise' : β → Prop} {may may' : SessionError → Prop}

/-- However the act ends, `inv` holds. A value has the promise, and an error is one that
may occur. -/
structure Ends (inv : σ → List Event → Prop) (promise : α → Prop) (may : SessionError → Prop)
    (ending : Ending α) (state : σ) (history : List Event) : Prop where
  /-- What holds in any case. -/
  kept : inv state history
  /-- The value has the promise. -/
  value : ∀ value, ending = .returned value → promise value
  /-- No other error occurs. -/
  error : ∀ error, ending = .failed error → may error

/-- Returning a value with the promise ends well. -/
theorem ends_pure {value : α} (h : ∀ state history, pre state history → inv state history)
    (hvalue : promise value) : Ensures pre (Pure.pure value : Act σ α) (Ends inv promise may) := by
  refine ensures_pure fun state history hstate => ⟨h state history hstate, ?_, nofun⟩
  intro value' heq
  rwa [← Ending.returned.inj heq]

/-- Failing with an error that may occur is one of the ends allowed. -/
theorem ends_fail {error : SessionError}
    (h : ∀ state history, pre state history → inv state history) (herror : may error) :
    Ensures pre (fail error : Act σ α) (Ends inv promise may) := by
  refine ensures_fail fun state history hstate => ⟨h state history hstate, nofun, ?_⟩
  intro error' heq
  rwa [← Ending.failed.inj heq]

/-- Giving up is an end that is always allowed. -/
theorem ends_giveUp (h : ∀ state history, pre state history → inv state history) :
    Ensures pre (giveUp : Act σ α) (Ends inv promise may) :=
  ensures_giveUp fun state history hstate => ⟨h state history hstate, nofun, nofun⟩

/-- A specification may allow more errors and promise less. -/
theorem Ends.weaken {promise' : α → Prop} {ending : Ending α} {state : σ} {history : List Event}
    (h : Ends inv promise may ending state history)
    (hvalue : ∀ value, promise value → promise' value)
    (herror : ∀ error, may error → may' error) : Ends inv promise' may' ending state history :=
  ⟨h.kept, fun value heq => hvalue value (h.value value heq), fun error heq =>
    herror error (h.error error heq)⟩

/-- An error stays the same, whatever the value would have been used for. -/
theorem Ends.failed {error : SessionError} {state : σ} {history : List Event}
    (h : Ends inv promise may (.failed error) state history) :
    Ends inv promise' may (.failed error) state history :=
  ⟨h.kept, nofun, fun error' heq => h.error error' (by rw [← Ending.failed.inj heq])⟩

/-- Two acts in a row: the errors are those of either, and the second may rely on the promise of the
first. -/
theorem Ensures.ends_bind {first : Act σ α} {second : α → Act σ β}
    (hfirst : Ensures pre first (Ends mid promise may))
    (hsecond : ∀ value, promise value → Ensures mid (second value) (Ends inv promise' may'))
    (hmid : ∀ state history, mid state history → inv state history)
    (hmay : ∀ error, may error → may' error) :
    Ensures pre (first >>= second) (Ends inv promise' may') := by
  refine hfirst.bind (fun value => ?_) (fun error state history h => ?_) fun state history h => ?_
  · intro state history h
    exact hsecond value (h.value value rfl) state history h.kept
  · refine ⟨hmid state history h.kept, nofun, fun error' heq => ?_⟩
    rw [← Ending.failed.inj heq]
    exact hmay error (h.error error rfl)
  · exact ⟨hmid state history h.kept, nofun, nofun⟩

/-- A change of the state that keeps what holds before it makes no difference. -/
theorem ends_modify_bind {change : σ → σ} {second : Act σ β}
    (h : Ensures pre second (Ends inv promise' may))
    (hchange : ∀ state history, pre state history → pre (change state) history) :
    Ensures pre (modify change >>= fun _ => second) (Ends inv promise' may) :=
  ensures_modify_bind h hchange

/-- What follows a computation without effects starts from its value, or there is its error. -/
theorem ends_lift_bind {ε : Type} {wrap : ε → SessionError} {result : Except ε α}
    {second : α → Act σ β}
    (hok : ∀ value, result = .ok value → Ensures pre (second value) (Ends inv promise' may))
    (h : ∀ state history, pre state history → inv state history)
    (herror : ∀ error, result = .error error → may (wrap error)) :
    Ensures pre (lift wrap result >>= second) (Ends inv promise' may) := by
  rcases result with error | value
  · exact ends_fail h (herror error rfl)
  · exact hok value rfl

/-- An attempt ends with no error; its value tells whether there was one. -/
theorem Ensures.ends_attempt {act : Act σ α} (h : Ensures pre act (Ends inv promise may)) :
    Ensures pre act.attempt (Ends inv
      (fun result => (∀ value, result = .ok value → promise value) ∧
        ∀ error, result = .error error → may error) fun _ => False) := by
  refine h.attempt (fun value state history hpost => ?_) (fun error state history hpost => ?_)
    fun state history hpost => ⟨hpost.kept, nofun, nofun⟩
  · refine ⟨hpost.kept, fun result heq => ?_, nofun⟩
    rw [← Ending.returned.inj heq]
    refine ⟨fun value' hvalue => ?_, nofun⟩
    rw [← Except.ok.inj hvalue]
    exact hpost.value value rfl
  · refine ⟨hpost.kept, fun result heq => ?_, nofun⟩
    rw [← Ending.returned.inj heq]
    refine ⟨nofun, fun error' herror => ?_⟩
    rw [← Except.error.inj herror]
    exact hpost.error error rfl

/-- A value that is not looked at may have any promise. -/
theorem Ensures.ends_discard {act : Act σ α} (h : Ensures pre act (Ends inv promise may)) :
    Ensures pre act.discard (Ends inv (fun _ => True) may) :=
  h.ends_bind (fun _ _ => ends_pure (fun _ _ hstate => hstate) trivial) (fun _ _ hstate => hstate)
    fun _ herror => herror

end Multimeter.Act
