import Multimeter.Proofs.Act
/-!
# Acts that return

Where nothing goes wrong, an act ends with a value, and the value has a promise.

* `Yields promise inv`: the act returns a value with the promise, and `inv` holds. There is one rule
  for each way to build an act.
-/

namespace Multimeter.Act

variable {σ α β : Type} {pre mid inv : σ → List Event → Prop} {promise : α → Prop}

/-- The act returns a value with the promise, and `inv` holds. -/
def Yields (promise : α → Prop) (inv : σ → List Event → Prop) (ending : Ending α) (state : σ)
    (history : List Event) : Prop :=
  ∃ value, ending = .returned value ∧ promise value ∧ inv state history

/-- Returning a value with the promise yields it. -/
theorem yields_pure {value : α} (h : ∀ state history, pre state history → inv state history)
    (hvalue : promise value) : Ensures pre (Pure.pure value : Act σ α) (Yields promise inv) :=
  ensures_pure fun state history hstate => ⟨value, rfl, hvalue, h state history hstate⟩

/-- An act whose value is known yields this value. -/
theorem Ensures.yields_of_returns {act : Act σ α} {value : α}
    (h : Ensures pre act (Returns value inv)) : Ensures pre act (Yields (· = value) inv) :=
  fun state history hstate => ⟨value, (h state history hstate).1, rfl, (h state history hstate).2⟩

/-- What follows starts from a value with the promise. -/
theorem Ensures.yields_bind {first : Act σ α} {second : α → Act σ β}
    {post : Ending β → σ → List Event → Prop} (hfirst : Ensures pre first (Yields promise mid))
    (hsecond : ∀ value, promise value → Ensures mid (second value) post) :
    Ensures pre (first >>= second) post := by
  refine hfirst.bind (fun value => ?_) (fun _ _ _ ⟨_, heq, _⟩ => nomatch heq)
    fun _ _ ⟨_, heq, _⟩ => nomatch heq
  rintro state history ⟨value', heq, hvalue, hstate⟩
  obtain rfl : value = value' := Ending.returned.inj heq
  exact hsecond value hvalue state history hstate

/-- An attempt at an act that returns has its value. -/
theorem Ensures.yields_attempt_bind {act : Act σ α} {second : Except SessionError α → Act σ β}
    {post : Ending β → σ → List Event → Prop} (h : Ensures pre act (Yields promise mid))
    (hsecond : ∀ value, promise value → Ensures mid (second (.ok value)) post) :
    Ensures pre (act.attempt >>= second) post := by
  refine h.attempt_bind (fun _ _ ⟨_, heq, _⟩ => nomatch heq) (fun value => ?_)
    fun _ _ _ ⟨_, heq, _⟩ => nomatch heq
  rintro state history ⟨value', heq, hvalue, hstate⟩
  obtain rfl : value = value' := Ending.returned.inj heq
  exact hsecond value hvalue state history hstate

/-- What is kept besides is kept when the act returns. -/
theorem Ensures.yields_and {act : Act σ α} (h : Ensures pre act (Yields promise mid))
    (hkeeps : Keeps inv act) :
    Ensures (fun state history => pre state history ∧ inv state history) act
      (Yields promise fun state history => mid state history ∧ inv state history) := by
  intro state history hstate
  obtain ⟨value, heq, hvalue, hmid⟩ := h state history hstate.1
  exact ⟨value, heq, hvalue, hmid, hkeeps state history hstate.2⟩

end Multimeter.Act
