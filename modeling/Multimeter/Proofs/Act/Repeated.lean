import Multimeter.Proofs.Act
/-!
# Acts done again

An act may be done many times in a row, each time from the state that the time before has left,
whatever that came to.

* `after`, `repeated`: the state after some times, and what each of them came to.
* `Ending.stop?`: how an act ended without a value.
* `stop_bind`: an act that ends without a value is the end of what follows, which adds nothing.
* `exists_of_returned_bind`: two acts in a row end with a value only if both do.
-/

namespace Multimeter

variable {σ α β : Type}

/-- How an act ended without a value, if it did: with an error, or with its patience run out. -/
def Ending.stop? : Ending α → Option (Option SessionError)
  | .returned _ => none
  | .failed error => some (some error)
  | .unfinished => some none

/-- An act stops with an error just when it fails with it. -/
theorem Ending.stop?_eq_failed_iff {ending : Ending α} {error : SessionError} :
    ending.stop? = some (some error) ↔ ending = .failed error := by
  cases ending <;> simp [stop?]

/-- An act stops without an error just when it does not end. -/
theorem Ending.stop?_eq_unfinished_iff {ending : Ending α} :
    ending.stop? = some none ↔ ending = .unfinished := by
  cases ending <;> simp [stop?]

namespace Act

/-- The state after an act has been done some times, whatever each of them came to. -/
def after (act : Act σ α) : (count : Nat) → σ → σ
  | 0, state => state
  | count + 1, state => after act count (act.run state).state

/-- What doing an act some times came to, each time. -/
def repeated (act : Act σ α) : (count : Nat) → σ → List (Outcome σ α)
  | 0, _ => []
  | count + 1, state => act.run state :: repeated act count (act.run state).state

/-- Each time starts from what the times before have left. -/
theorem getElem?_repeated (act : Act σ α) {index count : Nat} (h : index < count) (state : σ) :
    (act.repeated count state)[index]? = some (act.run (act.after index state)) := by
  induction index generalizing count state with
  | zero =>
    obtain ⟨count, rfl⟩ := Nat.exists_eq_add_one.2 h
    rfl
  | succ index ih =>
    obtain ⟨count, rfl⟩ := Nat.exists_eq_add_one.2 (Nat.zero_lt_of_lt h)
    exact ih (Nat.lt_of_succ_lt_succ h) (act.run state).state

/-- Without a value, what follows is not begun. -/
theorem stop_bind {first : Act σ α} {second : α → Act σ β} {state : σ}
    {stop : Option SessionError} (h : (first.run state).ending.stop? = some stop) :
    ((first >>= second).run state).ending.stop? = some stop ∧
      ((first >>= second).run state).events = (first.run state).events := by
  cases hending : (first.run state).ending with
  | returned value =>
    rw [hending] at h
    cases h
  | failed error =>
    rw [hending] at h
    rw [run_bind_of_failed hending]
    exact ⟨h, rfl⟩
  | unfinished =>
    rw [hending] at h
    rw [run_bind_of_unfinished hending]
    exact ⟨h, rfl⟩

/-- With a value at the end, both acts had one. -/
theorem exists_of_returned_bind {first : Act σ α} {second : α → Act σ β} {state : σ} {value : β}
    (h : ((first >>= second).run state).ending = .returned value) :
    ∃ mid, (first.run state).ending = .returned mid ∧
      ((second mid).run (first.run state).state).ending = .returned value := by
  cases hending : (first.run state).ending with
  | returned mid =>
    rw [run_bind_of_returned hending] at h
    exact ⟨mid, rfl, h⟩
  | failed error =>
    rw [run_bind_of_failed hending] at h
    cases h
  | unfinished =>
    rw [run_bind_of_unfinished hending] at h
    cases h

end Act

end Multimeter
