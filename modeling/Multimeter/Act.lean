import Multimeter.Event
/-!
# Acts

An act is an operation on a state: it ends with a value or an error, leaves a state in either case,
and reports what it did in order. A search without a bound of its own is given patience; when that
runs out, the act is unfinished, which is neither a value nor an error.
-/

namespace Multimeter

/-- How an act ended. -/
inductive Ending (α : Type) where
  /-- With a value. -/
  | returned (value : α)
  /-- With an error. -/
  | failed (error : SessionError)
  /-- Its patience ran out before it came to an end. -/
  | unfinished
  deriving DecidableEq, Repr

/-- What running an act comes to. -/
structure Outcome (σ α : Type) where
  /-- How the act ended. -/
  ending : Ending α
  /-- The state that it left. -/
  state : σ
  /-- What it did, in order. -/
  events : List Event
  deriving Repr

/-- An operation on states `σ` with values `α`. -/
def Act (σ α : Type) : Type := σ → Outcome σ α

namespace Act

variable {σ τ α β : Type}

/-- Run an act from a state. -/
def run (act : Act σ α) (state : σ) : Outcome σ α := act state

/-- Do nothing. -/
def pure (value : α) : Act σ α := fun state => { ending := .returned value, state, events := [] }

/-- Do one act and then another one that may depend on the value of the first. An error of the first
is the end of both. -/
def bind (first : Act σ α) (second : α → Act σ β) : Act σ β := fun state =>
  let before := first.run state
  match before.ending with
  | .returned value =>
    let after := (second value).run before.state
    { after with events := before.events ++ after.events }
  | .failed error => { before with ending := .failed error }
  | .unfinished => { before with ending := .unfinished }

instance : Monad (Act σ) where
  pure := pure
  bind := bind

/-- The state. -/
def get : Act σ σ := fun state => { ending := .returned state, state, events := [] }

/-- Change the state. -/
def modify (change : σ → σ) : Act σ Unit := fun state =>
  { ending := .returned (), state := change state, events := [] }

/-- Fail. -/
def fail (error : SessionError) : Act σ α := fun state =>
  { ending := .failed error, state, events := [] }

/-- Lose patience. -/
def giveUp : Act σ α := fun state => { ending := .unfinished, state, events := [] }

/-- The value of a computation without effects, or its error. -/
def lift {ε : Type} (wrap : ε → SessionError) : Except ε α → Act σ α
  | .ok value => pure value
  | .error error => fail (wrap error)

/-- Report something done. -/
def report (event : Event) : Act σ Unit := fun state =>
  { ending := .returned (), state, events := [event] }

/-- Log an entry. -/
def log (entry : Log.Entry) : Act σ Unit := report (.logged entry)

/-- Hand something to the sink. -/
def sink (call : Sink.Call) : Act σ Unit := report (.sank call)

/-- Do an act and take its error as a value. -/
def attempt (act : Act σ α) : Act σ (Except SessionError α) := fun state =>
  let outcome := act.run state
  { outcome with
    ending := match outcome.ending with
      | .returned value => .returned (.ok value)
      | .failed error => .returned (.error error)
      | .unfinished => .unfinished }

/-- Do an act on a part of the state. -/
def within (part : τ → σ) (replace : σ → τ → τ) (act : Act σ α) : Act τ α := fun whole =>
  let outcome := act.run (part whole)
  { ending := outcome.ending, state := replace outcome.state whole, events := outcome.events }

/-! ## Running acts -/

/-- A value is returned where the state stands, and nothing is done. -/
@[simp]
theorem run_pure (value : α) (state : σ) :
    (Pure.pure value : Act σ α).run state = { ending := .returned value, state, events := [] } :=
  rfl

/-- After a value, the second act runs from the state that the first one left. -/
theorem run_bind_of_returned {first : Act σ α} {second : α → Act σ β} {state : σ} {value : α}
    (h : (first.run state).ending = .returned value) :
    (first >>= second).run state =
      { ending := ((second value).run (first.run state).state).ending
        state := ((second value).run (first.run state).state).state
        events := (first.run state).events ++
          ((second value).run (first.run state).state).events } := by
  show bind first second state = _
  simp [bind, h]

/-- An error of the first act is the end of both. -/
theorem run_bind_of_failed {first : Act σ α} {second : α → Act σ β} {state : σ}
    {error : SessionError} (h : (first.run state).ending = .failed error) :
    (first >>= second).run state =
      { ending := .failed error, state := (first.run state).state
        events := (first.run state).events } := by
  show bind first second state = _
  simp [bind, h]

/-- If the first act loses patience, so do both. -/
theorem run_bind_of_unfinished {first : Act σ α} {second : α → Act σ β} {state : σ}
    (h : (first.run state).ending = .unfinished) :
    (first >>= second).run state =
      { ending := .unfinished, state := (first.run state).state
        events := (first.run state).events } := by
  show bind first second state = _
  simp [bind, h]

/-- Looking at the state returns it and changes nothing. -/
@[simp]
theorem run_get (state : σ) :
    (get : Act σ σ).run state = { ending := .returned state, state, events := [] } := rfl

/-- A change of the state is no event. -/
@[simp]
theorem run_modify (change : σ → σ) (state : σ) :
    (modify change).run state = { ending := .returned (), state := change state, events := [] } :=
  rfl

/-- An error ends the act where the state stands. -/
@[simp]
theorem run_fail (error : SessionError) (state : σ) :
    (fail error : Act σ α).run state = { ending := .failed error, state, events := [] } := rfl

/-- Giving up leaves the state as it is. -/
@[simp]
theorem run_giveUp (state : σ) :
    (giveUp : Act σ α).run state = { ending := .unfinished, state, events := [] } := rfl

/-- A report adds its event and changes nothing. -/
@[simp]
theorem run_report (event : Event) (state : σ) :
    (report event).run state = { ending := .returned (), state, events := [event] } := rfl

/-- Reading the state does nothing. -/
theorem run_get_bind (second : σ → Act σ β) (state : σ) :
    (get >>= second).run state = (second state).run state := rfl

/-- A change is made before what follows. -/
theorem run_modify_bind (change : σ → σ) (second : Act σ β) (state : σ) :
    (modify change >>= fun _ => second).run state = second.run (change state) := rfl

/-- A log entry comes before what follows. -/
theorem run_log_bind (entry : Log.Entry) (second : Act σ β) (state : σ) :
    (log entry >>= fun _ => second).run state =
      { ending := (second.run state).ending
        state := (second.run state).state
        events := .logged entry :: (second.run state).events } := rfl

/-! ## Laws of acts -/

/-- Passing the value on changes nothing. -/
theorem bind_pure_id (act : Act σ α) : id <$> act = act := by
  funext state
  show bind act (fun value => Pure.pure (id value)) state = act state
  simp only [bind, run, id_eq]
  cases h : (act state).ending <;> simp [Pure.pure, pure, ← h]

/-- Doing nothing first changes nothing. -/
theorem bind_of_pure (value : α) (second : α → Act σ β) :
    Pure.pure value >>= second = second value := rfl

/-- Three acts in a row need no brackets. -/
theorem bind_of_bind {γ : Type} (first : Act σ α) (second : α → Act σ β) (third : β → Act σ γ) :
    first >>= second >>= third = first >>= fun value => second value >>= third := by
  funext state
  show bind (bind first second) third state =
    bind first (fun value => bind (second value) third) state
  simp only [bind, run]
  cases (first state).ending with
  | failed error => simp
  | unfinished => simp
  | returned value =>
    simp only
    cases (second value (first state).state).ending <;> simp [List.append_assoc]

instance : LawfulMonad (Act σ) := LawfulMonad.mk' _ bind_pure_id bind_of_pure bind_of_bind

end Act

end Multimeter
