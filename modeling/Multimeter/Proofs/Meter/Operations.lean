import Multimeter.Proofs.Link.Errors
import Multimeter.Proofs.Meter.Calls
/-!
# Sessions that may be stopped

All that a caller can do with a session, stopping it among it, and what is in flight after any of
it.

* `Operation`: the calls of a session and its stop; `perform` does some of them, one after the
  other.
* `reached_perform`: what holds of every session that can be reached.
* `run_poll_sound`: no request is waited for longer than allowed, none but the one that belongs to
  what is polled is in flight, and a window starts where the playback stands.
-/

namespace Multimeter.Meter

open Act

variable {ω : Type} [Wire ω] {inv : Link ω → List Event → Prop} {config : Config}

/-- What a caller can do with a session. -/
inductive Operation where
  /-- Call it. -/
  | call (call : Call)
  /-- Stop what is in flight and start afresh. -/
  | stop
  deriving DecidableEq, Repr

/-- Do it with some patience, whatever it comes to. -/
def Operation.act (patience : Nat) : Operation → Act (Meter ω) Unit
  | .call made => made.act patience
  | .stop => Meter.stop patience

/-- Do operations one after the other, each with a patience of its own. -/
def perform (meter : Meter ω) (operations : List (Nat × Operation)) : Meter ω × List Event :=
  runAll meter (operations.map fun (patience, operation) => operation.act patience)

/-- The parser of a link stays in order whatever is called. -/
theorem lasting_coherent : Link.Lasting (Link.Coherent (ω := ω)) where
  toMaintained := Link.maintained_coherent _
  sink _ := fun _ _ h => h

/-- A link that starts afresh has an orderly parser. -/
theorem keeps_coherent_reset (patience : Nat) :
    Keeps (Link.Coherent (ω := ω)) (Link.reset patience) :=
  fun link history h => (Link.reset_ends patience link history h).kept

/-- Stopping leaves nothing in flight and hands nothing over, whatever becomes of the link. -/
theorem stop_spec {calls : List Sink.Call} {known : Meter ω}
    (hreset : ∀ patience, Keeps inv (Link.reset patience)) (patience : Nat) :
    Ensures (Standing inv config calls known) (stop patience) fun _ =>
      Standing inv config calls { known with poll := {} } := by
  have hplain : Keeps (Link.Plain config calls) (Link.reset (ω := ω) patience) :=
    Link.keeps_reset (fun h => h) (fun _ _ h => h.quiet rfl rfl) patience
  exact (changePoll_spec fun _ => {}).returns_bind (keeps_onLink ((hreset patience).and hplain))

/-- Stopping keeps what starting the link afresh keeps. -/
theorem keeps_stop (hreset : ∀ patience, Keeps inv (Link.reset patience)) (patience : Nat) :
    Keeps (Reached inv config) (stop patience) := by
  refine keeps_reached fun calls known _ hlaid => ?_
  exact (stop_spec hreset patience).weaken (fun _ _ h => h)
    fun _ _ _ h => h.reached (Poll.sound_new _) hlaid

/-- Every operation leads from a reached session to a reached one. -/
theorem keeps_operation (hinv : Link.Lasting inv)
    (hreset : ∀ patience, Keeps inv (Link.reset patience)) (patience : Nat)
    (operation : Operation) :
    Keeps (Reached inv config) (operation.act patience) := by
  rcases operation with call | _
  · exact keeps_call hinv patience call
  · exact keeps_stop hreset patience

/-- What every operation keeps, operations one after the other keep. -/
theorem keeps_perform {inv : Meter ω → List Event → Prop}
    (h : ∀ patience (operation : Operation), Keeps inv (operation.act patience)) {meter : Meter ω}
    (hmeter : inv meter []) (operations : List (Nat × Operation)) :
    inv (perform meter operations).1 (perform meter operations).2 := by
  refine Keeps.runAll (fun act hmem => ?_) hmeter
  obtain ⟨⟨patience, operation⟩, -, rfl⟩ := List.mem_map.1 hmem
  exact h patience operation

/-- Where a session stands after any operations, whatever each of them came to. -/
theorem reached_perform (wire : ω) (config : Config) (operations : List (Nat × Operation)) :
    let (meter, history) := perform (Meter.new wire config) operations
    Reached Link.Coherent config meter history := by
  have hstart : Reached Link.Coherent config (Meter.new wire config) [] :=
    ⟨⟨Link.coherent_new wire config [], ⟨rfl, rfl⟩, rfl, rfl, rfl, rfl⟩, Poll.sound_new _, nofun⟩
  exact keeps_perform (keeps_operation lasting_coherent keeps_coherent_reset) hstart operations

/-! ## What is in flight -/

/-- No link looks for an answer more often than its counter can tell. -/
theorem budget_lt_size (config : Config) : config.budget < UInt32.size := by
  have htimeout := config.receiveTimeout.toNat_lt
  have hdiv := Nat.div_le_self config.receiveTimeout.toNat (max config.pollInterval.toNat 1)
  simp only [Config.budget, Config.cycles, UInt32.size]
  omega

/-- After any operations over any wire: polls are counted only while a request is in flight. Such a
request has been looked for, but fewer times than allowed, so that one more can be counted. It is a
request for the displays while nothing is played back, or that for the window while a storage is.
The window of a playback starts at the position, holds an entry and lies in the storage. -/
theorem run_poll_sound (wire : ω) (config : Config) (operations : List (Nat × Operation)) :
    let meter := (perform (Meter.new wire config) operations).1
    let poll := meter.poll
    (poll.pending = none → poll.polls = 0) ∧
    (∀ request, poll.pending = some request →
      1 ≤ poll.polls ∧ poll.polls < config.budget ∧ poll.polls + 1 < UInt32.size ∧
        (request = .readDisplay ∧ poll.playback = none ∨
          ∃ window kind, request = .readMemory window.request ∧ poll.window = some window ∧
            poll.playback = some kind)) ∧
    (∀ kind window, poll.playback = some kind → poll.window = some window →
      window.slot.toNat * kind.layout.entriesPerSlot.toNat + window.offset.toNat = poll.cursor ∧
        1 ≤ window.count.toNat ∧ poll.cursor + window.count.toNat ≤ kind.layout.capacity) ∧
    ∀ kind info, meter.storage? kind = some info →
      info.entriesPerSlot = kind.layout.entriesPerSlot ∧ info.capacity = kind.layout.capacity := by
  intro meter poll
  obtain ⟨-, hsound, hlaid⟩ := reached_perform wire config operations
  refine ⟨hsound.polls_eq, fun request hpending => ?_, fun kind window hkind hwindow => ?_,
    fun kind info hinfo => ?_⟩
  -- the budget is a number of looks that the counter can hold
  · obtain ⟨hpos, hlt⟩ := hsound.polls_lt request hpending
    have hsize := budget_lt_size config
    exact ⟨hpos, hlt, Nat.lt_of_le_of_lt hlt hsize, hsound.asks request hpending⟩
  · have hcovers := hsound.covers kind window hkind hwindow
    exact ⟨hcovers.start_eq, hcovers.count_pos, hcovers.le_capacity⟩
  -- what is known of the storages was decoded, and has their layouts
  · obtain ⟨storages, hstorages, rfl⟩ := Option.map_eq_some_iff.1 hinfo
    have hlayout := hlaid storages hstorages kind
    exact ⟨hlayout.entriesPerSlot_eq, hlayout.capacity_eq⟩

end Multimeter.Meter
