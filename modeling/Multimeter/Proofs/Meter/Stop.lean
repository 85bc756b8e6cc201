import Multimeter.Proofs.Link.Drained
import Multimeter.Proofs.Link.Faithful
import Multimeter.Proofs.Link.Resumption
import Multimeter.Proofs.Meter.Trimmed
/-!
# Stopping a session

A stop abandons what is in flight and starts the link afresh. Nothing that was in flight is left
then, even if the wire fails in between: the session goes on like one that begins on what is left of
the wire and knows the meter already.

* `Holds.handedOut_eq`: a new link hands out the frames of the bytes that are delivered to it.
* `resumed`: a session that begins, but for what another one knows of the meter.
* `trimmed_stop`: in view, a stop leaves such a session.
* `stop_starts_afresh`: what holds of a stop and of all that is done later.
-/

namespace Multimeter

open Act

namespace Link

variable {ω : Type}

/-- The frames handed out are those of the bytes that were delivered, less those at hand. -/
theorem Holds.handedOut_eq {link : Link ω} {history : List Event} (h : Holds [] link history) :
    handedOut history = Frame.Parser.framesIn
      ((delivered history).take ((delivered history).length - link.buffered)) := by
  obtain ⟨taken, h⟩ := h
  have hdelivered : delivered history = taken ++ link.rest := by
    rw [h.delivered_eq, List.append_nil]
  have hbuffered : link.rest.length = link.buffered := Inbox.length_rest h.within
  rw [h.handedOut_eq, hdelivered, List.length_append, hbuffered, Nat.add_sub_cancel,
    List.take_left]

variable [Wire ω]

/-- A session keeps the account of frames, whatever it does on its link. -/
theorem lasting_holds : Lasting (Holds (ω := ω) []) where
  send frame _ := maintained_holds.send frame trivial
  receive := maintained_holds.receive
  log := maintained_holds.log
  pause := maintained_holds.pause
  sink _ := ensures_report fun link _ ⟨taken, h⟩ => ⟨taken, h.quiet rfl rfl link.wire⟩

/-- A session listens for answers, whatever it does on its link. -/
theorem lasting_listening : Lasting (Listening (ω := ω)) where
  send frame _ := maintained_listening.send frame trivial
  receive := maintained_listening.receive
  log := maintained_listening.log
  pause := maintained_listening.pause
  sink _ := fun _ _ h => ⟨h.coherent, h.direction_eq⟩

end Link

namespace Meter

variable {ω : Type}

/-- The session as one that begins on a wire, but for what it knows of the meter. -/
def resumed (meter : Meter ω) (wire : ω) : Meter ω :=
  { meter with link := Link.new wire meter.link.config, poll := {} }

/-- A session that begins but for what it knows of the meter is one that can be reached, and its
link holds what has been delivered since. -/
theorem reached_resumed {inv : Link ω → List Event → Prop} {config : Config} {meter : Meter ω}
    {history : List Event} (h : Reached inv config meter history) (wire : ω) :
    Reached (Link.Holds []) config (meter.resumed wire) [] := by
  obtain ⟨hstanding, -, hlaid⟩ := h
  have hconfig : meter.link.config = config := hstanding.plain.1
  exact ⟨⟨Link.holds_new wire _, ⟨hconfig, rfl⟩, rfl, rfl, rfl, rfl⟩, Poll.sound_new _, hlaid⟩

variable [Wire ω]

/-- In view, a stop leaves a session that begins, whatever becomes of the wire. -/
theorem trimmed_stop {meter : Meter ω} (h : meter.link.parser.direction = .response)
    (patience : Nat) :
    let stopped := ((stop patience).run meter).state
    stopped.trimmed = (meter.resumed stopped.link.wire).trimmed := by
  intro stopped
  have hlink : stopped.link.trimmed = (Link.new stopped.link.wire meter.link.config).trimmed :=
    Link.trimmed_reset h patience
  show { meter with link := stopped.link.trimmed, poll := {} } = _
  rw [hlink]
  rfl

/-- The frames that calls hand out in a session that looks like one that begins are those of the
bytes that are delivered to these calls. -/
theorem handedOut_perform {config : Config} {meter resumed : Meter ω}
    (hview : meter.trimmed = resumed.trimmed) (h : Reached (Link.Holds []) config resumed [])
    (calls : List (Nat × Call)) :
    let run := perform meter (calls.map (Prod.map id .call))
    handedOut run.2 = Frame.Parser.framesIn
      ((delivered run.2).take ((delivered run.2).length - run.1.link.buffered)) := by
  intro run
  -- the session that begins does the same, and there the frames are known
  obtain ⟨hlast, hhistory⟩ := perform_looksLike hview (calls.map (Prod.map id .call))
  have hreached : Reached (Link.Holds []) config
      (perform resumed (calls.map (Prod.map id .call))).1
      ([] ++ (perform resumed (calls.map (Prod.map id .call))).2) := by
    refine Keeps.runAll (fun act hmem => ?_) h
    obtain ⟨operation, hoperation, rfl⟩ := List.mem_map.1 hmem
    obtain ⟨⟨patience, call⟩, -, rfl⟩ := List.mem_map.1 hoperation
    exact keeps_call Link.lasting_holds patience call
  have hholds := hreached.1.link.handedOut_eq
  rw [List.nil_append, ← hhistory, ← Link.buffered_eq_of_trimmed (congrArg Meter.link hlast)]
    at hholds
  exact hholds

/-- After any operations over any wire, a stop fails only if the wire does. Whether it fails or not,
nothing is in flight then, no bytes are at hand, the parser holds nothing, and what is known of the
meter stays. All that is done later, it does as a session that begins on what is left of the wire
and knows the meter. Until the next stop, the frames handed out are those of the bytes that are
delivered later, so nothing that was read before or by the stop is a part of any of them. If the
stop succeeds, it has read all that the wire delivers until its first empty read, and with patience
for that it succeeds. -/
theorem stop_starts_afresh (wire : ω) (config : Config) (operations : List (Nat × Operation))
    (patience : Nat) :
    let meter := (perform (Meter.new wire config) operations).1
    let outcome := (stop patience).run meter
    let stopped := outcome.state
    let resumed := meter.resumed stopped.link.wire
    (∀ error, outcome.ending = .failed error → ∃ fault, error = .io fault) ∧
    (stopped = { meter with link := stopped.link, poll := {} } ∧ stopped.link.config = config ∧
      stopped.link.buffered = 0 ∧ stopped.link.parser = .new .response) ∧
    (∀ later : List (Nat × Operation),
      List.Forall₂ (Outcome.LooksLike trimmed) (performEach stopped later)
        (performEach resumed later)) ∧
    (∀ later : List (Nat × Call),
      let run := perform stopped (later.map (Prod.map id .call))
      handedOut run.2 = Frame.Parser.framesIn
        ((delivered run.2).take ((delivered run.2).length - run.1.link.buffered))) ∧
    (outcome.ending = .returned () →
      ∃ pieces last, Link.Drains meter.link.wire pieces last ∧ pieces.length < patience) ∧
    ∀ pieces last, Link.Drains meter.link.wire pieces last → pieces.length < patience →
      outcome.ending = .returned () ∧ stopped.link.wire = last ∧
        outcome.events = Link.drainReads pieces := by
  intro meter outcome stopped resumed
  have hstart : Reached Link.Listening config (Meter.new wire config) [] :=
    ⟨⟨Link.listening_new wire config [], ⟨rfl, rfl⟩, rfl, rfl, rfl, rfl⟩, Poll.sound_new _, nofun⟩
  have hreached : Reached Link.Listening config meter _ :=
    keeps_perform (keeps_operation Link.lasting_listening Link.keeps_reset_listening) hstart
      operations
  obtain ⟨hcoherent, hdirection⟩ := hreached.1.link
  have hconfig : meter.link.config = config := hreached.1.plain.1
  -- all but the reads of the stop itself follows from what is in view of the session it leaves
  have hview : stopped.trimmed = resumed.trimmed := trimmed_stop hdirection patience
  have hlink : stopped.link.trimmed = resumed.link.trimmed := congrArg Meter.link hview
  refine ⟨fun error hfailed => ?_, ⟨rfl, ?_, ?_, ?_⟩, fun later => ?_, fun later => ?_,
    Link.exists_drains_of_reset, fun pieces last hdrains hpatience => ?_⟩
  · exact (Link.reset_ends patience meter.link [] hcoherent).error error hfailed
  · exact (congrArg Link.config hlink).trans hconfig
  · exact Link.buffered_eq_of_trimmed hlink
  · exact congrArg Link.parser hlink
  · exact performEach_looksLike hview later
  · exact handedOut_perform hview (reached_resumed hreached _) later
  · have hrun := Link.run_reset hdrains hpatience
    exact ⟨congrArg Outcome.ending hrun, congrArg (fun outcome => outcome.state.wire) hrun,
      congrArg Outcome.events hrun⟩

end Meter

end Multimeter
