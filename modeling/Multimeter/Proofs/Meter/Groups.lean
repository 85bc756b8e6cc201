import Multimeter.Proofs.Meter.Progress
import Multimeter.Wire.Scripted
/-!
# Groups handed over

Whatever is done with a session, over any wire: the calls on the sink are complete groups, one
behind the other. A group begins with the main display. Only polls hand groups over, and how many
they hand over shows in what they come to.

* `Sink.Grouped`: calls that are complete groups.
* `Sink.grouped_iff_recorded`: these are the calls that a sink takes which refuses calls out of
  turn.
* `Reached.pollLive_grouped`, `Reached.pollStorage_grouped`: the groups of one poll.
* `run_grouped`: the calls of any run, and of any operation behind it.
-/

namespace Multimeter

namespace Sink

/-- The calls are complete groups one behind the other, and each group has a sample for each of the
displays that are listed for it. -/
def Grouped (displays : List (List Channel)) (calls : List Call) : Prop :=
  ∃ groups : List (List (Channel × Sample)), calls = groups.flatMap group ∧
    groups.map (·.map Prod.fst) = displays

variable {displays : List (List Channel)} {calls : List Call}

theorem grouped_nil : Grouped [] [] := ⟨[], rfl, rfl⟩

theorem grouped_group (samples : List (Channel × Sample)) :
    Grouped [samples.map Prod.fst] (group samples) :=
  ⟨[samples], (List.flatMap_singleton _ _).symm, rfl⟩

/-- Grouped calls one behind the other are grouped. -/
theorem Grouped.append {displays' : List (List Channel)} {calls' : List Call}
    (h : Grouped displays calls) (h' : Grouped displays' calls') :
    Grouped (displays ++ displays') (calls ++ calls') := by
  obtain ⟨groups, rfl, rfl⟩ := h
  obtain ⟨groups', rfl, rfl⟩ := h'
  exact ⟨groups ++ groups', List.flatMap_append.symm, List.map_append⟩

/-! ## A sink that refuses calls out of turn -/

/-- What a sink has recorded. -/
structure Recorder where
  /-- The complete groups. -/
  groups : List (List (Channel × Sample)) := []
  /-- The samples of the group that has begun, unless it is complete. -/
  current : Option (List (Channel × Sample)) := none
  deriving DecidableEq, Repr

namespace Recorder

/-- Receive one call: samples belong to a group, and no group begins within another one. -/
def receive (recorder : Recorder) : Call → Option Recorder
  | .begin => if recorder.current.isSome then none else some { recorder with current := some [] }
  | .emit channel sample => recorder.current.map fun samples =>
    { recorder with current := some (samples ++ [(channel, sample)]) }
  | .finish => recorder.current.map fun samples => { groups := recorder.groups ++ [samples] }

/-- Receive calls in order. -/
def receiveAll (recorder : Recorder) (calls : List Call) : Option Recorder :=
  calls.foldlM receive recorder

/-- The calls that were received. -/
def trace (recorder : Recorder) : List Call :=
  recorder.groups.flatMap group ++ recorder.current.elim [] fun samples =>
    .begin :: samples.map fun (channel, sample) => .emit channel sample

variable {recorder next : Recorder} {received : List Call}

/-- A recorder that accepts a call has it last in its trace. -/
theorem trace_receive {call : Call} (h : recorder.receive call = some next) :
    next.trace = recorder.trace ++ [call] := by
  obtain ⟨groups, current⟩ := recorder
  cases call with
  | begin =>
    cases current with
    | none =>
      obtain rfl := Option.some.inj h
      simp [trace]
    | some samples => cases h
  | emit channel sample =>
    obtain ⟨samples, rfl, rfl⟩ := Option.map_eq_some_iff.1 h
    simp [trace]
  | finish =>
    obtain ⟨samples, rfl, rfl⟩ := Option.map_eq_some_iff.1 h
    simp [trace, group]

/-- What a recorder holds tells which calls it has received. -/
theorem trace_receiveAll (h : recorder.receiveAll received = some next) :
    next.trace = recorder.trace ++ received := by
  induction received generalizing recorder with
  | nil =>
    obtain rfl := Option.some.inj h
    exact (List.append_nil _).symm
  | cons call received ih =>
    obtain ⟨middle, hfirst, hrest⟩ := Option.bind_eq_some_iff.1 h
    rw [ih hrest, trace_receive hfirst, List.append_assoc]
    rfl

/-- A recorder receives a concatenation part by part. -/
theorem receiveAll_append (recorder : Recorder) (xs ys : List Call) :
    recorder.receiveAll (xs ++ ys) = (recorder.receiveAll xs).bind (receiveAll · ys) :=
  List.foldlM_append

/-- Samples that arrive within a group are added to it. -/
theorem receiveAll_emits (groups : List (List (Channel × Sample)))
    (earlier samples : List (Channel × Sample)) :
    receiveAll { groups, current := some earlier }
        (samples.map fun (channel, sample) => .emit channel sample) =
      some { groups, current := some (earlier ++ samples) } := by
  induction samples generalizing earlier with
  | nil =>
    rw [List.append_nil]
    rfl
  | cons sample samples ih =>
    have hrest := ih (earlier ++ [sample])
    rw [List.append_assoc] at hrest
    exact hrest

/-- A complete group is recorded as such. -/
theorem receiveAll_group (groups : List (List (Channel × Sample)))
    (samples : List (Channel × Sample)) :
    receiveAll { groups } (group samples) = some { groups := groups ++ [samples] } := by
  show receiveAll { groups, current := some [] } (_ ++ [.finish]) = _
  rw [receiveAll_append, receiveAll_emits]
  rfl

/-- Groups one behind the other are received one by one. -/
theorem receiveAll_groups (earlier groups : List (List (Channel × Sample))) :
    receiveAll { groups := earlier } (groups.flatMap group) =
      some { groups := earlier ++ groups } := by
  induction groups generalizing earlier with
  | nil =>
    rw [List.append_nil]
    rfl
  | cons samples groups ih =>
    rw [List.flatMap_cons, receiveAll_append, receiveAll_group, Option.bind_some, ih,
      List.append_assoc]
    rfl

end Recorder

/-- Calls are complete groups exactly if a sink that refuses calls out of turn takes all of them and
no group is left incomplete. The sink has then recorded these groups. -/
theorem grouped_iff_recorded : Grouped displays calls ↔ ∃ groups,
    Recorder.receiveAll {} calls = some { groups } ∧ groups.map (·.map Prod.fst) = displays := by
  constructor
  · rintro ⟨groups, rfl, hgroups⟩
    exact ⟨groups, Recorder.receiveAll_groups [] groups, hgroups⟩
  · rintro ⟨groups, hrecorded, hgroups⟩
    refine ⟨groups, ?_, hgroups⟩
    have htrace := Recorder.trace_receiveAll hrecorded
    exact htrace.symm.trans (List.append_nil _)

end Sink

namespace Meter

open Act

variable {ω : Type} {config : Config} {meter : Meter ω} {history : List Event}

/-- The displays that are reported, the main one first. -/
def shown (meter : Meter ω) : List Channel :=
  .primary :: if meter.model?.any (ModelId.supports · .secondary) then [.secondary] else []

/-- The channels that the meter supports are those that it shows. -/
theorem filter_supports (meter : Meter ω) : Channel.all.filter meter.supports = meter.shown := by
  have hprimary : meter.supports .primary = true := by
    unfold supports
    split <;> rfl
  have hsecondary : meter.supports .secondary =
      meter.model?.any (ModelId.supports · .secondary) := by
    unfold supports
    cases meter.model? <;> rfl
  rw [Channel.all, List.filter_cons_of_pos hprimary, List.filter_cons, hsecondary]
  rfl

/-- A display is handed over in one group, with the channels that the meter shows. -/
theorem grouped_displayGroup (meter : Meter ω) (display : Display) :
    Sink.Grouped [meter.shown] (displayGroup meter display) := by
  rw [displayGroup, filter_supports]
  have hgroup := Sink.grouped_group (meter.shown.map fun channel =>
    (channel, ((display.reading channel).interpret display.context channel).toSample))
  rwa [List.map_map, show Prod.fst ∘ _ = id from rfl, List.map_id] at hgroup

/-- Each entry is handed over in a group of its own, with the reading and its number. -/
theorem grouped_entryGroups (context : Context) (entries : List Reading) (start : Nat) :
    Sink.Grouped (List.replicate entries.length [.primary, .secondary])
      (entryGroups context entries start) := by
  induction entries generalizing start with
  | nil => exact Sink.grouped_nil
  | cons entry entries ih => exact (Sink.grouped_group _).append (ih (start + 1))

variable [Wire ω]

/-! ## Single operations -/

/-- A live poll hands over one group if it has sampled, and none otherwise. -/
theorem Reached.pollLive_grouped (h : Reached Link.Coherent config meter history) :
    let outcome := Meter.pollLive.run meter
    (outcome.ending = .returned .sampled → Sink.Grouped [meter.shown] (sunk outcome.events)) ∧
      (outcome.ending ≠ .returned .sampled → sunk outcome.events = []) := by
  intro outcome
  obtain ⟨_, _, groups, -, hstanding, hgroups⟩ :=
    pollLive_spec lasting_coherent h.2.1 meter [] h.afresh
  have hsunk : sunk outcome.events = groups := hstanding.plain.2
  rw [hsunk]
  rcases hgroups with ⟨hending, rfl⟩ | ⟨hending, display, rfl, -⟩
  · exact ⟨fun hsampled => absurd hsampled hending, fun _ => rfl⟩
  · exact ⟨fun _ => grouped_displayGroup meter display, fun hother => absurd hending hother⟩

/-- A poll of a storage hands over as many groups as the playback position goes on. There is one at
least if it has sampled, and none unless it has sampled or finished. -/
theorem Reached.pollStorage_grouped (h : Reached Link.Coherent config meter history)
    (patience : Nat) (kind : Storage.Kind) :
    let outcome := (Meter.pollStorage patience kind).run meter
    ∃ count, Sink.Grouped (List.replicate count [.primary, .secondary]) (sunk outcome.events) ∧
      outcome.state.poll.cursor = meter.position kind + count ∧
      (outcome.ending = .returned .sampled → 0 < count) ∧
      (0 < count → outcome.ending = .returned .sampled ∨ outcome.ending = .returned .finished) := by
  intro outcome
  obtain ⟨poll, _, entries, -, -, -, hmoved, hplayed, hentries⟩ :=
    pollStorage_spec lasting_coherent h.2.1 h.2.2 patience kind meter [] h.afresh
  have hsunk : sunk outcome.events =
      entryGroups meter.context entries (meter.position kind) := hplayed.plain.2
  have hcursor : outcome.state.poll.cursor = poll.cursor := congrArg Poll.cursor hplayed.alike.poll
  refine ⟨entries.length, ?_, hcursor.trans hmoved, ?_⟩
  · rw [hsunk]
    exact grouped_entryGroups _ _ _
  -- a poll that hands over entries samples or finishes
  rcases hentries with ⟨rfl, hsampled, -⟩ | ⟨_, _, _, -, -, -, -, -, hnonempty, hending⟩
  · exact ⟨fun heq => absurd heq hsampled, fun hpos => absurd hpos (Nat.lt_irrefl 0)⟩
  · refine ⟨fun _ => List.length_pos_iff.2 hnonempty, fun _ => ?_⟩
    rw [show outcome.ending = _ from hending]
    split
    · exact .inr rfl
    · exact .inl rfl

omit [Wire ω] in
/-- The operation is a poll. -/
def Operation.isPoll : Operation → Bool
  | .call made => !made.isBlocking
  | .stop => false

/-- Whatever is no poll hands nothing over. -/
theorem Reached.sunk_eq_nil (h : Reached Link.Coherent config meter history) (patience : Nat)
    {operation : Operation} (hpoll : operation.isPoll = false) :
    sunk ((operation.act patience).run meter).events = [] := by
  rcases operation with call | _
  · have hcall : call.isBlocking = true := by simpa [Operation.isPoll] using hpoll
    obtain ⟨_, _, _, -, hstanding⟩ :=
      blocking_spec lasting_coherent h.2.2 patience hcall meter [] h.afresh
    exact hstanding.plain.2
  · exact (stop_spec keeps_coherent_reset patience meter [] h.afresh).plain.2

/-! ## Runs -/

omit [Wire ω] in
/-- The calls are complete groups of one or two samples, the first from the main display. -/
def InTurn (calls : List Sink.Call) : Prop :=
  ∃ displays, Sink.Grouped displays calls ∧
    ∀ shown ∈ displays, shown = [.primary] ∨ shown = [.primary, .secondary]

omit [Wire ω] in
/-- Calls in turn, one behind the other, are in turn. -/
theorem InTurn.append {calls calls' : List Sink.Call} (h : InTurn calls) (h' : InTurn calls') :
    InTurn (calls ++ calls') := by
  obtain ⟨displays, hgrouped, hshown⟩ := h
  obtain ⟨displays', hgrouped', hshown'⟩ := h'
  exact ⟨displays ++ displays', hgrouped.append hgrouped', fun shown hmem =>
    (List.mem_append.1 hmem).elim (hshown shown) (hshown' shown)⟩

omit [Wire ω] in
theorem inTurn_nil : InTurn [] := ⟨[], Sink.grouped_nil, nofun⟩

omit [Wire ω] in
/-- Every meter shows the primary display, and some show the secondary one, too. -/
theorem shown_eq (meter : Meter ω) :
    meter.shown = [.primary] ∨ meter.shown = [.primary, .secondary] := by
  unfold shown
  split
  · exact .inr rfl
  · exact .inl rfl

/-- One operation hands over complete groups, whatever it comes to. -/
theorem Reached.inTurn_operation (h : Reached Link.Coherent config meter history) (patience : Nat)
    (operation : Operation) : InTurn (sunk ((operation.act patience).run meter).events) := by
  -- only polls hand anything over
  cases hpoll : operation.isPoll with
  | false =>
    rw [h.sunk_eq_nil patience hpoll]
    exact inTurn_nil
  | true =>
    rcases operation with (_ | _ | _ | _ | _ | kind) | _
    case call.pollLive =>
      show InTurn (sunk (Meter.pollLive.discard.run meter).events)
      rw [(run_discard Meter.pollLive meter).2]
      obtain ⟨hsampled, hother⟩ := h.pollLive_grouped
      by_cases hending : (Meter.pollLive.run meter).ending = .returned .sampled
      · refine ⟨_, hsampled hending, fun shown hmem => ?_⟩
        rw [List.mem_singleton.1 hmem]
        exact shown_eq meter
      · rw [hother hending]
        exact inTurn_nil
    case call.pollStorage =>
      show InTurn (sunk ((Meter.pollStorage patience kind).discard.run meter).events)
      rw [(run_discard (Meter.pollStorage patience kind) meter).2]
      obtain ⟨count, hgrouped, -⟩ := h.pollStorage_grouped patience kind
      exact ⟨_, hgrouped, fun shown hmem => .inr (List.eq_of_mem_replicate hmem)⟩
    all_goals cases hpoll

/-- The calls of any run of operations are in turn. -/
theorem inTurn_perform (wire : ω) (config : Config) (operations : List (Nat × Operation)) :
    InTurn (sunk (perform (Meter.new wire config) operations).2) := by
  have hkeeps : ∀ patience (operation : Operation), Keeps (fun (meter : Meter ω) history =>
      Reached Link.Coherent config meter history ∧ InTurn (sunk history))
      (operation.act patience) := by
    rintro patience operation meter history ⟨hreached, hinTurn⟩
    refine ⟨keeps_operation lasting_coherent keeps_coherent_reset patience operation meter history
      hreached, ?_⟩
    rw [sunk_append]
    exact hinTurn.append (hreached.inTurn_operation patience operation)
  -- a session that has not begun is what no operations lead to
  exact (keeps_perform hkeeps ⟨reached_perform wire config [], inTurn_nil⟩ operations).2

/-- After any operations over any wire, whatever each of them came to, the calls on the sink are
complete groups of one or two samples, the first from the main display, and a sink that refuses
calls out of turn has recorded these groups. A live poll hands over one group if it has sampled,
with a sample from the sub display exactly if the model has one to report, and nothing otherwise. A
poll of a storage hands over as many groups as the playback position goes on, each with a sample
from both displays: one at least if it has sampled, and none unless it has sampled or finished. All
other operations hand nothing over. -/
theorem run_grouped (wire : ω) (config : Config) (operations : List (Nat × Operation)) :
    let meter := (perform (Meter.new wire config) operations).1
    let history := (perform (Meter.new wire config) operations).2
    (∃ displays, Sink.Grouped displays (sunk history) ∧
      (∀ shown ∈ displays, shown = [.primary] ∨ shown = [.primary, .secondary]) ∧
      ∃ groups, Sink.Recorder.receiveAll {} (sunk history) = some { groups } ∧
        groups.map (·.map Prod.fst) = displays) ∧
    (let outcome := Meter.pollLive.run meter
     (outcome.ending = .returned .sampled → Sink.Grouped [meter.shown] (sunk outcome.events)) ∧
       (outcome.ending ≠ .returned .sampled → sunk outcome.events = [])) ∧
    (∀ patience kind,
      let outcome := (Meter.pollStorage patience kind).run meter
      ∃ count, Sink.Grouped (List.replicate count [.primary, .secondary]) (sunk outcome.events) ∧
        outcome.state.poll.cursor = meter.position kind + count ∧
        (outcome.ending = .returned .sampled → 0 < count) ∧
        (0 < count → outcome.ending = .returned .sampled ∨
          outcome.ending = .returned .finished)) ∧
    ∀ patience (operation : Operation), operation.isPoll = false →
      sunk ((operation.act patience).run meter).events = [] := by
  intro meter history
  have hreached := reached_perform wire config operations
  obtain ⟨displays, hgrouped, hshown⟩ := inTurn_perform wire config operations
  exact ⟨⟨displays, hgrouped, hshown, Sink.grouped_iff_recorded.1 hgrouped⟩,
    hreached.pollLive_grouped, hreached.pollStorage_grouped,
    fun patience operation => hreached.sunk_eq_nil patience⟩

/-- A meter with a sub display, which identifies itself, shows nothing, and then sends twelve of the
fourteen entries of a storage. -/
def sampling : ScriptedWire :=
  let answers : List Frame := [(Response.information twoHundredSeries).frame,
    ⟨.readDisplay, List.replicate 12 0, by decide⟩, ⟨.readMemory, [0, 1, 0, 14, 0, 0], by decide⟩,
    ⟨.readMemory, List.replicate 60 0, by decide⟩]
  { replies := answers.map fun answer => [.bytes answer.encode] }

/-- Both kinds of polls sample, the live one with both displays. -/
theorem run_grouped_of_sampling :
    let known : List (Nat × Operation) := [(1, .call .identify)]
    let live := Meter.pollLive.run (perform (Meter.new sampling {}) known).1
    let shown := known ++ [(1, .call .pollLive)]
    let stored := (Meter.pollStorage 1 .log).run (perform (Meter.new sampling {}) shown).1
    live.ending = .returned .sampled ∧ Sink.Grouped [[.primary, .secondary]] (sunk live.events) ∧
      stored.ending = .returned .sampled ∧ ∃ count, 0 < count ∧
        Sink.Grouped (List.replicate count [.primary, .secondary]) (sunk stored.events) := by
  have hlive : (Meter.pollLive.run (perform (Meter.new sampling {})
      [(1, .call .identify)]).1).ending = .returned .sampled := by decide +kernel
  have hstored : ((Meter.pollStorage 1 .log).run (perform (Meter.new sampling {})
      [(1, .call .identify), (1, .call .pollLive)]).1).ending = .returned .sampled := by
    decide +kernel
  have hshown : (perform (Meter.new sampling {}) [(1, .call .identify)]).1.shown =
      [.primary, .secondary] := by decide +kernel
  intro known live shown stored
  have hgroup := (run_grouped sampling {} known).2.1.1 hlive
  obtain ⟨count, hgroups, -, hcount, -⟩ := (run_grouped sampling {} shown).2.2.1 1 .log
  rw [show Meter.shown _ = _ from hshown] at hgroup
  exact ⟨hlive, hgroup, hstored, count, hcount hstored, hgroups⟩

end Meter

end Multimeter
