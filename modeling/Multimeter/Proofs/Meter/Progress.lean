import Multimeter.Proofs.Answering.Meter
import Multimeter.Proofs.Meter.Operations
import Multimeter.Proofs.Storage.Entries
/-!
# Progress of a playback

Over any wire, a playback hands over each entry once and in order, and none beyond those that can be
read. Whatever goes wrong leaves the position where it is.

* `Poll.Within`: the position and the window stay within the entries that can be read.
* `pollStorage_within`, `pollStorage_finished`: what one poll of a storage keeps, and when it is
  through.
* `Playing`: what holds from the start of a playback on, as long as nothing else is polled.
* `Reached.pollStorage_entries`, `Reached.pollStorage_still`: what one poll hands over.
* `Playing.pollStorage_finished_iff`: when it finishes.
* `run_progress`: what has been handed over by any poll of a playback, and what that poll did.
-/

namespace Multimeter

/-- The sample of the sub display, if the call hands one over. -/
def Sink.Call.secondary? : Sink.Call → Option Sample
  | .emit .secondary sample => some sample
  | _ => none

/-- The samples of the sub display that are handed over, in order. -/
def secondaries (calls : List Sink.Call) : List Sample := calls.filterMap Sink.Call.secondary?

/-- The numbers that a concatenation hands over are those of its parts. -/
@[simp]
theorem secondaries_append (xs ys : List Sink.Call) :
    secondaries (xs ++ ys) = secondaries xs ++ secondaries ys :=
  List.filterMap_append

namespace Poll

variable {amount budget count : Nat} {poll : Poll} {kind : Storage.Kind} {info : Storage.Info}
  {window : Storage.Window} {request : Request}

/-- The playback position is not behind the first `amount` entries, and neither is the window. -/
structure Within (amount : Nat) (poll : Poll) : Prop where
  /-- The next entry to play back is among the first `amount`, or just behind them. -/
  cursor_le : poll.cursor ≤ amount
  /-- The entries that are asked for are among the first `amount`. -/
  window_le : ∀ window, poll.window = some window → poll.cursor + window.count.toNat ≤ amount

/-- A window that was planned does not reach beyond the last entry. -/
theorem Within.withWindow (h : poll.Within info.readable) (hlayout : info.HasLayout kind)
    (hchooses : poll.Chooses info window) :
    ({ poll with window := some window } : Poll).Within info.readable := by
  refine ⟨h.cursor_le, fun window' heq => ?_⟩
  obtain rfl : window = window' := Option.some.inj heq
  rcases hchooses with hsome | ⟨-, hplan⟩
  · exact h.window_le window hsome
  · -- no more entries are planned for than are left
    rw [hlayout.plan_eq] at hplan
    have hcount := (Storage.Info.plan_spec hplan).2
    have hcursor := h.cursor_le
    show poll.cursor + window.count.toNat ≤ info.readable
    omega

/-- A poll for an answer leaves the playback within the entries that can be read. -/
theorem Within.after (h : poll.Within amount) {ending : Ending (Option Response)} {after : Poll}
    (hafter : poll.After request budget ending after) : after.Within amount := by
  match ending, hafter with
  | .returned (some _), hafter =>
    rw [hafter]
    exact ⟨h.cursor_le, h.window_le⟩
  | .returned none, ⟨_, hafter⟩ =>
    rw [hafter]
    exact ⟨h.cursor_le, h.window_le⟩
  | .failed _, .inl ⟨_, hafter⟩ =>
    rw [hafter]
    exact h
  | .failed _, .inr hafter =>
    rw [hafter]
    exact ⟨h.cursor_le, nofun⟩

/-- The position does not leave the window whose entries were played. -/
theorem Within.played (h : poll.Within amount) (hwindow : poll.window = some window)
    (hcount : count ≤ window.count.toNat) :
    ({ poll with window := none, cursor := poll.cursor + count } : Poll).Within amount := by
  refine ⟨?_, nofun⟩
  have hle := h.window_le window hwindow
  show poll.cursor + count ≤ amount
  omega

/-- Turning to the storage that is played back already changes nothing. -/
theorem turnTo_of_playback (h : poll.playback = some kind) : poll.turnTo kind = poll := if_pos h

end Poll

namespace Meter

open Act

variable {ω : Type} {config : Config} {kind : Storage.Kind} {info : Storage.Info}

/-- The entries handed over are numbered one after the other. -/
theorem secondaries_entryGroups (context : Context) (entries : List Reading) (start : Nat) :
    secondaries (entryGroups context entries start) =
      (List.range' start entries.length).map Sample.entryNumber := by
  induction entries generalizing start with
  | nil => rfl
  | cons entry entries ih =>
    have hcons : entryGroups context (entry :: entries) start =
        entryGroup context entry start ++ entryGroups context entries (start + 1) := rfl
    rw [hcons, secondaries_append, ih, List.length_cons, List.range'_succ, List.map_cons]
    rfl

/-- The entry at which polling a storage goes on: the playback position, or the first entry if
another storage or none is played back. -/
def position (kind : Storage.Kind) (meter : Meter ω) : Nat := (meter.poll.turnTo kind).cursor

/-- The position in the storage that is played back is the cursor. -/
theorem position_of_playback {meter : Meter ω} (h : meter.poll.playback = some kind) :
    meter.position kind = meter.poll.cursor := by
  rw [position, Poll.turnTo_of_playback h]

variable [Wire ω] {inv : Link ω → List Event → Prop} {calls : List Sink.Call} {known : Meter ω}

/-! ## One poll -/

/-- A playback that is through does nothing more. -/
theorem run_playNext_of_le {meter : Meter ω} (h : info.readable ≤ meter.poll.cursor) :
    (playNext kind info).run meter =
      { ending := .returned .finished, state := meter, events := [] } := by
  rw [playNext, run_get_bind]
  simp [h]

/-- A storage that is known is not read again. -/
theorem run_storageOrRead_of_known {meter : Meter ω} (hinfo : meter.storage? kind = some info)
    (patience : Nat) :
    (storageOrRead patience kind).run meter =
      { ending := .returned info, state := meter, events := [] } := by
  rw [storageOrRead, run_get_bind]
  simp [hinfo]

/-- A poll of a known storage begins with the look at the playback. -/
theorem run_pollStorage_of_known {meter : Meter ω} (hinfo : meter.storage? kind = some info)
    (patience : Nat) :
    (pollStorage patience kind).run meter =
      (playNext kind info).run { meter with poll := meter.poll.turnTo kind } := by
  have hturned : ({ meter with poll := meter.poll.turnTo kind } : Meter ω).storage? kind =
      some info := hinfo
  have hstorage := run_storageOrRead_of_known hturned patience
  rw [pollStorage, changePoll, run_modify_bind]
  refine (run_bind_of_returned (congrArg Outcome.ending hstorage)).trans ?_
  rw [hstorage]
  rfl

/-- A poll behind the last entry finishes at once, without any event. -/
theorem run_pollStorage_of_le {meter : Meter ω} (hinfo : meter.storage? kind = some info)
    (h : info.readable ≤ meter.position kind) (patience : Nat) :
    (pollStorage patience kind).run meter =
      { ending := .returned .finished, state := { meter with poll := meter.poll.turnTo kind }
        events := [] } :=
  (run_pollStorage_of_known hinfo patience).trans (run_playNext_of_le h)

/-- A storage that is known is returned, and the session stands as before. -/
theorem storageOrRead_of_known (hinfo : known.storage? kind = some info) (patience : Nat) :
    Ensures (Standing inv config calls known) (storageOrRead patience kind)
      (Returns info (Standing inv config calls known)) := by
  intro meter history h
  rw [run_storageOrRead_of_known ((h.alike.storage?_eq kind).trans hinfo), List.append_nil]
  exact ⟨rfl, h⟩

/-- A poll behind the last entry finishes, and only turns to the storage. -/
theorem pollStorage_of_le (hinfo : known.storage? kind = some info)
    (h : info.readable ≤ known.position kind) (patience : Nat) :
    Ensures (Standing inv config calls known) (pollStorage patience kind)
      (Returns .finished
        (Standing inv config calls { known with poll := known.poll.turnTo kind })) := by
  intro meter history hstanding
  have hposition : meter.position kind = known.position kind := by
    rw [position, hstanding.alike.poll, position]
  rw [run_pollStorage_of_le ((hstanding.alike.storage?_eq kind).trans hinfo) (hposition ▸ h),
    List.append_nil]
  exact ⟨rfl, hstanding.changePoll (Poll.turnTo kind)⟩

/-- A look at a playback keeps it within the entries that can be read. -/
theorem playNext_within (hinv : Link.Lasting inv) (hsound : known.poll.Sound config.budget)
    (hkind : known.poll.playback = some kind) (hlayout : info.HasLayout kind) :
    Ensures (Standing inv config calls known) (playNext kind info) fun _ meter _ =>
      meter.storage? kind = known.storage? kind ∧
        (known.poll.Within info.readable → meter.poll.Within info.readable) := by
  -- wherever the poll ends, nothing new is known of the storages
  have hend {poll : Poll} {calls : List Sink.Call} {meter : Meter ω} {history : List Event}
      (h : Standing inv config calls { known with poll } meter history)
      (hpoll : known.poll.Within info.readable → poll.Within info.readable) :
      meter.storage? kind = known.storage? kind ∧
        (known.poll.Within info.readable → meter.poll.Within info.readable) :=
    ⟨h.alike.storage?_eq kind, fun hwithin => h.alike.poll ▸ hpoll hwithin⟩
  refine playNext_cases hinv hsound hkind hlayout (fun _ _ _ h => hend h id)
    (fun _ _ _ h => hend h id) (fun window hchooses _ _ found _ _ _ _ _ h => ?_)
    fun window hchooses hcovers _ block => ?_
  · obtain ⟨⟨poll, hafter, hstanding⟩, -⟩ := h
    exact hend hstanding fun hwithin => (hwithin.withWindow hlayout hchooses).after hafter
  · refine (playBlock_spec hinv.toQuiet hcovers.count_pos block).weaken (fun _ _ h => h.1)
      fun ending meter history h => ?_
    obtain ⟨entries, rfl, hplayed, -⟩ := h
    refine hend hplayed fun hwithin => ?_
    obtain ⟨hcursor, hwindow⟩ := hwithin.withWindow hlayout hchooses
    have hsettled : ({ known.poll with window := some window, pending := none, polls := 0 } :
        Poll).Within info.readable := ⟨hcursor, hwindow⟩
    exact hsettled.played rfl (List.length_take_le _ _)

/-- A poll of a storage keeps the playback within the entries that can be read, as they are known
afterwards. -/
theorem pollStorage_within (hinv : Link.Lasting inv) (hsound : known.poll.Sound config.budget)
    (hknown : LaidOut known.storages) (hwithin : (known.poll.turnTo kind).Within info.readable)
    (patience : Nat) :
    Ensures (Standing inv config calls known) (pollStorage patience kind) fun _ meter _ =>
      (∀ other, meter.storage? kind = some other → other = info) →
        meter.poll.Within info.readable := by
  refine pollStorage_cases hinv hknown patience kind (fun _ _ _ _ _ h _ => h.alike.poll ▸ hwithin)
    fun storages other _ hother hlayout => ?_
  let turned : Meter ω := { known with poll := known.poll.turnTo kind, storages }
  have hsoundTurned : turned.poll.Sound config.budget := hsound.turnTo kind
  refine (playNext_within hinv hsoundTurned (known.poll.playback_turnTo kind) hlayout).weaken
    (fun _ _ h => h) fun _ meter _ h hinfo => ?_
  -- the storage that was played is the one that is known afterwards
  obtain rfl : other = info := hinfo other (h.1.trans hother)
  exact h.2 hwithin

/-- A poll of a playback that is through finishes, once the storage is known. -/
theorem pollStorage_finished (hinv : Link.Lasting inv) (hsound : known.poll.Sound config.budget)
    (hknown : LaidOut known.storages) (patience : Nat) :
    Ensures (Standing inv config calls known) (pollStorage patience kind) fun ending meter _ =>
      ∀ info, meter.storage? kind = some info → info.readable ≤ known.position kind →
        ending = .returned .finished := by
  refine pollStorage_cases hinv hknown patience kind (fun hnone _ meter _ _ h info hinfo => ?_)
    fun storages other _ hother hlayout => ?_
  · have hmeter : meter.storage? kind = none := (h.alike.storage?_eq kind).trans hnone
    rw [hinfo] at hmeter
    cases hmeter
  · let turned : Meter ω := { known with poll := known.poll.turnTo kind, storages }
    have hsoundTurned : turned.poll.Sound config.budget := hsound.turnTo kind
    intro meter history h info hinfo hle
    obtain ⟨hstorage, -⟩ := playNext_within hinv hsoundTurned (known.poll.playback_turnTo kind)
      hlayout meter history h
    obtain rfl : other = info := Option.some.inj ((hstorage.trans hother).symm.trans hinfo)
    have hposition : other.readable ≤ meter.poll.cursor := by
      rw [h.alike.poll]
      exact hle
    rw [run_playNext_of_le hposition]

/-! ## Runs -/

omit [Wire ω] in
/-- A session that was reached may be looked at from here on. -/
theorem Reached.afresh {meter : Meter ω} {history : List Event}
    (h : Reached Link.Coherent config meter history) :
    Standing Link.Coherent config [] meter meter [] :=
  ⟨h.1.link, ⟨h.1.plain.1, rfl⟩, rfl, rfl, rfl, rfl⟩

/-- The operation does not end the playback of the storage: it polls that storage, or it waits for
its answer. -/
def Operation.Continues (kind : Storage.Kind) : Operation → Prop
  | .call (.pollStorage other) => other = kind
  | .call made => made.isBlocking = true
  | .stop => False

omit [Wire ω] in
/-- What holds since the playback of a storage began: the entries up to the position were handed
over in order, and the playback is within those that can be read. -/
structure Playing (kind : Storage.Kind) (info : Storage.Info) (config : Config) (meter : Meter ω)
    (history : List Event) : Prop where
  /-- The session was reached. -/
  reached : Reached Link.Coherent config meter history
  /-- Each entry up to the position was handed over once, in order. -/
  numbered : secondaries (sunk history) =
    (List.range (meter.position kind)).map Sample.entryNumber
  /-- The playback is within the entries that can be read. -/
  within : (meter.poll.turnTo kind).Within info.readable

omit [Wire ω] in
/-- While the storage is played back, the position is not behind the last entry that can be read. -/
theorem Playing.cursor_le {meter : Meter ω} {history : List Event}
    (h : Playing kind info config meter history) (hkind : meter.poll.playback = some kind) :
    meter.poll.cursor ≤ info.readable := by
  have hposition := h.within.cursor_le
  rwa [Poll.turnTo_of_playback hkind] at hposition

omit [Wire ω] in
/-- A storage that is not played back yet is played from its first entry on. -/
theorem Reached.playing {meter : Meter ω} {history : List Event}
    (h : Reached Link.Coherent config meter history) (hkind : meter.poll.playback ≠ some kind) :
    Playing kind info config meter [] := by
  have hturn : meter.poll.turnTo kind =
      { meter.poll.clear with playback := some kind, cursor := 0 } := if_neg hkind
  refine ⟨⟨h.afresh, h.2⟩, ?_, ?_⟩
  · rw [position, hturn]
    rfl
  · rw [hturn]
    exact ⟨Nat.zero_le _, nofun⟩

/-- One poll of a storage, wherever the session stands: either it hands over nothing and the
position stays, or it hands over entries of a block that it received and the position goes behind
them. -/
theorem Reached.pollStorage_moves {meter : Meter ω} {history : List Event}
    (h : Reached Link.Coherent config meter history) (patience : Nat) (kind : Storage.Kind) :
    let outcome := (Meter.pollStorage patience kind).run meter
    let cursor := outcome.state.poll.cursor
    ∃ entries, outcome.state.poll.playback = some kind ∧
      cursor = meter.position kind + entries.length ∧
      sunk outcome.events = entryGroups meter.context entries (meter.position kind) ∧
      (entries = [] ∧ outcome.ending ≠ .returned .sampled ∧
          (outcome.ending = .returned .finished →
            ∃ info, outcome.state.storage? kind = some info ∧ info.readable ≤ cursor) ∨
        ∃ (info : Storage.Info) (window : Storage.Window) (block : Payload),
          outcome.state.storage? kind = some info ∧ (meter.poll.turnTo kind).Chooses info window ∧
          Answered (.readMemory window.request) (.memory block) outcome.events ∧
          entries = (kind.layout.entries block.bytes).take window.count.toNat ∧
          outcome.ending = .returned (if info.readable ≤ cursor then .finished else .sampled)) := by
  intro outcome cursor
  -- the specification of a poll, read in a session that begins here
  obtain ⟨poll, _, entries, -, -, hkind, hmoved, hplayed, hentries⟩ :=
    pollStorage_spec lasting_coherent h.2.1 h.2.2 patience kind meter [] h.afresh
  have hpoll : outcome.state.poll = poll := hplayed.alike.poll
  have hcursor : cursor = poll.cursor := congrArg Poll.cursor hpoll
  refine ⟨entries, by rw [hpoll, hkind], hcursor.trans hmoved, hplayed.plain.2, ?_⟩
  rw [← hcursor] at hentries
  rcases hentries with hnone | ⟨window, block, info, hinfo, hchooses, -, hanswered, htaken, -,
    hending⟩
  · exact .inl hnone
  · exact .inr ⟨info, window, block, hinfo, hchooses, hanswered, htaken, hending⟩

/-- The entries that a poll of a storage hands over begin where the position was. There are no more
of them than its window asks for, and each is the record at its place in the block that was
received. -/
theorem Reached.pollStorage_entries {meter : Meter ω} {history : List Event}
    (h : Reached Link.Coherent config meter history) (patience : Nat)
    (hinfo : ∀ other,
      ((Meter.pollStorage patience kind).run meter).state.storage? kind = some other →
        other = info) :
    let outcome := (Meter.pollStorage patience kind).run meter
    ∃ entries, outcome.state.poll.cursor = meter.position kind + entries.length ∧
      sunk outcome.events = entryGroups meter.context entries (meter.position kind) ∧
      (entries = [] ∨ ∃ (window : Storage.Window) (block : Payload),
        (meter.poll.turnTo kind).Chooses info window ∧
        Answered (.readMemory window.request) (.memory block) outcome.events ∧
        entries.length = min window.count.toNat (block.length / Reading.size) ∧
        ∀ (index : Nat) (h : index < entries.length),
          Reading.decode? ((block.bytes.drop (index * Reading.size)).take Reading.size) =
            some entries[index]) := by
  intro outcome
  obtain ⟨entries, -, hmoved, hsunk, hentries⟩ := h.pollStorage_moves patience kind
  refine ⟨entries, hmoved, hsunk, ?_⟩
  rcases hentries with ⟨hnone, -⟩ | ⟨other, window, block, hstored, hchooses, hanswered, rfl, -⟩
  · exact .inl hnone
  · obtain rfl : other = info := hinfo other hstored
    refine .inr ⟨window, block, hchooses, hanswered, ?_, fun index hindex => ?_⟩
    · rw [List.length_take, kind.length_entries]
    · -- what is taken of the entries is their beginning
      rw [List.getElem_take]
      exact kind.decode?_entries block _

/-- A poll of a storage that has neither sampled nor finished hands over nothing and leaves the
position where it is. -/
theorem Reached.pollStorage_still {meter : Meter ω} {history : List Event}
    (h : Reached Link.Coherent config meter history) (patience : Nat) (kind : Storage.Kind)
    (hsampled : ((Meter.pollStorage patience kind).run meter).ending ≠ .returned .sampled)
    (hfinished : ((Meter.pollStorage patience kind).run meter).ending ≠ .returned .finished) :
    let outcome := (Meter.pollStorage patience kind).run meter
    outcome.state.poll.cursor = meter.position kind ∧ sunk outcome.events = [] := by
  intro outcome
  obtain ⟨entries, -, hmoved, hsunk, hentries⟩ := h.pollStorage_moves patience kind
  rcases hentries with ⟨rfl, -⟩ | ⟨info, -, -, -, -, -, -, hending⟩
  · exact ⟨hmoved, hsunk⟩
  · -- a poll with entries samples or finishes
    split at hending
    · exact absurd hending hfinished
    · exact absurd hending hsampled

/-- What an operation does not poll for stays in flight and is not handed over. -/
theorem Playing.after_blocking {meter : Meter ω} {history : List Event}
    (h : Playing kind info config meter history) (patience : Nat) {call : Call}
    (hcall : call.isBlocking = true) :
    let outcome := (call.act patience).run meter
    Playing kind info config outcome.state (history ++ outcome.events) := by
  intro outcome
  have hkept := keeps_call lasting_coherent patience call meter history h.reached
  obtain ⟨_, _, _, -, hstanding⟩ :=
    blocking_spec lasting_coherent h.reached.2.2 patience hcall meter [] h.reached.afresh
  have hpoll : outcome.state.poll = meter.poll := hstanding.alike.poll
  have hsunk : sunk outcome.events = [] := hstanding.plain.2
  refine ⟨hkept, ?_, ?_⟩
  · rw [sunk_append, hsunk, List.append_nil, position, hpoll]
    exact h.numbered
  · rw [hpoll]
    exact h.within

/-- Where one poll of a storage leaves the playback. -/
theorem Playing.after_pollStorage {meter : Meter ω} {history : List Event}
    (h : Playing kind info config meter history) (patience : Nat)
    (hinfo : ∀ other,
      ((Meter.pollStorage patience kind).run meter).state.storage? kind = some other →
        other = info) :
    let outcome := (Meter.pollStorage patience kind).run meter
    outcome.state.poll.playback = some kind ∧
      Playing kind info config outcome.state (history ++ outcome.events) := by
  intro outcome
  obtain ⟨hstanding, hsound, hlaid⟩ := h.reached
  have hkept := keeps_call lasting_coherent patience (.pollStorage kind) meter history h.reached
  obtain ⟨hstate, hevents⟩ := run_discard (Meter.pollStorage patience kind) meter
  have hreached : Reached Link.Coherent config outcome.state (history ++ outcome.events) := by
    rw [← hstate, ← hevents]
    exact hkept
  obtain ⟨entries, hplayback, hcursor, hsunk, -⟩ := h.reached.pollStorage_moves patience kind
  have hposition : outcome.state.position kind = meter.position kind + entries.length :=
    (position_of_playback hplayback).trans hcursor
  refine ⟨hplayback, hreached, ?_, ?_⟩
  · -- the numbers handed over by this poll follow those handed over before
    have hsunk : sunk outcome.events =
        entryGroups meter.context entries (meter.position kind) := hsunk
    rw [sunk_append, secondaries_append, h.numbered, hsunk, secondaries_entryGroups, hposition,
      ← List.map_append, List.range_eq_range', List.range_eq_range', ← List.range'_append_1,
      Nat.zero_add]
  · rw [Poll.turnTo_of_playback hplayback]
    exact pollStorage_within lasting_coherent hsound hlaid h.within patience meter []
      h.reached.afresh hinfo

/-- Once the storage is known, a poll of its playback finishes just when the position has reached
the last entry. -/
theorem Playing.pollStorage_finished_iff {meter : Meter ω} {history : List Event}
    (h : Playing kind info config meter history) (patience : Nat)
    (hinfo : ∀ other,
      ((Meter.pollStorage patience kind).run meter).state.storage? kind = some other →
        other = info)
    (hknown : ((Meter.pollStorage patience kind).run meter).state.storage? kind = some info) :
    let outcome := (Meter.pollStorage patience kind).run meter
    outcome.ending = .returned .finished ↔ outcome.state.poll.cursor = info.readable := by
  intro outcome
  have hbound :=
    (h.after_pollStorage patience hinfo).2.cursor_le (h.after_pollStorage patience hinfo).1
  obtain ⟨entries, -, hmoved, -, hentries⟩ := h.reached.pollStorage_moves patience kind
  rcases hentries with ⟨rfl, -, hstill⟩ | ⟨other, window, block, hstored, -, -, -, hending⟩
  · refine ⟨fun hfinished => ?_, fun hreadable => ?_⟩
    · obtain ⟨other, hstored, hle⟩ := hstill hfinished
      obtain rfl : other = info := hinfo other hstored
      exact Nat.le_antisymm hbound hle
    · -- the position was at the last entry before
      have hle : info.readable ≤ meter.position kind :=
        Nat.le_of_eq (hreadable.symm.trans hmoved)
      exact pollStorage_finished lasting_coherent h.reached.2.1 h.reached.2.2 patience meter []
        h.reached.afresh info hknown hle
  · obtain rfl : other = info := hinfo other hstored
    refine ⟨fun hfinished => ?_, fun hreadable => ?_⟩
    · have hstatus := Ending.returned.inj (hending.symm.trans hfinished)
      split at hstatus
      · exact Nat.le_antisymm hbound ‹_›
      · cases hstatus
    · rw [show outcome.ending = _ from hending, if_pos (Nat.le_of_eq hreadable.symm)]

/-- An operation that does not end a playback keeps what holds since it began. -/
theorem Playing.after_operation {meter : Meter ω} {history : List Event}
    (h : Playing kind info config meter history) (patience : Nat) {operation : Operation}
    (hoperation : operation.Continues kind)
    (hinfo : ∀ other, ((operation.act patience).run meter).state.storage? kind = some other →
      other = info) :
    let outcome := (operation.act patience).run meter
    Playing kind info config outcome.state (history ++ outcome.events) := by
  rcases operation with call | _
  · rcases call with _ | _ | _ | _ | _ | other
    case pollStorage =>
      obtain rfl : other = kind := hoperation
      obtain ⟨hstate, hevents⟩ := run_discard (Meter.pollStorage patience other) meter
      show Playing other info config ((Meter.pollStorage patience other).discard.run meter).state
        (history ++ ((Meter.pollStorage patience other).discard.run meter).events)
      rw [hstate, hevents]
      refine (h.after_pollStorage patience fun other hother => hinfo other ?_).2
      exact (congrArg (storage? · _) hstate).trans hother
    all_goals exact h.after_blocking patience hoperation
  · exact hoperation.elim

/-- Operations that do not end a playback keep what holds since it began, as long as no more and no
less can be read. -/
theorem Playing.after_perform {meter : Meter ω} {history : List Event}
    (h : Playing kind info config meter history) {run : List (Nat × Operation)}
    (hrun : ∀ step ∈ run, step.2.Continues kind)
    (hinfo : ∀ before, before <+: run → ∀ other,
      (Meter.perform meter before).1.storage? kind = some other → other = info) :
    Playing kind info config (Meter.perform meter run).1
      (history ++ (Meter.perform meter run).2) := by
  induction run generalizing meter history with
  | nil => simpa [Meter.perform, runAll] using h
  | cons step run ih =>
    obtain ⟨patience, operation⟩ := step
    obtain ⟨hoperation, hrest⟩ := List.forall_mem_cons.1 hrun
    -- the first operation is a beginning of the run, and so is it with a beginning of the rest
    have hnext := h.after_operation patience hoperation (hinfo [(patience, operation)] (by simp))
    have hlast := ih hnext hrest fun before hbefore =>
      hinfo ((patience, operation) :: before) (List.cons_prefix_cons.2 ⟨rfl, hbefore⟩)
    rw [List.append_assoc] at hlast
    exact hlast

/-- One more operation runs where the others have left the session. -/
theorem perform_concat (meter : Meter ω) (run : List (Nat × Operation)) (patience : Nat)
    (operation : Operation) :
    (perform meter (run ++ [(patience, operation)])).1 =
      ((operation.act patience).run (perform meter run).1).state := by
  induction run generalizing meter with
  | nil => rfl
  | cons step run ih => exact ih ((step.2.act step.1).run meter).state

/-- Take any session, over any wire, that does not play back the storage, and from there on polls of
this storage, with calls that wait for their answers in between and whatever each of them comes to,
as long as the same can be read of the storage whenever it is known.

By any of these polls, the numbers handed over since then are those of the entries up to the
playback position, in order. The position never goes back, nor beyond the last entry that can be
read. The poll hands over entries from where the position was: no more than its window asks for,
each the record at its place in the block that the poll received. A poll that has neither sampled
nor finished hands over nothing. Once the storage is known, a poll finishes just when the position
has reached the last entry, and from then on a poll does nothing but finish. -/
theorem run_progress (wire : ω) (config : Config) (operations run : List (Nat × Operation))
    (patience : Nat) (kind : Storage.Kind) (info : Storage.Info)
    (hkind : (perform (Meter.new wire config) operations).1.poll.playback ≠ some kind)
    (hrun : ∀ step ∈ run, step.2.Continues kind)
    (hinfo : ∀ before, before <+: run ++ [(patience, .call (.pollStorage kind))] → ∀ other,
      (perform (perform (Meter.new wire config) operations).1 before).1.storage? kind = some other →
        other = info) :
    let start := (perform (Meter.new wire config) operations).1
    let meter := (perform start run).1
    let history := (perform start run).2
    let outcome := (pollStorage patience kind).run meter
    let cursor := outcome.state.poll.cursor
    outcome.state.poll.playback = some kind ∧
    secondaries (sunk (history ++ outcome.events)) = (List.range cursor).map Sample.entryNumber ∧
    (meter.position kind ≤ cursor ∧ cursor ≤ info.readable) ∧
    (∃ entries, cursor = meter.position kind + entries.length ∧
      sunk outcome.events = entryGroups meter.context entries (meter.position kind) ∧
      (entries = [] ∨ ∃ (window : Storage.Window) (block : Payload),
        (meter.poll.turnTo kind).Chooses info window ∧
        Answered (.readMemory window.request) (.memory block) outcome.events ∧
        entries.length = min window.count.toNat (block.length / Reading.size) ∧
        ∀ (index : Nat) (h : index < entries.length),
          Reading.decode? ((block.bytes.drop (index * Reading.size)).take Reading.size) =
            some entries[index])) ∧
    (outcome.ending ≠ .returned .sampled → outcome.ending ≠ .returned .finished →
      cursor = meter.position kind ∧ sunk outcome.events = []) ∧
    (outcome.state.storage? kind = some info →
      (outcome.ending = .returned .finished ↔ cursor = info.readable)) ∧
    (meter.storage? kind = some info → meter.position kind = info.readable →
      outcome.ending = .returned .finished ∧ outcome.events = []) := by
  intro start meter history outcome cursor
  have hstart : Playing kind info config start [] := by
    have hreached := reached_perform wire config operations
    exact hreached.playing hkind
  -- nothing in between ends the playback, and the poll itself goes on with it
  have hplaying : Playing kind info config meter history :=
    hstart.after_perform hrun fun before hbefore =>
      hinfo before (hbefore.trans (List.prefix_append _ _))
  have hother : ∀ other, outcome.state.storage? kind = some other → other = info := by
    intro other h
    refine hinfo _ (List.prefix_refl _) other ?_
    rw [perform_concat]
    exact (congrArg (storage? · kind) (run_discard _ _).1).trans h
  obtain ⟨hplayback, hnext⟩ := hplaying.after_pollStorage patience hother
  -- the numbers handed over are those up to the position, which the poll may have moved
  have hnumbered := hnext.numbered
  rw [show outcome.state.position kind = cursor from position_of_playback hplayback] at hnumbered
  have hentries := hplaying.reached.pollStorage_entries patience hother
  have hmoved : meter.position kind ≤ cursor := by
    obtain ⟨entries, hcursor, -⟩ := hentries
    exact Nat.le.intro hcursor.symm
  refine ⟨hplayback, hnumbered, ⟨hmoved, hnext.cursor_le hplayback⟩, hentries,
    hplaying.reached.pollStorage_still patience kind,
    hplaying.pollStorage_finished_iff patience hother, fun hknown hle => ?_⟩
  rw [show outcome = _ from run_pollStorage_of_le hknown (Nat.le_of_eq hle.symm) patience]
  exact ⟨rfl, rfl⟩

/-- A meter that is slow to answer keeps the first poll waiting; the second one hands over the only
entry and finishes. -/
theorem run_progress_of_slow :
    let wire : AnsweringWire twoEntries := { behavior := slow }
    let poll : Nat × Operation := (1, .call (.pollStorage .mem))
    let start := (perform (Meter.new wire {}) [(1, .call .identify)]).1
    let outcome := (pollStorage 1 .mem).run (perform start [poll]).1
    start.poll.playback ≠ some .mem ∧ outcome.ending = .returned .finished ∧
      (outcome.ending = .returned .finished ↔
        outcome.state.poll.cursor = (Storage.memInfo 1).readable) := by
  intro wire poll
  have hkind :
      (perform (Meter.new wire {}) [(1, .call .identify)]).1.poll.playback ≠ some .mem := by
    decide +kernel
  have hknown : ∀ count < 3,
      (perform (perform (Meter.new wire {}) [(1, .call .identify)]).1
        (([poll] ++ [poll]).take count)).1.storage? .mem ∈ [none, some (Storage.memInfo 1)] := by
    decide +kernel
  have hprogress := run_progress wire {} [(1, .call .identify)] [poll] 1 .mem (Storage.memInfo 1)
    hkind (by simp [Operation.Continues, poll]) fun before hbefore other hother => by
      have hmem := hknown before.length (Nat.lt_succ_of_le hbefore.length_le)
      rw [← List.prefix_iff_eq_take.1 hbefore, hother] at hmem
      simpa using hmem
  have hending : ((pollStorage 1 .mem).run (perform (perform (Meter.new wire {})
      [(1, .call .identify)]).1 [poll]).1).ending = .returned .finished := by decide +kernel
  have hstored : ((pollStorage 1 .mem).run (perform (perform (Meter.new wire {})
      [(1, .call .identify)]).1 [poll]).1).state.storage? .mem = some (Storage.memInfo 1) := by
    decide +kernel
  obtain ⟨-, -, -, -, -, hfinished, -⟩ := hprogress
  exact ⟨hkind, hending, hfinished hstored⟩

end Meter

end Multimeter
