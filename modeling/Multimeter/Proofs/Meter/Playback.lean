import Multimeter.Proofs.Meter.Poll
/-!
# Playback of a storage

What a poll of a storage does, over any wire. It hands over the entries of the block in the frame
handed out last, which answers a window that covers the entries from the playback position on, and
the position goes on by as many entries as were handed over.

* `windowOrPlan_spec`: the window asked for.
* `playBlock_spec`: the groups of a block.
* `pollStorage_spec`: one poll.
-/

namespace Multimeter

namespace Poll

/-- The window asked for: the one at hand, else the one planned from the playback position on. -/
def Chooses (poll : Poll) (info : Storage.Info) (window : Storage.Window) : Prop :=
  poll.window = some window ∨ poll.window = none ∧
    info.plan poll.cursor (min (info.readable - poll.cursor) 0xffff) = .ok window

variable {budget : Nat} {poll : Poll} {kind : Storage.Kind} {window : Storage.Window}

/-- Without a window there is nothing in flight for a playback. -/
theorem Sound.pending_of_window (h : poll.Sound budget) (hkind : poll.playback = some kind)
    (hwindow : poll.window = none) : poll.pending = none := by
  cases hpending : poll.pending with
  | none => rfl
  | some request =>
    -- a playback asks for a window and for nothing else
    rcases h.asks request hpending with ⟨-, hnone⟩ | ⟨window, _, -, hsome, -⟩
    · rw [hkind] at hnone
      cases hnone
    · rw [hwindow] at hsome
      cases hsome

/-- A window that covers the entries from the playback position on may be remembered. -/
theorem Sound.withWindow (h : poll.Sound budget) (hkind : poll.playback = some kind)
    (hwindow : poll.window = none) (hcovers : window.Covers kind.layout poll.cursor) :
    ({ poll with window := some window } : Poll).Sound budget := by
  have hpending := h.pending_of_window hkind hwindow
  refine ⟨h.polls_eq, h.polls_lt, fun request heq => ?_, fun kind' window' hkind' hwindow' => ?_⟩
  · have heq : poll.pending = some request := heq
    rw [hpending] at heq
    cases heq
  · obtain rfl : kind = kind' := Option.some.inj (hkind.symm.trans hkind')
    obtain rfl : window = window' := Option.some.inj hwindow'
    exact hcovers

/-- The playback position may go on while nothing is in flight. -/
theorem Sound.played (h : poll.Sound budget) (hpending : poll.pending = none) (count : Nat) :
    ({ poll with window := none, cursor := poll.cursor + count } : Poll).Sound budget := by
  refine ⟨h.polls_eq, h.polls_lt, fun request heq => ?_, fun _ _ _ heq => nomatch heq⟩
  have heq : poll.pending = some request := heq
  rw [hpending] at heq
  cases heq

end Poll

namespace Meter

open Act

variable {ω : Type} {inv : Link ω → List Event → Prop} {config : Config} {calls : List Sink.Call}
  {known : Meter ω} {kind : Storage.Kind} {info : Storage.Info}

/-! ## Steps -/

/-- The window asked for covers entries from the playback position on, and it is kept. -/
theorem windowOrPlan_spec (hsound : known.poll.Sound config.budget)
    (hkind : known.poll.playback = some kind) (hlayout : info.HasLayout kind) :
    Ensures (Standing inv config calls known) (windowOrPlan info) fun ending meter history =>
      match ending with
      | .returned window => (known.poll.Chooses info window ∧
          window.Covers kind.layout known.poll.cursor ∧
          ({ known.poll with window := some window } : Poll).Sound config.budget) ∧
            Standing inv config calls
              { known with poll := { known.poll with window := some window } }
              meter history
      | .failed _ => Standing inv config calls known meter history
      | .unfinished => False := by
  refine standing_get_bind fun meter hmeter _ => ?_
  rw [hmeter.poll]
  -- a window at hand is kept until its request is settled; only then is another one planned
  cases hwindow : known.poll.window with
  | some window =>
    have hpoll : ({ known.poll with window := some window } : Poll) = known.poll := by
      rw [← hwindow]
    refine ensures_pure fun _ _ h =>
      ⟨⟨.inl hwindow, hsound.covers kind window hkind hwindow, ?_⟩, h.of_eq ?_⟩
    · rw [hpoll]
      exact hsound
    · rw [hpoll]
  | none =>
    refine ensures_lift_bind (fun window hplan => ?_) fun _ _ _ _ h => h
    -- the storage as read and its layout have the same plans
    have hlaid := hplan
    rw [hlayout.plan_eq] at hlaid
    obtain ⟨hcovers, -⟩ := Storage.Info.plan_spec hlaid
    exact (changePoll_spec _).returns_bind (ensures_pure fun _ _ h =>
      ⟨⟨.inr ⟨hwindow, hplan⟩, hcovers, hsound.withWindow hkind hwindow hcovers⟩, h⟩)

/-- What becomes of a block: its entries are handed over, as many as the window asks for, and the
playback position is behind them. A block without entries is dropped. -/
def BlockPlayed (inv : Link ω → List Event → Prop) (config : Config) (calls : List Sink.Call)
    (known : Meter ω) (info : Storage.Info) (window : Storage.Window) (block : Payload)
    (ending : Ending PollStatus) (meter : Meter ω) (history : List Event) : Prop :=
  ∃ entries : List Reading, entries = (info.entries block.bytes).take window.count.toNat ∧
    Standing inv config (calls ++ entryGroups known.context entries known.poll.cursor)
      { known with
        poll := { known.poll with window := none, cursor := known.poll.cursor + entries.length } }
      meter history ∧
    (entries = [] ∧ (ending = .returned .dropped ∨ ∃ error, ending = .failed error) ∨
      entries ≠ [] ∧ ending = .returned
        (if info.readable ≤ known.poll.cursor + entries.length then .finished else .sampled))

/-- A block that arrives is handed over entry by entry, or is dropped if it has none. -/
theorem playBlock_spec (hinv : Link.Quiet inv) {window : Storage.Window}
    (hcount : 0 < window.count.toNat) (block : Payload) :
    Ensures (Standing inv config calls known) (playBlock kind info window block)
      (BlockPlayed inv config calls known info window block) := by
  refine (changePoll_spec fun poll => { poll with window := none }).returns_bind ?_
  cases hentries : info.entries block.bytes with
  | nil =>
    -- nothing is handed over, and the failure is counted
    have hnothing {ending : Ending PollStatus} {meter : Meter ω} {history : List Event}
        (hending : ending = .returned .dropped ∨ ∃ error, ending = .failed error)
        (h : Standing inv config calls
          { known with poll := { known.poll with window := none } } meter history) :
        BlockPlayed inv config calls known info window block ending meter history := by
      refine ⟨[], by rw [hentries, List.take_nil], ?_, .inl ⟨rfl, hending⟩⟩
      have hcalls : calls ++ entryGroups known.context [] known.poll.cursor = calls :=
        List.append_nil _
      rw [hcalls]
      exact h
    refine ensures_get_bind fun meter => Ensures.of_left ?_
    refine (returns_log fun _ _ h => h.logged hinv rfl).returns_bind ?_
    refine (countError_spec hinv).bind (fun _ => ?_)
      (fun error _ _ h => hnothing (.inr ⟨error, rfl⟩) h.2) fun _ _ h => absurd rfl h.1
    exact ensures_pure fun _ _ h => hnothing (.inl rfl) h.2
  | cons entry entries =>
    -- the window asks for at least one entry, so there is one to hand over
    have hnonempty : (entry :: entries).take window.count.toNat ≠ [] := by
      rw [Ne, List.take_eq_nil_iff]
      exact fun h => h.elim (fun hzero => by omega) (fun heq => nomatch heq)
    generalize htaken : (entry :: entries).take window.count.toNat = taken at hnonempty
    have hplayed {status : PollStatus} (hstatus : status =
        if info.readable ≤ known.poll.cursor + taken.length then .finished else .sampled)
        {meter : Meter ω} {history : List Event}
        (h : Standing inv config (calls ++ entryGroups known.context taken known.poll.cursor)
          { known with
            poll := { known.poll with window := none, cursor := known.poll.cursor + taken.length } }
          meter history) :
        BlockPlayed inv config calls known info window block (.returned status) meter history :=
      ⟨taken, by rw [hentries, htaken], h, .inr ⟨hnonempty, by rw [hstatus]⟩⟩
    show Ensures _ (((entry :: entries).take window.count.toNat).forM emitEntry >>= fun _ => _) _
    rw [htaken]
    refine (forM_emitEntry_spec hinv taken).returns_bind
      (standing_get_bind fun meter hmeter _ => ?_)
    rw [hmeter.poll]
    split
    · rename_i hreadable
      refine (returns_log fun _ _ h => h.logged hinv rfl).returns_bind
        (ensures_pure fun _ _ h => ?_)
      exact hplayed (if_pos hreadable).symm h
    · rename_i hreadable
      exact ensures_pure fun _ _ h => hplayed (if_neg hreadable).symm h

/-! ## Polls -/

/-- What one look at a playback does. Either it hands over nothing, and the playback position stays;
or it hands over the entries of the block in the frame handed out last, as many as the window asks
for, which covers the entries from the playback position on. It has finished when the position has
reached the last entry. -/
def Played (inv : Link ω → List Event → Prop) (config : Config) (calls : List Sink.Call)
    (known : Meter ω) (kind : Storage.Kind) (ending : Ending PollStatus) (meter : Meter ω)
    (history : List Event) : Prop :=
  ∃ poll storages entries, poll.Sound config.budget ∧ LaidOut storages ∧
    poll.playback = some kind ∧ poll.cursor = known.poll.cursor + entries.length ∧
    Standing inv config (calls ++ entryGroups known.context entries known.poll.cursor)
      { known with poll, storages } meter history ∧
    (entries = [] ∧ ending ≠ .returned .sampled ∧ (ending = .returned .finished →
        ∃ info, meter.storage? kind = some info ∧ info.readable ≤ poll.cursor) ∨
      ∃ (window : Storage.Window) (block : Payload) (info : Storage.Info),
        meter.storage? kind = some info ∧ known.poll.Chooses info window ∧
        window.Covers kind.layout known.poll.cursor ∧
        Answered (.readMemory window.request) (.memory block) history ∧
        entries = (kind.layout.entries block.bytes).take window.count.toNat ∧ entries ≠ [] ∧
        ending = .returned (if info.readable ≤ poll.cursor then .finished else .sampled))

/-- Nothing is handed over, and the playback position stays. -/
theorem Standing.unplayed {poll : Poll} {storages : Option Storages}
    {ending : Ending PollStatus} {meter : Meter ω} {history : List Event}
    (h : Standing inv config calls { known with poll, storages } meter history)
    (hpoll : poll.Sound config.budget) (hlaid : LaidOut storages)
    (hkind : poll.playback = some kind) (hcursor : poll.cursor = known.poll.cursor)
    (hsampled : ending ≠ .returned .sampled)
    (hfinished : ending = .returned .finished →
      ∃ info, meter.storage? kind = some info ∧ info.readable ≤ poll.cursor) :
    Played inv config calls known kind ending meter history := by
  refine ⟨poll, storages, [], hpoll, hlaid, hkind, hcursor, ?_, .inl ⟨rfl, hsampled, hfinished⟩⟩
  have hcalls : calls ++ entryGroups known.context [] known.poll.cursor = calls :=
    List.append_nil _
  rw [hcalls]
  exact h

/-- The entries of a block that answers the window are handed over. -/
theorem playAnswer_spec (hinv : Link.Quiet inv) {window : Storage.Window}
    (hchooses : known.poll.Chooses info window)
    (hcovers : window.Covers kind.layout known.poll.cursor)
    (hsound : ({ known.poll with window := some window } : Poll).Sound config.budget)
    (hknown : LaidOut known.storages) (hkind : known.poll.playback = some kind)
    (hinfo : known.storage? kind = some info) (hlayout : info.HasLayout kind) (block : Payload) :
    let settled : Poll := { known.poll with window := some window, pending := none, polls := 0 }
    Ensures (fun meter history => Standing inv config calls { known with poll := settled } meter
        history ∧ Answered (.readMemory window.request) (.memory block) history)
      (playBlock kind info window block) (Played inv config calls known kind) := by
  intro settled
  -- the answer stays the last one while its entries are handed over
  let answered (link : Link ω) (history : List Event) : Prop :=
    inv link history ∧ Answered (.readMemory window.request) (.memory block) history
  have hquiet : Link.Quiet answered := hinv.and_answered _ _
  have hsettled : settled.Sound config.budget := ⟨fun _ => rfl, nofun, nofun, hsound.covers⟩
  have hblock : Ensures (Standing answered config calls { known with poll := settled })
      (playBlock kind info window block)
      (BlockPlayed answered config calls { known with poll := settled } info window block) :=
    playBlock_spec hquiet hcovers.count_pos block
  refine hblock.weaken (fun meter history ⟨hstanding, hanswered⟩ =>
    ⟨⟨hstanding.link, hanswered⟩, hstanding.plain, hstanding.alike⟩)
    fun ending meter history h => ?_
  obtain ⟨entries, hentries, hstanding, hending⟩ := h
  refine ⟨_, known.storages, entries, hsettled.played rfl entries.length, hknown, hkind, rfl,
    ⟨hstanding.link.1, hstanding.plain, hstanding.alike⟩, ?_⟩
  -- without entries the answer says nothing of the playback
  rcases hending with ⟨hnone, rfl | ⟨error, rfl⟩⟩ | ⟨hsome, hplayed⟩
  · exact .inl ⟨hnone, nofun, nofun⟩
  · exact .inl ⟨hnone, nofun, nofun⟩
  · refine .inr ⟨window, block, info, ?_, hchooses, hcovers, hstanding.link.2, ?_, hsome, hplayed⟩
    · exact (hstanding.alike.storage?_eq kind).trans hinfo
    · rw [hentries, hlayout.entries_eq]

variable [Wire ω]

/-- A look at a playback whose storage is known. It is through; or a window is asked for that covers
the entries from the playback position on, and a block that answers it is played. -/
theorem playNext_cases {post : Ending PollStatus → Meter ω → List Event → Prop}
    (hinv : Link.Lasting inv) (hsound : known.poll.Sound config.budget)
    (hkind : known.poll.playback = some kind) (hlayout : info.HasLayout kind)
    (hthrough : info.readable ≤ known.poll.cursor → ∀ meter history,
      Standing inv config calls known meter history → post (.returned .finished) meter history)
    (hfailed : ∀ error meter history, Standing inv config calls known meter history →
      post (.failed error) meter history)
    (hunplayed : ∀ window, known.poll.Chooses info window →
      let planned : Meter ω := { known with poll := { known.poll with window := some window } }
      planned.poll.Sound config.budget → planned.poll.Asks (.readMemory window.request) →
      ∀ found ending meter history, ending ≠ .returned .sampled → ending ≠ .returned .finished →
        Polled inv config calls planned (.readMemory window.request) found meter history →
          post ending meter history)
    (hblock : ∀ window, known.poll.Chooses info window →
      window.Covers kind.layout known.poll.cursor →
      ({ known.poll with window := some window } : Poll).Sound config.budget →
      let settled : Poll := { known.poll with window := some window, pending := none, polls := 0 }
      ∀ block, Ensures (fun meter history =>
          Standing inv config calls { known with poll := settled } meter history ∧
            Answered (.readMemory window.request) (.memory block) history)
        (playBlock kind info window block) post) :
    Ensures (Standing inv config calls known) (playNext kind info) post := by
  refine standing_get_bind fun meter hmeter _ => ?_
  rw [hmeter.poll]
  split
  · rename_i hreadable
    exact ensures_pure (hthrough hreadable)
  refine (windowOrPlan_spec hsound hkind hlayout).bind (fun window => ?_) hfailed
    fun _ _ h => h.elim
  refine Ensures.of_imp fun ⟨hchooses, hcovers, hwindow⟩ => ?_
  -- the request in flight, if there is one, is that for the window
  let planned : Meter ω := { known with poll := { known.poll with window := some window } }
  have hasks : planned.poll.Asks (.readMemory window.request) :=
    .inr ⟨window, kind, rfl, rfl, hkind⟩
  have hpolled : Ensures (Standing inv config calls planned)
      (pollExchange (.readMemory window.request))
      (Polled inv config calls planned (.readMemory window.request)) :=
    pollExchange_spec hinv (hwindow.pending_of_asks hasks)
  have hnothing := hunplayed window hchooses hwindow hasks
  refine hpolled.attempt_bind (fun _ _ h => h.finishes) (fun found => ?_) fun error => ?_
  · rcases found with _ | response
    · exact ensures_pure fun _ _ => hnothing _ _ _ _ (by simp) (by simp)
    · rcases response with _ | _ | _ | _ | block | _ | _
      case memory =>
        refine (hblock window hchooses hcovers hwindow block).weaken (fun meter history h => ?_)
          fun _ _ _ h => h
        obtain ⟨⟨poll, rfl, hstanding⟩, hanswered⟩ := h
        exact ⟨hstanding, hanswered _ rfl⟩
      all_goals exact ensures_fail fun _ _ => hnothing _ _ _ _ (by simp) (by simp)
  · show Ensures _ (if error.isRetryable then _ else _) _
    split
    · exact ensures_pure fun _ _ => hnothing _ _ _ _ (by simp) (by simp)
    · exact ensures_fail fun _ _ => hnothing _ _ _ _ (by simp) (by simp)

/-- One step of a playback hands over nothing, or the entries of a block that it has asked for. -/
theorem playNext_spec (hinv : Link.Lasting inv) (hsound : known.poll.Sound config.budget)
    (hknown : LaidOut known.storages) (hkind : known.poll.playback = some kind)
    (hinfo : known.storage? kind = some info) (hlayout : info.HasLayout kind) :
    Ensures (Standing inv config calls known) (playNext kind info)
      (Played inv config calls known kind) := by
  refine playNext_cases hinv hsound hkind hlayout (fun hreadable meter _ h => ?_)
    (fun error _ _ h => h.unplayed hsound hknown hkind rfl (by simp) (by simp))
    (fun window _ hwindow hasks found ending meter history hsampled hfinished h => ?_)
    fun window hchooses hcovers hwindow block =>
      playAnswer_spec hinv.toQuiet hchooses hcovers hwindow hknown hkind hinfo hlayout block
  -- a playback that is through asks for nothing more
  · exact h.unplayed hsound hknown hkind rfl (by simp) fun _ =>
      ⟨info, (h.alike.storage?_eq kind).trans hinfo, hreadable⟩
  -- without a block, the poll leaves the playback position where it is
  · obtain ⟨⟨poll, hafter, hstanding⟩, -⟩ := h
    obtain ⟨hplayback, hcursor⟩ := hafter.same_position
    have hstanding : Standing inv config calls { known with poll } meter history := hstanding
    exact hstanding.unplayed (hwindow.after hasks hafter) hknown (hplayback.trans hkind) hcursor
      hsampled fun heq => absurd heq hfinished

/-- A poll of a storage goes on from where playback is or begins. Either the storage stays unknown,
or playback looks for the next block. -/
theorem pollStorage_cases {post : Ending PollStatus → Meter ω → List Event → Prop}
    (hinv : Link.Lasting inv) (hknown : LaidOut known.storages) (patience : Nat)
    (kind : Storage.Kind)
    (hunknown : known.storage? kind = none → ∀ ending meter history,
      (∀ status, ending ≠ .returned status) →
        Standing inv config calls { known with poll := known.poll.turnTo kind } meter history →
          post ending meter history)
    (hplay : ∀ storages info, LaidOut storages → storages.map (·.get kind) = some info →
      info.HasLayout kind → Ensures
        (Standing inv config calls { known with poll := known.poll.turnTo kind, storages })
        (playNext kind info) post) :
    Ensures (Standing inv config calls known) (pollStorage patience kind) post := by
  let turned : Meter ω := { known with poll := known.poll.turnTo kind }
  have hlaid : LaidOut turned.storages := hknown
  refine (changePoll_spec (Poll.turnTo kind)).returns_bind ?_
  refine (storageOrRead_change hinv hlaid patience kind).bind (fun info => ?_)
    (fun error meter history h => hunknown h.1 _ meter history (by simp) h.2)
    fun meter history h => hunknown h.1 _ meter history (by simp) h.2
  -- playback goes on from what is known of the storages by now
  exact Ensures.of_exists fun storages => Ensures.of_imp fun ⟨hread, hinfo, hlayout⟩ =>
    hplay storages info hread hinfo hlayout

/-- One poll of a storage: what was in flight for something else is abandoned first. -/
theorem pollStorage_spec (hinv : Link.Lasting inv) (hsound : known.poll.Sound config.budget)
    (hknown : LaidOut known.storages) (patience : Nat) (kind : Storage.Kind) :
    Ensures (Standing inv config calls known) (pollStorage patience kind)
      (Played inv config calls { known with poll := known.poll.turnTo kind } kind) := by
  have hplayback := known.poll.playback_turnTo kind
  have hturned := hsound.turnTo kind
  let turned : Meter ω := { known with poll := known.poll.turnTo kind }
  refine pollStorage_cases hinv hknown patience kind (fun _ ending meter history hending h => ?_)
    fun storages info hlaid hinfo hlayout => ?_
  · have hunplayed :=
      @Standing.unplayed _ inv config calls turned kind _ known.storages ending _ _ h
    exact hunplayed hturned hknown hplayback rfl (hending _) fun heq => absurd heq (hending _)
  · have hspec := @playNext_spec _ inv config calls { turned with storages } kind info _ hinv
    exact hspec hturned hlaid hplayback hinfo hlayout

end Meter

end Multimeter
