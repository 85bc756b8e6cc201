import Multimeter.Proofs.Link.Trimmed
import Multimeter.Proofs.Meter.Operations
/-!
# What a session remembers

A session remembers what its link does, and nothing that is not in view of one of its fields. So an
operation replies the same, does the same and leaves what looks the same in any two sessions that
differ only in bytes of earlier reads that are still in the room of the link.

* `Meter.trimmed`: a session without these bytes.
* `Operation.reply`: an operation with the value that it returns.
* `seesOnly_reply`: operations see no more than the trimmed session.
* `performEach_looksLike`, `perform_looksLike`: what runs of operations come to is in view.
-/

namespace Multimeter.Meter

open Act

variable {ω : Type} {α : Type}

/-- The session without the bytes in the room of its link that are behind those that the last read
has delivered. -/
def trimmed (meter : Meter ω) : Meter ω := { meter with link := meter.link.trimmed }

/-- Trimming a session twice does no more than trimming it once. -/
@[simp]
theorem trimmed_trimmed (meter : Meter ω) : meter.trimmed.trimmed = meter.trimmed := by
  simp [trimmed]

/-! ## Steps -/

/-- An act that sees only what is left on the link does so within a session. -/
theorem seesOnly_onLink {act : Act (Link ω) α} (h : SeesOnly Link.trimmed act) :
    SeesOnly trimmed (onLink act) := by
  refine h.within (fun meter => meter.link.trimmed_trimmed) fun meter link link' hview => ?_
  show { meter with link := link.trimmed } = { meter with link := link'.trimmed }
  rw [hview]

/-- A change that does the same to a trimmed session sees no more than that. -/
theorem seesOnly_change {change : Meter ω → Meter ω}
    (h : ∀ meter, change meter.trimmed = (change meter).trimmed) :
    SeesOnly trimmed (modify change) :=
  seesOnly_modify fun meter => by rw [h, trimmed_trimmed]

theorem seesOnly_changePoll (change : Poll → Poll) :
    SeesOnly trimmed (changePoll (ω := ω) change) := seesOnly_change fun _ => rfl

theorem seesOnly_countSuccess : SeesOnly trimmed (countSuccess (ω := ω)) :=
  seesOnly_change fun _ => rfl

/-- Counting an error looks at the counter, which is in view. -/
theorem seesOnly_countError : SeesOnly trimmed (countError (ω := ω)) := by
  refine SeesOnly.bind (seesOnly_change fun _ => rfl) fun _ =>
    seesOnly_get_bind (fun meter => ?_) fun _ => rfl
  split
  · exact (seesOnly_log _).bind fun _ => seesOnly_fail .unresponsive
  · exact seesOnly_pure ()

/-- Retrying an act looks at the counter and at what the act looks at. -/
theorem seesOnly_retry {act : Act (Link ω) α} (h : SeesOnly Link.trimmed act) (patience : Nat) :
    SeesOnly trimmed (retry act patience) := by
  induction patience with
  | zero => exact seesOnly_giveUp
  | succ patience ih =>
    refine (seesOnly_onLink h).attempt.bind fun result => ?_
    cases result with
    | ok value => exact seesOnly_countSuccess.bind fun _ => seesOnly_pure value
    | error error =>
      show SeesOnly _ (if error.isRetryable then _ else Act.fail error)
      split
      · exact seesOnly_countError.bind fun _ =>
          seesOnly_get_bind (fun _ => (seesOnly_log _).bind fun _ => ih) fun _ => rfl
      · exact seesOnly_fail error

/-! ## Samples -/

theorem seesOnly_emitGroup (samples : List (Channel × Sample)) :
    SeesOnly trimmed (emitGroup (ω := ω) samples) := SeesOnly.forM (fun _ => seesOnly_report _) _

theorem seesOnly_interpretReading (reading : Reading) (context : Context) (channel : Channel) :
    SeesOnly trimmed (interpretReading (ω := ω) reading context channel) :=
  (SeesOnly.forM seesOnly_log _).bind fun _ => seesOnly_pure _

/-- Handing over a display looks at the identification and the mode, which are in view. -/
theorem seesOnly_emitDisplay (display : Display) :
    SeesOnly trimmed (emitDisplay (ω := ω) display) := by
  have hchannel (channel : Channel) : SeesOnly trimmed (emitChannel (ω := ω) display channel) :=
    (seesOnly_interpretReading _ _ channel).bind fun _ => seesOnly_report _
  refine seesOnly_get_bind (fun meter => ?_) fun _ => rfl
  exact (seesOnly_report _).bind fun _ =>
    (SeesOnly.forM hchannel _).bind fun _ => seesOnly_report _

theorem seesOnly_emitEntry (entry : Reading) : SeesOnly trimmed (emitEntry (ω := ω) entry) :=
  seesOnly_get_bind (fun _ => (seesOnly_interpretReading entry _ _).bind fun _ =>
    (seesOnly_emitGroup _).bind fun _ => seesOnly_changePoll _) fun _ => rfl

/-- A window is planned from what is in flight, which is in view. -/
theorem seesOnly_windowOrPlan (info : Storage.Info) :
    SeesOnly trimmed (windowOrPlan (ω := ω) info) := by
  refine seesOnly_get_bind (fun meter => ?_) fun _ => rfl
  cases meter.poll.window with
  | some window => exact seesOnly_pure window
  | none =>
    exact (seesOnly_lift _ _).bind fun window =>
      (seesOnly_changePoll _).bind fun _ => seesOnly_pure window

/-- Handing over a block looks at the playback position, which is in view. -/
theorem seesOnly_playBlock (kind : Storage.Kind) (info : Storage.Info) (window : Storage.Window)
    (block : Payload) : SeesOnly trimmed (playBlock (ω := ω) kind info window block) := by
  refine (seesOnly_changePoll _).bind fun _ => ?_
  cases info.entries block.bytes with
  | nil =>
    exact seesOnly_get_bind (fun _ => (seesOnly_log _).bind fun _ =>
      seesOnly_countError.bind fun _ => seesOnly_pure PollStatus.dropped) fun _ => rfl
  | cons entry entries =>
    refine (SeesOnly.forM seesOnly_emitEntry _).bind fun _ =>
      seesOnly_get_bind (fun meter => ?_) fun _ => rfl
    show SeesOnly _ (if _ then _ else _)
    split
    · exact (seesOnly_log _).bind fun _ => seesOnly_pure PollStatus.finished
    · exact seesOnly_pure PollStatus.sampled

variable [Wire ω]

/-! ## Blocking operations -/

theorem seesOnly_exchange (patience : Nat) (asked : Request) :
    SeesOnly trimmed (exchange (ω := ω) patience asked) :=
  seesOnly_retry (Link.seesOnly_request asked) patience

theorem seesOnly_identify (patience : Nat) : SeesOnly trimmed (identify (ω := ω) patience) := by
  refine (seesOnly_exchange patience _).bind fun response => ?_
  cases response with
  | information information =>
    exact (seesOnly_log _).bind fun _ => SeesOnly.bind (seesOnly_change fun _ => rfl) fun _ =>
      seesOnly_pure information
  | _ => exact seesOnly_fail _

theorem seesOnly_readDisplay (patience : Nat) :
    SeesOnly trimmed (readDisplay (ω := ω) patience) := by
  refine (seesOnly_exchange patience _).bind fun response => ?_
  cases response with
  | display display =>
    exact SeesOnly.bind (seesOnly_change fun _ => rfl) fun _ => seesOnly_pure display
  | _ => exact seesOnly_fail _

theorem seesOnly_readStorages (patience : Nat) :
    SeesOnly trimmed (readStorages (ω := ω) patience) := by
  refine seesOnly_get_bind (fun meter => ?_) fun _ => rfl
  cases meter.model? with
  | none => exact seesOnly_fail .notIdentified
  | some model =>
    refine (seesOnly_exchange patience _).bind fun response => ?_
    cases response with
    | memory block =>
      exact (seesOnly_lift _ _).bind fun storages => (seesOnly_log _).bind fun _ =>
        (seesOnly_log _).bind fun _ => SeesOnly.bind (seesOnly_change fun _ => rfl) fun _ =>
          seesOnly_pure storages
    | _ => exact seesOnly_fail _

/-- What is known of the storages is in view. -/
theorem seesOnly_storageOrRead (patience : Nat) (kind : Storage.Kind) :
    SeesOnly trimmed (storageOrRead (ω := ω) patience kind) := by
  refine seesOnly_get_bind (fun meter => ?_) fun _ => rfl
  cases meter.storage? kind with
  | some info => exact seesOnly_pure info
  | none =>
    exact (seesOnly_readStorages patience).bind fun storages => seesOnly_pure (storages.get kind)

theorem seesOnly_readEntries (patience : Nat) (kind : Storage.Kind) (start count : Nat) :
    SeesOnly trimmed (readEntries (ω := ω) patience kind start count) := by
  refine (seesOnly_storageOrRead patience kind).bind fun info =>
    (seesOnly_lift _ _).bind fun window => (seesOnly_exchange patience _).bind fun response => ?_
  cases response with
  | memory block => exact seesOnly_pure _
  | _ => exact seesOnly_fail _

/-! ## Polls -/

/-- What is in flight is in view. -/
theorem seesOnly_pendingOrSend (asked : Request) :
    SeesOnly trimmed (pendingOrSend (ω := ω) asked) := by
  refine seesOnly_get_bind (fun meter => ?_) fun _ => rfl
  cases meter.poll.pending with
  | some pending => exact seesOnly_pure pending
  | none =>
    exact (seesOnly_onLink (Link.seesOnly_sendRequest asked)).bind fun _ =>
      (seesOnly_changePoll _).bind fun _ => seesOnly_pure asked

omit [Wire ω] in
/-- Abandoning a request in flight sees no more than the trimmed session. -/
theorem seesOnly_abandon (entry : Log.Entry) (error : SessionError) :
    SeesOnly trimmed (Act.log entry >>= fun _ => changePoll Poll.clear >>= fun _ =>
      countError >>= fun _ => (Act.fail error : Act (Meter ω) α)) :=
  (seesOnly_log entry).bind fun _ => (seesOnly_changePoll _).bind fun _ =>
    seesOnly_countError.bind fun _ => seesOnly_fail error

/-- A look for an answer sees no more than the link and what is in flight. -/
theorem seesOnly_pollExchange (asked : Request) :
    SeesOnly trimmed (pollExchange (ω := ω) asked) := by
  refine (seesOnly_pendingOrSend asked).bind fun request => ?_
  refine (seesOnly_onLink (Link.seesOnly_pollResponse request)).attempt.bind fun result => ?_
  rcases result with error | found | response
  · show SeesOnly _ (if error.isRetryable then _ else _)
    split
    · exact seesOnly_abandon _ error
    · exact (seesOnly_changePoll _).bind fun _ => seesOnly_fail error
  · refine (seesOnly_changePoll _).bind fun _ => seesOnly_get_bind (fun meter => ?_) fun _ => rfl
    show SeesOnly _ (if _ then _ else _)
    split
    · exact seesOnly_abandon _ .timeout
    · exact seesOnly_pure none
  · exact (seesOnly_changePoll _).bind fun _ => seesOnly_countSuccess.bind fun _ =>
      seesOnly_pure (some response)

/-- A poll of the displays sees no more than its look and what it hands over. -/
theorem seesOnly_pollLive : SeesOnly trimmed (pollLive (ω := ω)) := by
  refine (seesOnly_changePoll _).bind fun _ =>
    (seesOnly_pollExchange .readDisplay).attempt.bind fun result => ?_
  rcases result with error | _ | response
  · show SeesOnly _ (if error.isRetryable then _ else _)
    split
    · exact seesOnly_pure PollStatus.dropped
    · exact seesOnly_fail error
  · exact seesOnly_pure PollStatus.waiting
  · cases response with
    | display display =>
      exact SeesOnly.bind (seesOnly_change fun _ => rfl) fun _ =>
        (seesOnly_emitDisplay display).bind fun _ => seesOnly_pure PollStatus.sampled
    | _ => exact seesOnly_fail _

/-- One step of a playback sees no more than its look and what it hands over. -/
theorem seesOnly_playNext (kind : Storage.Kind) (info : Storage.Info) :
    SeesOnly trimmed (playNext (ω := ω) kind info) := by
  refine seesOnly_get_bind (fun meter => ?_) fun _ => rfl
  show SeesOnly _ (if _ then _ else _)
  split
  · exact seesOnly_pure PollStatus.finished
  · refine (seesOnly_windowOrPlan info).bind fun window =>
      (seesOnly_pollExchange _).attempt.bind fun result => ?_
    rcases result with error | _ | response
    · show SeesOnly _ (if error.isRetryable then _ else _)
      split
      · exact seesOnly_pure PollStatus.dropped
      · exact seesOnly_fail error
    · exact seesOnly_pure PollStatus.waiting
    · cases response with
      | memory block => exact seesOnly_playBlock kind info window block
      | _ => exact seesOnly_fail _

theorem seesOnly_pollStorage (patience : Nat) (kind : Storage.Kind) :
    SeesOnly trimmed (pollStorage (ω := ω) patience kind) :=
  (seesOnly_changePoll _).bind fun _ => (seesOnly_storageOrRead patience kind).bind
    (seesOnly_playNext kind)

/-- Stopping looks at nothing that was taken. -/
theorem seesOnly_stop (patience : Nat) : SeesOnly trimmed (stop (ω := ω) patience) :=
  (seesOnly_changePoll _).bind fun _ => seesOnly_onLink (Link.seesOnly_reset patience)

/-! ## Operations -/

/-- What an operation returns. -/
inductive Reply where
  /-- The identification. -/
  | information (information : Information)
  /-- The displays. -/
  | display (display : Display)
  /-- How full the storages are. -/
  | storages (storages : Storages)
  /-- Stored entries. -/
  | entries (readings : List Reading)
  /-- What a poll came to. -/
  | status (status : PollStatus)
  /-- Nothing, of a stop. -/
  | stopped

/-- Do an operation with some patience, and tell what it returns. -/
def Operation.reply (patience : Nat) : Operation → Act (Meter ω) Reply
  | .call .identify => .information <$> Meter.identify patience
  | .call .readDisplay => .display <$> Meter.readDisplay patience
  | .call .readStorages => .storages <$> Meter.readStorages patience
  | .call (.readEntries kind start count) =>
    .entries <$> Meter.readEntries patience kind start count
  | .call .pollLive => .status <$> Meter.pollLive
  | .call (.pollStorage kind) => .status <$> Meter.pollStorage patience kind
  | .stop => (fun _ => .stopped) <$> Meter.stop patience

/-- Apart from what it returns, this is the operation. -/
theorem Operation.discard_reply (patience : Nat) (operation : Operation) :
    (operation.reply (ω := ω) patience).discard = operation.act patience := by
  have hmap {α : Type} (act : Act (Meter ω) α) (change : α → Reply) :
      (change <$> act).discard = act.discard := by
    rw [Act.discard, Act.discard, bind_map_left]
  rcases operation with call | _
  · cases call with
    | identify | readDisplay | readStorages | readEntries | pollLive | pollStorage =>
      exact hmap _ _
  · exact (hmap _ _).trans bind_pure_unit

/-- An operation sees no more than the trimmed session. -/
theorem seesOnly_reply (patience : Nat) (operation : Operation) :
    SeesOnly trimmed (operation.reply (ω := ω) patience) := by
  rcases operation with call | _
  · cases call with
    | identify => exact (seesOnly_identify patience).map _
    | readDisplay => exact (seesOnly_readDisplay patience).map _
    | readStorages => exact (seesOnly_readStorages patience).map _
    | readEntries kind start count => exact (seesOnly_readEntries patience kind start count).map _
    | pollLive => exact seesOnly_pollLive.map _
    | pollStorage kind => exact (seesOnly_pollStorage patience kind).map _
  · exact (seesOnly_stop patience).map _

/-- Do operations one after the other, each with a patience of its own, and tell what each came to
and what it returned. -/
def performEach (meter : Meter ω) (operations : List (Nat × Operation)) :
    List (Outcome (Meter ω) Reply) :=
  runEach meter (operations.map fun (patience, operation) => operation.reply patience)

/-- In sessions that look alike, operations come to the same and return the same. -/
theorem performEach_looksLike {meter meter' : Meter ω} (h : meter.trimmed = meter'.trimmed)
    (operations : List (Nat × Operation)) :
    List.Forall₂ (Outcome.LooksLike trimmed) (performEach meter operations)
      (performEach meter' operations) := by
  refine SeesOnly.runEach (fun act hmem => ?_) h
  obtain ⟨⟨patience, operation⟩, -, rfl⟩ := List.mem_map.1 hmem
  exact seesOnly_reply patience operation

/-- No operation looks at bytes that were taken. -/
theorem seesOnly_operation (patience : Nat) (operation : Operation) :
    SeesOnly trimmed (operation.act (ω := ω) patience) := by
  rw [← operation.discard_reply]
  exact (seesOnly_reply patience operation).discard

/-- From sessions that look alike, operations do the same and leave sessions that look alike. -/
theorem perform_looksLike {meter meter' : Meter ω} (h : meter.trimmed = meter'.trimmed)
    (operations : List (Nat × Operation)) :
    (perform meter operations).1.trimmed = (perform meter' operations).1.trimmed ∧
      (perform meter operations).2 = (perform meter' operations).2 := by
  refine SeesOnly.runAll (fun act hmem => ?_) h
  obtain ⟨⟨patience, operation⟩, -, rfl⟩ := List.mem_map.1 hmem
  exact seesOnly_operation patience operation

end Multimeter.Meter
