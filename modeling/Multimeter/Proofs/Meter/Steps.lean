import Multimeter.Proofs.Meter.Operations
/-!
# Steps of a session

All operations of a session are made of the same few steps: acts on the link, log entries, calls on
the sink, changes of the error counter, and changes of what the session remembers. What all of these
keep, every operation keeps.

* `Emitting inv`, `Bookkeeping inv`, `Upheld inv`: the steps that hand samples over keep `inv`,
  those that count and remember what is in flight keep it, all steps keep it.
* `Upheld.keeps_operation`, `Upheld.holds_perform`: so does every operation, and every sequence of
  them.
* `ceiling_perform`: the ceiling of the error counter is that of the configuration.
-/

namespace Multimeter

namespace Act

variable {σ α ι : Type} {inv : σ → List Event → Prop}

/-- Acts for the elements of a list keep what each of them keeps. -/
theorem Keeps.forM {act : ι → Act σ Unit} {xs : List ι} (h : ∀ x ∈ xs, Keeps inv (act x)) :
    Keeps inv (xs.forM act) := by
  induction xs with
  | nil => exact keeps_pure ()
  | cons x xs ih =>
    exact (h x List.mem_cons_self).bind fun _ => ih fun y hy => h y (List.mem_cons_of_mem _ hy)

end Act

namespace Meter

open Act

variable {ω : Type} {inv : Meter ω → List Event → Prop}

/-- The steps that handing over samples is made of keep `inv`. -/
structure Emitting (inv : Meter ω → List Event → Prop) : Prop where
  /-- A log entry that reports a message. -/
  report {message : Message} {entry : Log.Entry} : entry ∈ message.report → Keeps inv (log entry)
  /-- A call on the sink. -/
  sink (call : Sink.Call) : Keeps inv (Act.sink call)
  /-- A change of what is in flight. -/
  changePoll (change : Poll → Poll) : Keeps inv (changePoll change)

/-- The steps keep `inv` that count what an exchange comes to and remember what is in flight. -/
structure Bookkeeping (inv : Meter ω → List Event → Prop) : Prop where
  /-- A log entry. -/
  log (entry : Log.Entry) : Keeps inv (log entry)
  /-- Counting a failure. -/
  recordError :
    Keeps inv (modify fun meter => { meter with health := meter.health.recordError })
  /-- Counting a success. -/
  recordSuccess : Keeps inv countSuccess
  /-- A change of what is in flight. -/
  changePoll (change : Poll → Poll) : Keeps inv (changePoll change)

variable [Wire ω]

/-- The steps that operations are made of keep `inv`. -/
structure Upheld (inv : Meter ω → List Event → Prop) : Prop where
  /-- Sending a request and waiting for its answer. -/
  request (asked : Request) : Keeps inv (onLink (Link.request asked))
  /-- Sending a request. -/
  sendRequest (asked : Request) : Keeps inv (onLink (Link.sendRequest asked))
  /-- Looking for an answer. -/
  pollResponse (asked : Request) : Keeps inv (onLink (Link.pollResponse asked))
  /-- Starting the link afresh. -/
  reset (patience : Nat) : Keeps inv (onLink (Link.reset patience))
  /-- A log entry. -/
  log (entry : Log.Entry) : Keeps inv (log entry)
  /-- A call on the sink. -/
  sink (call : Sink.Call) : Keeps inv (Act.sink call)
  /-- Counting a failure. -/
  recordError :
    Keeps inv (modify fun meter => { meter with health := meter.health.recordError })
  /-- Counting a success. -/
  recordSuccess : Keeps inv countSuccess
  /-- A change of what is in flight. -/
  changePoll (change : Poll → Poll) : Keeps inv (changePoll change)
  /-- Remembering what meter it is. -/
  identified (information : Information) :
    Keeps inv (modify fun meter => { meter with information := some information })
  /-- Remembering how full the storages are. -/
  surveyed (storages : Storages) :
    Keeps inv (modify fun meter => { meter with storages := some storages })
  /-- Remembering the mode of the meter. -/
  displayed (context : Context) : Keeps inv (modify fun meter => { meter with context })

namespace Emitting

omit [Wire ω]

/-- A group that is handed over keeps what calls on the sink keep. -/
theorem keeps_emitGroup (h : Emitting inv) (samples : List (Channel × Sample)) :
    Keeps inv (emitGroup samples) := Keeps.forM fun call _ => h.sink call

/-- The message of a reading is reported, and nothing else is done. -/
theorem keeps_interpretReading (h : Emitting inv) (reading : Reading) (context : Context)
    (channel : Channel) : Keeps inv (interpretReading reading context channel) := by
  refine (Keeps.forM fun entry hmem => ?_).bind fun _ => keeps_pure _
  cases hmessage : (reading.interpret context channel).message? with
  | none =>
    rw [hmessage] at hmem
    cases hmem
  | some message =>
    rw [hmessage] at hmem
    exact h.report hmem

/-- A display is handed over by reports and calls on the sink. -/
theorem keeps_emitDisplay (h : Emitting inv) (display : Display) :
    Keeps inv (emitDisplay display) := by
  have hchannel (channel : Channel) : Keeps inv (emitChannel display channel) :=
    (h.keeps_interpretReading _ _ channel).bind fun _ => h.sink _
  exact keeps_get.bind fun _ => (h.sink _).bind fun _ =>
    (Keeps.forM fun channel _ => hchannel channel).bind fun _ => h.sink _

/-- An entry is handed over by reports and calls on the sink, and the position moves on. -/
theorem keeps_emitEntry (h : Emitting inv) (entry : Reading) : Keeps inv (emitEntry entry) :=
  keeps_get.bind fun _ => (h.keeps_interpretReading entry _ _).bind fun _ =>
    (h.keeps_emitGroup _).bind fun _ => h.changePoll _

/-- A window that is planned is remembered, and nothing else is done. -/
theorem keeps_windowOrPlan (h : Emitting inv) (info : Storage.Info) :
    Keeps inv (windowOrPlan info) := by
  refine keeps_get.bind fun meter => ?_
  cases meter.poll.window with
  | some window => exact keeps_pure window
  | none =>
    exact (keeps_lift _ _).bind fun window => (h.changePoll _).bind fun _ => keeps_pure window

end Emitting

namespace Bookkeeping

omit [Wire ω] in
/-- An error that is counted may be the one with which the meter is given up. -/
theorem keeps_countError (h : Bookkeeping inv) : Keeps inv countError := by
  refine h.recordError.bind fun _ => keeps_get.bind fun meter => ?_
  split
  · exact (h.log _).bind fun _ => keeps_fail .unresponsive
  · exact keeps_pure ()

omit [Wire ω] in
/-- Attempts one after the other keep what one attempt keeps and what counting keeps. -/
theorem keeps_retry {α : Type} {act : Act (Link ω) α} (h : Bookkeeping inv)
    (hact : Keeps inv (onLink act)) (patience : Nat) : Keeps inv (retry act patience) := by
  induction patience with
  | zero => exact ensures_giveUp fun _ _ h => h
  | succ patience ih =>
    refine hact.attempt.bind fun result => ?_
    cases result with
    | ok value => exact h.recordSuccess.bind fun _ => keeps_pure value
    | error error =>
      show Keeps inv (if error.isRetryable then _ else Act.fail error)
      split
      · exact h.keeps_countError.bind fun _ => keeps_get.bind fun _ => (h.log _).bind fun _ => ih
      · exact keeps_fail error

omit [Wire ω] in
/-- A request in flight is abandoned with an error that is counted. -/
theorem keeps_abandon {α : Type} (h : Bookkeeping inv) (entry : Log.Entry) (error : SessionError) :
    Keeps inv (Act.log entry >>= fun _ => Meter.changePoll Poll.clear >>= fun _ =>
      Meter.countError >>= fun _ => (Act.fail error : Act (Meter ω) α)) :=
  (h.log entry).bind fun _ => (h.changePoll _).bind fun _ => h.keeps_countError.bind fun _ =>
    keeps_fail error

/-- What holds once the request is in flight, one look for the answer keeps. -/
theorem ensures_pollExchange {pre : Meter ω → List Event → Prop} {asked : Request}
    (h : Bookkeeping inv) (hsend : Ensures pre (pendingOrSend asked) fun _ => inv)
    (hlook : ∀ request, Keeps inv (onLink (Link.pollResponse request))) :
    Ensures pre (pollExchange asked) fun _ => inv := by
  refine hsend.bind (fun request => ?_) (fun _ _ _ h => h) fun _ _ h => h
  refine (hlook request).attempt.bind fun result => ?_
  rcases result with error | found | response
  · show Keeps inv (if error.isRetryable then _ else _)
    split
    · exact h.keeps_abandon _ error
    · exact (h.changePoll _).bind fun _ => keeps_fail error
  · refine (h.changePoll _).bind fun _ => keeps_get.bind fun meter => ?_
    show Keeps inv (if _ then _ else _)
    split
    · exact h.keeps_abandon _ .timeout
    · exact keeps_pure none
  · exact (h.changePoll _).bind fun _ => h.recordSuccess.bind fun _ => keeps_pure (some response)

end Bookkeeping

namespace Upheld

/-- The steps of an operation include those of bookkeeping. -/
theorem bookkeeping (h : Upheld inv) : Bookkeeping inv where
  log := h.log
  recordError := h.recordError
  recordSuccess := h.recordSuccess
  changePoll := h.changePoll

/-! ## Blocking operations -/

/-- An exchange is a request that is retried. -/
theorem keeps_exchange (h : Upheld inv) (patience : Nat) (asked : Request) :
    Keeps inv (exchange patience asked) := h.bookkeeping.keeps_retry (h.request asked) patience

/-- What meter it is may be remembered after an exchange. -/
theorem keeps_identify (h : Upheld inv) (patience : Nat) : Keeps inv (identify patience) := by
  refine (h.keeps_exchange patience _).bind fun response => ?_
  cases response with
  | information information =>
    exact (h.log _).bind fun _ => (h.identified information).bind fun _ => keeps_pure information
  | _ => exact keeps_fail _

/-- The mode of the meter may be remembered after an exchange. -/
theorem keeps_readDisplay (h : Upheld inv) (patience : Nat) : Keeps inv (readDisplay patience) := by
  refine (h.keeps_exchange patience _).bind fun response => ?_
  cases response with
  | display display =>
    exact (h.displayed display.context).bind fun _ => keeps_pure display
  | _ => exact keeps_fail _

/-- How full the storages are may be remembered after an exchange. -/
theorem keeps_readStorages (h : Upheld inv) (patience : Nat) :
    Keeps inv (readStorages patience) := by
  refine keeps_get.bind fun meter => ?_
  cases meter.model? with
  | none => exact keeps_fail .notIdentified
  | some model =>
    refine (h.keeps_exchange patience _).bind fun response => ?_
    cases response with
    | memory block =>
      exact (keeps_lift _ _).bind fun storages => (h.log _).bind fun _ => (h.log _).bind fun _ =>
        (h.surveyed storages).bind fun _ => keeps_pure storages
    | _ => exact keeps_fail _

/-- A storage is looked up, or the storages are read. -/
theorem keeps_storageOrRead (h : Upheld inv) (patience : Nat) (kind : Storage.Kind) :
    Keeps inv (storageOrRead patience kind) := by
  refine keeps_get.bind fun meter => ?_
  cases meter.storage? kind with
  | some info => exact keeps_pure info
  | none => exact (h.keeps_readStorages patience).bind fun storages =>
    keeps_pure (storages.get kind)

/-- Entries are read by an exchange behind the look-up of the storage. -/
theorem keeps_readEntries (h : Upheld inv) (patience : Nat) (kind : Storage.Kind)
    (start count : Nat) :
    Keeps inv (readEntries patience kind start count) := by
  refine (h.keeps_storageOrRead patience kind).bind fun info =>
    (keeps_lift _ _).bind fun window => ?_
  refine (h.keeps_exchange patience _).bind fun response => ?_
  cases response with
  | memory block => exact keeps_pure _
  | _ => exact keeps_fail _

/-! ## Polls -/

/-- A request is sent unless one is in flight. -/
theorem keeps_pendingOrSend (h : Upheld inv) (asked : Request) :
    Keeps inv (pendingOrSend asked) := by
  refine keeps_get.bind fun meter => ?_
  cases meter.poll.pending with
  | some pending => exact keeps_pure pending
  | none =>
    exact (h.sendRequest asked).bind fun _ => (h.changePoll _).bind fun _ => keeps_pure asked

/-- One look for an answer is made of a request that may be sent, a look and bookkeeping. -/
theorem keeps_pollExchange (h : Upheld inv) (asked : Request) : Keeps inv (pollExchange asked) :=
  h.bookkeeping.ensures_pollExchange (h.keeps_pendingOrSend asked) h.pollResponse

/-- The steps of an operation include those of handing over. -/
theorem emitting (h : Upheld inv) : Emitting inv where
  report _ := h.log _
  sink := h.sink
  changePoll := h.changePoll

/-- A poll of the displays is one look, and a display to hand over. -/
theorem keeps_pollLive (h : Upheld inv) : Keeps inv pollLive := by
  refine (h.changePoll _).bind fun _ =>
    (h.keeps_pollExchange .readDisplay).attempt.bind fun result => ?_
  rcases result with error | _ | response
  · show Keeps inv (if error.isRetryable then _ else _)
    split
    · exact keeps_pure PollStatus.dropped
    · exact keeps_fail error
  · exact keeps_pure PollStatus.waiting
  · cases response with
    | display display =>
      exact (h.displayed display.context).bind fun _ =>
        (h.emitting.keeps_emitDisplay display).bind fun _ => keeps_pure PollStatus.sampled
    | _ => exact keeps_fail _

/-- A block is handed over entry by entry. -/
theorem keeps_playBlock (h : Upheld inv) (kind : Storage.Kind) (info : Storage.Info)
    (window : Storage.Window) (block : Payload) : Keeps inv (playBlock kind info window block) := by
  refine (h.changePoll _).bind fun _ => ?_
  cases info.entries block.bytes with
  | nil =>
    exact keeps_get.bind fun _ => (h.log _).bind fun _ =>
      h.bookkeeping.keeps_countError.bind fun _ => keeps_pure PollStatus.dropped
  | cons entry entries =>
    have hentries : Keeps inv (((entry :: entries).take window.count.toNat).forM emitEntry) :=
      Keeps.forM fun entry _ => h.emitting.keeps_emitEntry entry
    refine hentries.bind fun _ => keeps_get.bind fun meter => ?_
    show Keeps inv (if _ then _ else _)
    split
    · exact (h.log _).bind fun _ => keeps_pure PollStatus.finished
    · exact keeps_pure PollStatus.sampled

/-- One step of a playback is one look, and a block to hand over. -/
theorem keeps_playNext (h : Upheld inv) (kind : Storage.Kind) (info : Storage.Info) :
    Keeps inv (playNext kind info) := by
  refine keeps_get.bind fun meter => ?_
  show Keeps inv (if _ then _ else _)
  split
  · exact keeps_pure PollStatus.finished
  · refine (h.emitting.keeps_windowOrPlan info).bind fun window => ?_
    refine (h.keeps_pollExchange _).attempt.bind fun result => ?_
    rcases result with error | _ | response
    · show Keeps inv (if error.isRetryable then _ else _)
      split
      · exact keeps_pure PollStatus.dropped
      · exact keeps_fail error
    · exact keeps_pure PollStatus.waiting
    · cases response with
      | memory block => exact h.keeps_playBlock kind info window block
      | _ => exact keeps_fail _

/-- A poll of a storage turns to it, looks it up and plays on. -/
theorem keeps_pollStorage (h : Upheld inv) (patience : Nat) (kind : Storage.Kind) :
    Keeps inv (pollStorage patience kind) :=
  (h.changePoll _).bind fun _ => (h.keeps_storageOrRead patience kind).bind fun info =>
    h.keeps_playNext kind info

/-! ## Runs -/

/-- Every call of a session keeps what its steps keep. -/
theorem keeps_call (h : Upheld inv) (patience : Nat) (call : Call) :
    Keeps inv (call.act patience) := by
  cases call with
  | identify => exact (h.keeps_identify patience).discard
  | readDisplay => exact (h.keeps_readDisplay patience).discard
  | readStorages => exact (h.keeps_readStorages patience).discard
  | readEntries kind start count => exact (h.keeps_readEntries patience kind start count).discard
  | pollLive => exact h.keeps_pollLive.discard
  | pollStorage kind => exact (h.keeps_pollStorage patience kind).discard

/-- Every operation keeps what its steps keep. -/
theorem keeps_operation (h : Upheld inv) (patience : Nat) (operation : Operation) :
    Keeps inv (operation.act patience) := by
  cases operation with
  | call made => exact h.keeps_call patience made
  | stop => exact (h.changePoll _).bind fun _ => h.reset patience

/-- Operations one after the other keep it, too. -/
theorem holds_perform (h : Upheld inv) {meter : Meter ω} (hmeter : inv meter [])
    (operations : List (Nat × Operation)) :
    inv (perform meter operations).1 (perform meter operations).2 :=
  keeps_perform h.keeps_operation hmeter operations

end Upheld

/-! ## The ceiling of the error counter -/

/-- No step touches the ceiling. -/
theorem upheld_ceiling (ceiling : UInt8) :
    Upheld fun (meter : Meter ω) _ => meter.health.ceiling = ceiling where
  request _ := fun _ _ h => h
  sendRequest _ := fun _ _ h => h
  pollResponse _ := fun _ _ h => h
  reset _ := fun _ _ h => h
  log _ := fun _ _ h => h
  sink _ := fun _ _ h => h
  recordError := fun _ _ h => h
  recordSuccess := fun _ _ h => h
  changePoll _ := fun _ _ h => h
  identified _ := fun _ _ h => h
  surveyed _ := fun _ _ h => h
  displayed _ := fun _ _ h => h

/-- Whatever is done with a session, it tolerates as many errors as it was told to. -/
theorem ceiling_perform (wire : ω) (config : Config) (operations : List (Nat × Operation)) :
    (perform (Meter.new wire config) operations).1.health.ceiling = config.maxErrors :=
  (upheld_ceiling config.maxErrors).holds_perform rfl operations

end Meter

end Multimeter
