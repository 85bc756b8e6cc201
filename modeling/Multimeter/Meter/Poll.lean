import Multimeter.Meter
/-!
# Polling

Acquisition that never waits: each poll sends a request or looks once for the answer to the request
in flight. At most one request is in flight. A request whose answer does not come within the budget
of polls is abandoned and counted as an error.
-/

namespace Multimeter

/-- What one poll came to. -/
inductive PollStatus where
  /-- The answer is still missing. -/
  | waiting
  /-- Samples were handed over. -/
  | sampled
  /-- The request in flight was abandoned. -/
  | dropped
  /-- Playback has reached the last entry. -/
  | finished
  deriving DecidableEq, Repr

/-- The name of a status. -/
def PollStatus.name : PollStatus → String
  | .waiting => "Waiting"
  | .sampled => "Sampled"
  | .dropped => "Dropped"
  | .finished => "Finished"

namespace Meter

variable {ω : Type}

/-- Change what is in flight. -/
def changePoll (change : Poll → Poll) : Act (Meter ω) Unit :=
  Act.modify fun meter => { meter with poll := change meter.poll }

/-- Hand over a group of samples. -/
def emitGroup (samples : List (Channel × Sample)) : Act (Meter ω) Unit :=
  (Sink.group samples).forM fun call => Act.sink call

/-- Interpret a reading and log the message, if it is one. -/
def interpretReading (reading : Reading) (context : Context) (channel : Channel) :
    Act (Meter ω) Sample := do
  let meaning := reading.interpret context channel
  (meaning.message?.elim [] Message.report).forM fun entry => Act.log entry
  pure meaning.toSample

/-- Hand over what one display shows. A message is logged right before its sample. -/
def emitChannel (display : Display) (channel : Channel) : Act (Meter ω) Unit := do
  let sample ← interpretReading (display.reading channel) display.context channel
  Act.sink (.emit channel sample)

/-- Hand over the displays that are reported, as one group. -/
def emitDisplay (display : Display) : Act (Meter ω) Unit := do
  let meter ← Act.get
  Act.sink .begin
  (Channel.all.filter meter.supports).forM (emitChannel display)
  Act.sink .finish

/-- Hand over a stored entry and its number, as one group, and go on to the next one. -/
def emitEntry (entry : Reading) : Act (Meter ω) Unit := do
  let meter ← Act.get
  let sample ← interpretReading entry meter.context .primary
  emitGroup [(.primary, sample), (.secondary, .entryNumber meter.poll.cursor)]
  changePoll fun poll => { poll with cursor := poll.cursor + 1 }

variable [Wire ω]

/-- Abandon everything in flight and start afresh. -/
def stop (patience : Nat) : Act (Meter ω) Unit := do
  changePoll fun _ => {}
  onLink (Link.reset patience)

/-- The request in flight; `request` is sent unless there is one. -/
def pendingOrSend (request : Request) : Act (Meter ω) Request := do
  let meter ← Act.get
  match meter.poll.pending with
  | some pending => pure pending
  | none =>
    onLink (Link.sendRequest request)
    changePoll fun poll => { poll with pending := some request, polls := 0 }
    pure request

/-- Look for the answer to the request in flight, which is `request` unless there is one already. -/
def pollExchange (request : Request) : Act (Meter ω) (Option Response) := do
  let request ← pendingOrSend request
  match ← (onLink (Link.pollResponse request)).attempt with
  | .ok (some response) =>
    changePoll fun poll => { poll with pending := none, polls := 0 }
    countSuccess
    pure (some response)
  | .ok none =>
    changePoll fun poll => { poll with polls := poll.polls + 1 }
    let meter ← Act.get
    let budget := meter.link.config.budget
    -- the error is counted after the request is abandoned, so that it is gone in either case
    if budget ≤ meter.poll.polls then
      Act.log (.unanswered request.command budget)
      changePoll Poll.clear
      countError
      Act.fail .timeout
    else pure none
  | .error error =>
    if error.isRetryable then
      Act.log (.refused request.command)
      changePoll Poll.clear
      countError
      Act.fail error
    else
      changePoll Poll.clear
      Act.fail error

/-- Poll the live displays. A storage playback in progress ends. -/
def pollLive : Act (Meter ω) PollStatus := do
  changePoll fun poll =>
    -- the answer to a request for the displays may still be on its way, and it is kept
    let poll := if poll.pending.any (· ≠ .readDisplay) then poll.clear else poll
    { poll with playback := none }
  match ← (pollExchange .readDisplay).attempt with
  | .ok (some (.display display)) =>
    Act.modify fun meter => { meter with context := display.context }
    emitDisplay display
    pure .sampled
  | .ok (some _) => Act.fail (.codec .dataMismatch)
  | .ok none => pure .waiting
  | .error error => if error.isRetryable then pure .dropped else Act.fail error

/-- The window to ask for: the one at hand, else one planned from the cursor on. -/
def windowOrPlan (info : Storage.Info) : Act (Meter ω) Storage.Window := do
  let meter ← Act.get
  match meter.poll.window with
  | some window => pure window
  | none =>
    let remaining := min (info.readable - meter.poll.cursor) 0xffff
    let window ← Act.lift .storage (info.plan meter.poll.cursor remaining)
    changePoll fun poll => { poll with window := some window }
    pure window

/-- Hand over the entries of a block that was asked for with `window`. -/
def playBlock (kind : Storage.Kind) (info : Storage.Info) (window : Storage.Window)
    (block : Payload) : Act (Meter ω) PollStatus := do
  -- the next window is planned from the cursor, wherever this block takes it
  changePoll fun poll => { poll with window := none }
  match info.entries block.bytes with
  | [] =>
    let meter ← Act.get
    Act.log (.emptyBlock kind meter.poll.cursor)
    countError
    pure .dropped
  | entries =>
    (entries.take window.count.toNat).forM emitEntry
    let meter ← Act.get
    if info.readable ≤ meter.poll.cursor then
      Act.log (.finished kind info.readable)
      pure .finished
    else pure .sampled

/-- Ask for the entries from the playback position on, and hand them over when they arrive. -/
def playNext (kind : Storage.Kind) (info : Storage.Info) : Act (Meter ω) PollStatus := do
  let meter ← Act.get
  if info.readable ≤ meter.poll.cursor then pure .finished
  else
    let window ← windowOrPlan info
    match ← (pollExchange (.readMemory window.request)).attempt with
    | .ok (some (.memory block)) => playBlock kind info window block
    | .ok (some _) => Act.fail (.codec .dataMismatch)
    | .ok none => pure .waiting
    | .error error => if error.isRetryable then pure .dropped else Act.fail error

/-- Poll the playback of a storage. Each entry becomes a group with its reading and its number.
Another storage than before is played from its first entry on. -/
def pollStorage (patience : Nat) (kind : Storage.Kind) : Act (Meter ω) PollStatus := do
  changePoll fun poll =>
    -- polling the same storage again goes on where it was
    if poll.playback = some kind then poll
    else { poll.clear with playback := some kind, cursor := 0 }
  let info ← storageOrRead patience kind
  playNext kind info

end Meter

end Multimeter
