import Multimeter.Health
import Multimeter.Interpretation
import Multimeter.Link
import Multimeter.Storage.Entry
import Multimeter.Storage.Window
/-!
# Meter sessions

A session with one meter: what is known of the meter, the link to it, its error counter, the request
in flight and the playback position. This module holds the blocking operations. They repeat an
exchange after a soft failure as long as the error counter allows. A counter whose ceiling it cannot
pass allows that for ever, so these operations take patience: the most attempts of one exchange.
-/

namespace Multimeter

/-- The request in flight and the position of storage playback. -/
structure Poll where
  /-- The request that waits for its answer. -/
  pending : Option Request := none
  /-- How many times its answer has been looked for in vain. -/
  polls : Nat := 0
  /-- The entries that the request asks for. -/
  window : Option Storage.Window := none
  /-- The storage that is played back. -/
  playback : Option Storage.Kind := none
  /-- The next entry to play back. -/
  cursor : Nat := 0
  deriving DecidableEq, Repr

/-- Abandon the request in flight. -/
def Poll.clear (poll : Poll) : Poll := { poll with pending := none, polls := 0, window := none }

/-- A session with one meter over a wire with states `ω`. -/
structure Meter (ω : Type) where
  /-- The link to the meter. -/
  link : Link ω
  /-- The identification, once it has been read. -/
  information : Option Information
  /-- The storages, once they have been read. -/
  storages : Option Storages
  /-- The error counter. -/
  health : Health
  /-- What is in flight. -/
  poll : Poll
  /-- The mode of the last live answer. -/
  context : Context

namespace Meter

variable {ω : Type}

/-- A session that has not begun. -/
def new (wire : ω) (config : Config) : Meter ω :=
  { link := Link.new wire config, information := none, storages := none,
    health := Health.new config.maxErrors, poll := {}, context := {} }

/-- The model, once it is known. -/
def model? (meter : Meter ω) : Option ModelId := meter.information.map (·.model)

/-- The display is reported: on an unknown model the main display only. -/
def supports (meter : Meter ω) (channel : Channel) : Bool :=
  match meter.model? with
  | some model => ModelId.supports model channel
  | none => channel == .primary

/-- One of the storages, once they have been read. -/
def storage? (meter : Meter ω) (kind : Storage.Kind) : Option Storage.Info :=
  meter.storages.map (·.get kind)

/-! ## Exchanges -/

/-- Do an act on the link of a session. -/
def onLink {α : Type} (act : Act (Link ω) α) : Act (Meter ω) α :=
  Act.within Meter.link (fun link meter => { meter with link }) act

/-- Count a failure, which is the end of the session's patience if the ceiling is passed. -/
def countError : Act (Meter ω) Unit := do
  Act.modify fun meter => { meter with health := meter.health.recordError }
  let meter ← Act.get
  if meter.health.isExceeded then
    Act.log (.unresponsive meter.health.errors)
    Act.fail .unresponsive

/-- Count a success. -/
def countSuccess : Act (Meter ω) Unit :=
  Act.modify fun meter => { meter with health := meter.health.recordSuccess }

/-- Do an act on the link, and again after every soft failure that is tolerated. -/
def retry {α : Type} (act : Act (Link ω) α) : (patience : Nat) → Act (Meter ω) α
  | 0 => Act.giveUp
  | patience + 1 => do
    match ← (onLink act).attempt with
    | .ok value =>
      countSuccess
      pure value
    | .error error =>
      if error.isRetryable then
        countError
        let meter ← Act.get
        Act.log (.retrying meter.health.errors meter.health.ceiling)
        retry act patience
      else Act.fail error

variable [Wire ω]

/-- Send a request and wait for its answer, repeating it after soft failures. -/
def exchange (patience : Nat) (request : Request) : Act (Meter ω) Response :=
  retry (Link.request request) patience

/-! ## Blocking operations -/

/-- Read and keep the identification. -/
def identify (patience : Nat) : Act (Meter ω) Information := do
  match ← exchange patience .readInformation with
  | .information information =>
    Act.log (.identified information)
    Act.modify fun meter => { meter with information := some information }
    pure information
  | _ => Act.fail (.codec .dataMismatch)

/-- Read the displays. -/
def readDisplay (patience : Nat) : Act (Meter ω) Display := do
  match ← exchange patience .readDisplay with
  | .display display =>
    Act.modify fun meter => { meter with context := display.context }
    pure display
  | _ => Act.fail (.codec .dataMismatch)

/-- Read and keep how full the storages are. -/
def readStorages (patience : Nat) : Act (Meter ω) Storages := do
  let meter ← Act.get
  match meter.model? with
  | none => Act.fail .notIdentified
  | some model =>
    match ← exchange patience (.readMemory Storage.infoBlock) with
    | .memory block =>
      let storages ← Act.lift .storage (Storages.decode model block.bytes)
      Act.log (.storage storages.mem)
      Act.log (.storage storages.log)
      Act.modify fun meter => { meter with storages := some storages }
      pure storages
    | _ => Act.fail (.codec .dataMismatch)

/-- One of the storages, which are read unless they are known. -/
def storageOrRead (patience : Nat) (kind : Storage.Kind) : Act (Meter ω) Storage.Info := do
  let meter ← Act.get
  match meter.storage? kind with
  | some info => pure info
  | none => return (← readStorages patience).get kind

/-- Read stored entries from entry `start` on: at most `count`, at most as many as one answer
carries, and none beyond the slot. -/
def readEntries (patience : Nat) (kind : Storage.Kind) (start count : Nat) :
    Act (Meter ω) (List Reading) := do
  let info ← storageOrRead patience kind
  let window ← Act.lift .storage (info.plan start count)
  match ← exchange patience (.readMemory window.request) with
  | .memory block => pure ((info.entries block.bytes).take window.count.toNat)
  | _ => Act.fail (.codec .dataMismatch)

end Meter

end Multimeter
