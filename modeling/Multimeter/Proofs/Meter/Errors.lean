import Multimeter.Proofs.Meter.Operations
import Multimeter.Wire.Scripted
/-!
# Errors of a session

What may go away is tried again or counted, so it never leaves a session. What leaves it is a
failure of the line, the end of its patience, or a storage that cannot be read.

* `Orderly`: the parser of the link is in order.
* `retry_ends`, `exchange_ends`: a repeated exchange has no soft errors.
* `pollExchange_ends`: the errors of one poll, and the command of its response.
* `playNext_ends`: a playback can always plan its next window.
* `Operation.MayFail`: the errors of an operation.
* `run_errors`: there are no others, whatever has been done before.
-/

namespace Multimeter

/-- The layout of the storages is not known, or it could not be read. -/
def SessionError.IsUnreadable (error : SessionError) : Prop :=
  error.isHard = true ∨ error = .notIdentified ∨ error = .storage .unsupported

/-- Storage information is refused only for the series of the meter. -/
theorem Storages.error_of_decode {model : ModelId} {block : List UInt8} {error : StorageError}
    (h : Storages.decode model block = .error error) : error = .unsupported := by
  unfold Storages.decode at h
  split at h
  · split at h
    · cases h
    · exact (Except.error.inj h).symm
  · exact (Except.error.inj h).symm

namespace Meter

open Act

variable {ω : Type} {α : Type} {promise : α → Prop} {may : SessionError → Prop}

/-- What the parser of the link holds is the beginning of a frame. -/
def Orderly (meter : Meter ω) (_ : List Event) : Prop := meter.link.parser.Coherent

/-! ## Steps -/

/-- An act of the link ends within a session as it does on the link. -/
theorem onLink_ends {act : Act (Link ω) α}
    (h : Ensures Link.Coherent act (Ends Link.Coherent promise may)) :
    Ensures Orderly (onLink act) (Ends Orderly promise may) := by
  intro meter history hmeter
  obtain ⟨hkept, hvalue, herror⟩ := h meter.link history hmeter
  exact ⟨hkept, hvalue, herror⟩

/-- Where an act returns wherever the session stands, it leaves the parser in order. -/
theorem returns_orderly {act : Act (Meter ω) Unit}
    (h : ∀ config calls known, ∃ calls' known', Ensures (Standing Link.Coherent config calls known)
      act (Returns () (Standing Link.Coherent config calls' known'))) :
    Ensures Orderly act (Returns () Orderly) := by
  intro meter history hmeter
  obtain ⟨calls, known, hact⟩ := h meter.link.config (sunk history) meter
  obtain ⟨hending, hstanding⟩ := hact meter history ⟨hmeter, ⟨rfl, rfl⟩, rfl, rfl, rfl, rfl⟩
  exact ⟨hending, hstanding.link⟩

/-- Counting an error fails only by giving the meter up. -/
theorem countError_ends :
    Ensures Orderly (countError (ω := ω)) (Ends Orderly (fun _ => True) (· = .unresponsive)) := by
  refine ends_modify_bind (ensures_get_bind fun meter => Ensures.of_left ?_) fun _ _ h => h
  split
  · exact (returns_log fun _ _ h => h).returns_bind (ends_fail (fun _ _ h => h) rfl)
  · exact ends_pure (fun _ _ h => h) trivial

/-- An act behind the count of an error ends as it does without, or the meter is given up. -/
theorem countError_bind_ends {second : Act (Meter ω) α} (hmay : may .unresponsive)
    (h : Ensures Orderly second (Ends Orderly promise may)) :
    Ensures Orderly (countError >>= fun _ => second) (Ends Orderly promise may) := by
  refine countError_ends.ends_bind (fun _ _ => h) (fun _ _ h => h) ?_
  rintro _ rfl
  exact hmay

/-- What may go away is tried again, until the error counter has had enough. -/
theorem retry_ends {act : Act (Link ω) α}
    (h : Ensures Link.Coherent act (Ends Link.Coherent promise SessionError.Expected))
    (patience : Nat) :
    Ensures Orderly (retry act patience) (Ends Orderly promise (·.isHard)) := by
  induction patience with
  | zero => exact ends_giveUp fun _ _ h => h
  | succ patience ih =>
    refine (onLink_ends h).ends_attempt.ends_bind (fun result hresult => ?_) (fun _ _ h => h) nofun
    rcases result with error | value
    · show Ensures _ (if error.isRetryable then _ else fail error) _
      split
      · refine countError_bind_ends rfl (ensures_get_bind fun meter => Ensures.of_left ?_)
        exact (returns_log fun _ _ h => h).returns_bind ih
      · rename_i hsoft
        exact ends_fail (fun _ _ h => h) ((hresult.2 error rfl).resolve_right hsoft)
    · exact ends_modify_bind (ends_pure (fun _ _ h => h) (hresult.1 value rfl)) fun _ _ h => h

/-- A request that is abandoned for an error of the line, or for one that may go away, fails with
such an error. -/
theorem abandon_ends {promise : Option Response → Prop} (entry : Log.Entry) {error : SessionError}
    (herror : error.Expected) :
    Ensures Orderly
      (log entry >>= fun _ => changePoll Poll.clear >>= fun _ => countError >>= fun _ =>
        (fail error : Act (Meter ω) (Option Response)))
      (Ends Orderly promise SessionError.Expected) := by
  refine (returns_log fun _ _ h => h).returns_bind (ends_modify_bind ?_ fun _ _ h => h)
  exact countError_bind_ends (.inl rfl) (ends_fail (fun _ _ h => h) herror)

/-- Handing over a display does not fail. -/
theorem emitDisplay_orderly (display : Display) :
    Ensures Orderly (emitDisplay (ω := ω) display) (Returns () Orderly) := by
  have hquiet : Link.Quiet (Link.Coherent (ω := ω)) := ⟨fun _ _ _ _ h => h, fun _ _ _ h => h⟩
  exact returns_orderly fun _ _ _ => ⟨_, _, emitDisplay_spec hquiet display⟩

/-- Handing over a block fails with a hard error only. -/
theorem playBlock_ends (kind : Storage.Kind) (info : Storage.Info) (window : Storage.Window)
    (block : Payload) :
    Ensures Orderly (playBlock (ω := ω) kind info window block)
      (Ends Orderly (fun _ => True) (·.isHard)) := by
  have hquiet : Link.Quiet (Link.Coherent (ω := ω)) := ⟨fun _ _ _ _ h => h, fun _ _ _ h => h⟩
  refine ends_modify_bind ?_ fun _ _ h => h
  rcases info.entries block.bytes with _ | ⟨entry, entries⟩
  · refine ensures_get_bind fun meter => Ensures.of_left ?_
    refine (returns_log fun _ _ h => h).returns_bind ?_
    exact countError_bind_ends rfl (ends_pure (fun _ _ h => h) trivial)
  · have hemit (taken : List Reading) :
        Ensures (Orderly (ω := ω)) (taken.forM emitEntry) (Returns () Orderly) :=
      returns_orderly fun _ _ _ => ⟨_, _, forM_emitEntry_spec hquiet taken⟩
    refine (hemit _).returns_bind (ensures_get_bind fun meter => Ensures.of_left ?_)
    split
    · exact (returns_log fun _ _ h => h).returns_bind (ends_pure (fun _ _ h => h) trivial)
    · exact ends_pure (fun _ _ h => h) trivial

variable [Wire ω] {config : Config} {calls : List Sink.Call} {known : Meter ω}
  {kind : Storage.Kind} {info : Storage.Info}

/-! ## Blocking operations -/

/-- An exchange ends with a response to the request, unless the line fails or patience ends. -/
theorem exchange_ends (patience : Nat) (request : Request) :
    Ensures Orderly (exchange (ω := ω) patience request)
      (Ends Orderly (fun response => response.command = request.command) (·.isHard)) :=
  retry_ends (Link.request_ends request) patience

/-- Identifying the meter fails with a hard error only. -/
theorem identify_ends (patience : Nat) :
    Ensures Orderly (identify (ω := ω) patience) (Ends Orderly (fun _ => True) (·.isHard)) := by
  refine (exchange_ends patience .readInformation).ends_bind (fun response hcommand => ?_)
    (fun _ _ h => h) fun _ h => h
  -- no other response has the command of the request
  rcases response with information | _ | _ | _ | _ | _ | _
  case information =>
    refine (returns_log fun _ _ h => h).returns_bind ?_
    exact ends_modify_bind (ends_pure (fun _ _ h => h) trivial) fun _ _ h => h
  all_goals cases hcommand

/-- Reading the display fails with a hard error only. -/
theorem readDisplay_ends (patience : Nat) :
    Ensures Orderly (readDisplay (ω := ω) patience) (Ends Orderly (fun _ => True) (·.isHard)) := by
  refine (exchange_ends patience .readDisplay).ends_bind (fun response hcommand => ?_)
    (fun _ _ h => h) fun _ h => h
  rcases response with _ | display | _ | _ | _ | _ | _
  case display => exact ends_modify_bind (ends_pure (fun _ _ h => h) trivial) fun _ _ h => h
  all_goals cases hcommand

/-- Reading the storage information fails with a hard error, or since the meter is not identified,
or since its series is unknown. -/
theorem readStorages_ends (patience : Nat) :
    Ensures Orderly (readStorages (ω := ω) patience)
      (Ends Orderly (fun _ => True) SessionError.IsUnreadable) := by
  refine ensures_get_bind fun meter => Ensures.of_left ?_
  rcases meter.model? with _ | model
  · exact ends_fail (fun _ _ h => h) (.inr (.inl rfl))
  refine (exchange_ends patience (.readMemory Storage.infoBlock)).ends_bind
    (fun response hcommand => ?_) (fun _ _ h => h) fun _ h => .inl h
  rcases response with _ | _ | _ | _ | block | _ | _
  case memory =>
    refine ends_lift_bind (fun storages _ => ?_) (fun _ _ h => h) fun error herror => ?_
    · refine (returns_log fun _ _ h => h).returns_bind ?_
      refine (returns_log fun _ _ h => h).returns_bind ?_
      exact ends_modify_bind (ends_pure (fun _ _ h => h) trivial) fun _ _ h => h
    · rw [Storages.error_of_decode herror]
      exact .inr (.inr rfl)
  all_goals cases hcommand

/-- A storage that is known is at hand. -/
theorem storageOrRead_ends (patience : Nat) (kind : Storage.Kind) (stored : Option Storage.Info) :
    Ensures (fun meter history => Orderly meter history ∧ meter.storage? kind = stored)
      (storageOrRead (ω := ω) patience kind)
      (Ends Orderly (fun _ => True) fun error => stored = none ∧ error.IsUnreadable) := by
  refine ensures_get_bind fun meter => ?_
  refine Ensures.weaken (Ensures.of_imp fun hstored : meter.storage? kind = stored => ?_)
    (fun state history h => ⟨by rw [← h.2, h.1.2], h.1.1⟩) fun _ _ _ h => h
  rw [hstored]
  rcases stored with _ | info
  · exact (readStorages_ends patience).ends_bind
      (fun storages _ => ends_pure (fun _ _ h => h) trivial) (fun _ _ h => h) fun _ h => ⟨rfl, h⟩
  · exact ends_pure (fun _ _ h => h) trivial

/-- Reading entries fails as reading the storage information does, or because the entries cannot be
asked for. -/
theorem readEntries_ends (patience : Nat) (kind : Storage.Kind) (start count : Nat) :
    Ensures Orderly (readEntries (ω := ω) patience kind start count)
      (Ends Orderly (fun _ => True) fun error =>
        error.IsUnreadable ∨ ∃ cause, error = .storage cause) := by
  -- whatever is known of the storage, the look-up ends so
  have hstorage : Ensures Orderly (storageOrRead (ω := ω) patience kind)
      (Ends Orderly (fun _ => True) SessionError.IsUnreadable) := by
    intro meter history h
    exact (storageOrRead_ends patience kind (meter.storage? kind) meter history ⟨h, rfl⟩).weaken
      (fun _ h => h) fun _ h => h.2
  refine hstorage.ends_bind (fun info _ => ?_) (fun _ _ h => h) fun _ h => .inl h
  refine ends_lift_bind (fun window _ => ?_) (fun _ _ h => h) fun error _ => .inr ⟨error, rfl⟩
  refine (exchange_ends patience (.readMemory window.request)).ends_bind
    (fun response hcommand => ?_) (fun _ _ h => h) fun _ h => .inl (.inl h)
  rcases response with _ | _ | _ | _ | block | _ | _
  case memory => exact ends_pure (fun _ _ h => h) trivial
  all_goals cases hcommand

/-! ## Polls -/

omit [Wire ω] in
/-- The request in flight, if there is one, is `request`. -/
def Asking (request : Request) (meter : Meter ω) (history : List Event) : Prop :=
  Orderly meter history ∧ (meter.poll.pending = none ∨ meter.poll.pending = some request)

/-- The request in flight is the one that is asked for, whether it was pending or has just
been sent. -/
theorem pendingOrSend_ends (request : Request) :
    Ensures (Asking request) (pendingOrSend (ω := ω) request)
      (Ends Orderly (· = request) SessionError.Expected) := by
  refine ensures_get_bind fun meter => ?_
  refine Ensures.weaken (Ensures.of_imp fun hpending : meter.poll.pending = none ∨
      meter.poll.pending = some request => ?_)
    (fun state history h => ⟨by rw [← h.2]; exact h.1.2, h.1.1⟩) fun _ _ _ h => h
  rcases hpending with hnone | hsome
  · rw [hnone]
    refine (onLink_ends (Link.sendRequest_ends request)).ends_bind (fun _ _ => ?_) (fun _ _ h => h)
      fun _ h => h
    exact ends_modify_bind (ends_pure (fun _ _ h => h) rfl) fun _ _ h => h
  · rw [hsome]
    exact ends_pure (fun _ _ h => h) rfl

/-- One poll ends with a response to the request, with nothing or with an expected error. -/
theorem pollExchange_ends (request : Request) :
    Ensures (Asking request) (pollExchange (ω := ω) request)
      (Ends Orderly request.AnsweredBy SessionError.Expected) := by
  refine (pendingOrSend_ends request).ends_bind (fun asked hasked => ?_) (fun _ _ h => h)
    fun _ h => h
  subst hasked
  refine (onLink_ends (Link.pollResponse_ends asked)).ends_attempt.ends_bind
    (fun result hresult => ?_) (fun _ _ h => h) nofun
  -- an error that may go away is counted, any other ends the poll
  rcases result with error | found
  · have herror : error.Expected := hresult.2 error rfl
    show Ensures _ (if error.isRetryable then _ else _) _
    split
    · exact abandon_ends _ herror
    · exact ends_modify_bind (ends_fail (fun _ _ h => h) herror) fun _ _ h => h
  have hfound := hresult.1 found rfl
  -- without an answer, the poll waits or its request is abandoned
  rcases found with _ | response
  · refine ends_modify_bind (ensures_get_bind fun meter => Ensures.of_left ?_) fun _ _ h => h
    show Ensures _ (if _ then _ else _) _
    split
    · exact abandon_ends _ (.inr rfl)
    · exact ends_pure (fun _ _ h => h) (fun _ heq => nomatch heq)
  · refine ends_modify_bind (ends_modify_bind ?_ fun _ _ h => h) fun _ _ h => h
    exact ends_pure (fun _ _ h => h) hfound

/-- After one poll, errors that may go away are dropped, and there is no response of
another kind. -/
theorem pollExchange_bind_ends (request : Request)
    {second : Except SessionError (Option Response) → Act (Meter ω) PollStatus}
    (hanswer : ∀ response, response.command = request.command →
      Ensures Orderly (second (.ok (some response))) (Ends Orderly (fun _ => True) (·.isHard)))
    (hnone : second (.ok none) = Pure.pure .waiting)
    (herror : ∀ error,
      second (.error error) = if error.isRetryable then Pure.pure .dropped else fail error) :
    Ensures (Asking request) ((pollExchange request).attempt >>= second)
      (Ends Orderly (fun _ => True) (·.isHard)) := by
  refine (pollExchange_ends request).ends_attempt.ends_bind (fun result hresult => ?_)
    (fun _ _ h => h) nofun
  rcases result with error | _ | response
  · rw [herror]
    split
    · exact ends_pure (fun _ _ h => h) trivial
    · rename_i hsoft
      exact ends_fail (fun _ _ h => h) ((hresult.2 error rfl).resolve_right hsoft)
  · rw [hnone]
    exact ends_pure (fun _ _ h => h) trivial
  · exact hanswer response (hresult.1 _ rfl response rfl)

/-- A poll of the displays fails with a hard error only. -/
theorem pollLive_ends :
    Ensures Orderly (pollLive (ω := ω)) (Ends Orderly (fun _ => True) (·.isHard)) := by
  have hasking (meter : Meter ω) (history : List Event) (h : Orderly meter history) :
      Asking .readDisplay { meter with poll := meter.poll.turnLive } history := by
    refine ⟨h, ?_⟩
    simp only [Poll.turnLive]
    split
    · exact .inl rfl
    · rename_i hlive
      rcases hpending : meter.poll.pending with _ | request
      · exact .inl rfl
      · exact .inr (by simpa [hpending] using hlive)
  refine ensures_modify_bind (pollExchange_bind_ends .readDisplay (fun response hcommand => ?_) rfl
    fun _ => rfl) hasking
  rcases response with _ | display | _ | _ | _ | _ | _
  case display =>
    refine ends_modify_bind ((emitDisplay_orderly display).returns_bind ?_) fun _ _ h => h
    exact ends_pure (fun _ _ h => h) trivial
  all_goals cases hcommand

omit [Wire ω] in
/-- Short of the last entry there is always a window to ask for. -/
theorem windowOrPlan_succeeds {inv : Link ω → List Event → Prop}
    (hsound : known.poll.Sound config.budget) (hkind : known.poll.playback = some kind)
    (hlayout : info.HasLayout kind) (hcursor : known.poll.cursor < info.readable) :
    Ensures (Standing inv config calls known) (windowOrPlan info) fun ending meter history =>
      match ending with
      | .returned window => (known.poll.Chooses info window ∧
          window.Covers kind.layout known.poll.cursor ∧
          ({ known.poll with window := some window } : Poll).Sound config.budget) ∧
            Standing inv config calls
              { known with poll := { known.poll with window := some window } }
              meter history
      | .failed _ => False
      | .unfinished => False := by
  -- a window is remembered, or it can be planned
  have hsucceeds : Ensures (Standing inv config calls known) (windowOrPlan info) fun ending _ _ =>
      ∀ error, ending ≠ .failed error := by
    refine standing_get_bind fun meter hmeter _ => ?_
    rw [hmeter.poll]
    rcases known.poll.window with _ | window
    · -- the position is within the storage, and there are entries left
      have hplace : known.poll.cursor < info.capacity :=
        Nat.lt_of_lt_of_le hcursor (Nat.min_le_right _ _)
      obtain ⟨window, hplan⟩ := hlayout.exists_plan hplace
        (show 0 < min (info.readable - known.poll.cursor) 0xffff by omega)
      show Ensures _ (lift .storage (info.plan known.poll.cursor _) >>= _) _
      rw [hplan]
      exact fun _ _ _ _ => nofun
    · exact ensures_pure fun _ _ _ _ => nofun
  -- what is returned is a window as the playback needs it
  refine ((windowOrPlan_spec hsound hkind hlayout).and hsucceeds).weaken (fun _ _ h => ⟨h, h⟩)
    fun ending _ _ h => ?_
  rcases ending with window | error | _
  · exact h.1
  · exact absurd rfl (h.2 error)
  · exact h.1

/-- A playback whose storage is known goes on until the line fails or patience ends. -/
theorem playNext_ends (hsound : known.poll.Sound config.budget)
    (hkind : known.poll.playback = some kind) (hlayout : info.HasLayout kind) :
    Ensures (Standing Link.Coherent config calls known) (playNext kind info)
      (Ends Orderly (fun _ => True) (·.isHard)) := by
  refine standing_get_bind fun meter hmeter _ => ?_
  rw [hmeter.poll]
  split
  · exact ends_pure (fun _ _ h => h.link) trivial
  rename_i hreadable
  refine (windowOrPlan_succeeds hsound hkind hlayout (Nat.lt_of_not_le hreadable)).bind
    (fun window => ?_) (fun _ _ _ h => h.elim) fun _ _ h => h.elim
  -- the request in flight, if there is one, is that for the window
  refine (pollExchange_bind_ends (.readMemory window.request) (fun response hcommand => ?_) rfl
    fun _ => rfl).weaken (fun meter history h => ?_) fun _ _ _ h => h
  · rcases response with _ | _ | _ | _ | block | _ | _
    case memory => exact playBlock_ends kind info window block
    all_goals cases hcommand
  · obtain ⟨⟨-, -, hplanned⟩, hstanding⟩ := h
    have hasks : ({ known.poll with window := some window } : Poll).Asks
        (.readMemory window.request) := .inr ⟨window, kind, rfl, rfl, hkind⟩
    refine ⟨hstanding.link, ?_⟩
    rw [hstanding.alike.poll]
    exact (hplanned.pending_of_asks hasks).imp And.left id

/-- A poll of a storage fails as reading the storages does, and only while they are not known. -/
theorem pollStorage_ends (hsound : known.poll.Sound config.budget) (hknown : LaidOut known.storages)
    (patience : Nat) (kind : Storage.Kind) :
    Ensures (Standing Link.Coherent config calls known) (pollStorage patience kind)
      (Ends Orderly (fun _ => True) fun error =>
        error.isHard = true ∨ known.storage? kind = none ∧ error.IsUnreadable) := by
  let turned : Meter ω := { known with poll := known.poll.turnTo kind }
  refine (changePoll_spec (Poll.turnTo kind)).returns_bind ?_
  -- the storage is looked up, and read only if it is not known
  have hstorage : Ensures (Standing Link.Coherent config calls turned) (storageOrRead patience kind)
      fun ending meter history =>
        Promises (Surveyed Link.Coherent config calls turned) (fun info meter _ =>
          meter.storage? kind = some info ∧ info.HasLayout kind) ending meter history ∧
        Ends Orderly (fun _ => True) (fun error =>
          known.storage? kind = none ∧ error.IsUnreadable) ending meter history := by
    have hlaid : LaidOut turned.storages := hknown
    refine ((storageOrRead_spec lasting_coherent hlaid patience kind).and
      (storageOrRead_ends patience kind (known.storage? kind))).weaken (fun meter _ h => ?_)
      fun _ _ _ h => h
    exact ⟨h, h.link, h.alike.storage?_eq kind⟩
  refine hstorage.bind (fun info => ?_)
    (fun error _ _ h => h.2.failed.weaken (fun _ h => h) fun _ h => .inr h)
    fun _ _ h => ⟨h.2.kept, nofun, nofun⟩
  -- whatever is known of the storages then, the playback fails with a hard error only
  have hplay (storages : Option Storages) (hlayout : info.HasLayout kind) :
      Ensures (Standing Link.Coherent config calls { turned with storages }) (playNext kind info)
        (Ends Orderly (fun _ => True) fun error =>
          error.isHard = true ∨ known.storage? kind = none ∧ error.IsUnreadable) :=
    have hturned : ({ turned with storages } : Meter ω).poll.Sound config.budget :=
      hsound.turnTo kind
    (playNext_ends hturned (known.poll.playback_turnTo kind) hlayout).weaken (fun _ _ h => h)
      fun _ _ _ h => h.weaken (fun _ h => h) fun _ h => .inl h
  refine Ensures.weaken (Ensures.of_exists fun storages => Ensures.of_imp (hplay storages))
    (fun meter history h => ?_) fun _ _ _ h => h
  obtain ⟨⟨⟨storages, -, hstanding⟩, hinfo⟩, -⟩ := h
  exact ⟨storages, (hinfo info rfl).2, hstanding⟩

/-! ## Operations -/

/-- Stopping fails with a fault of the wire only. -/
theorem stop_ends (patience : Nat) :
    Ensures Orderly (stop (ω := ω) patience)
      (Ends Orderly (fun _ => True) fun error => ∃ fault, error = .io fault) :=
  ends_modify_bind (onLink_ends (Link.reset_ends patience)) fun _ _ h => h

/-- The errors of an operation. -/
def Operation.MayFail : Operation → SessionError → Prop
  | .call .identify, error | .call .readDisplay, error | .call .pollLive, error =>
    error.isHard = true
  | .call .readStorages, error | .call (.pollStorage _), error => error.IsUnreadable
  | .call (.readEntries _ _ _), error => error.IsUnreadable ∨ ∃ cause, error = .storage cause
  | .stop, error => ∃ fault, error = .io fault

/-- An operation on a reached session fails only with the errors that it may fail with. -/
theorem operation_ends (patience : Nat) (operation : Operation) :
    Ensures (Reached Link.Coherent config) (operation.act (ω := ω) patience)
      (Ends Orderly (fun _ => True) operation.MayFail) := by
  -- all but polls of a storage need nothing more of the session than an orderly parser
  have hreached {operation : Operation} (h : Ensures Orderly (operation.act (ω := ω) patience)
      (Ends Orderly (fun _ => True) operation.MayFail)) :
      Ensures (Reached Link.Coherent config) (operation.act patience)
        (Ends Orderly (fun _ => True) operation.MayFail) :=
    h.weaken (fun _ _ h => h.1.link) fun _ _ _ h => h
  rcases operation with call | _
  · rcases call with _ | _ | _ | ⟨kind, start, count⟩ | _ | kind
    case identify => exact hreached (identify_ends patience).ends_discard
    case readDisplay => exact hreached (readDisplay_ends patience).ends_discard
    case readStorages => exact hreached (readStorages_ends patience).ends_discard
    case readEntries => exact hreached (readEntries_ends patience kind start count).ends_discard
    case pollLive => exact hreached pollLive_ends.ends_discard
    case pollStorage =>
      have hpoll : Ensures (Reached Link.Coherent config) (pollStorage (ω := ω) patience kind)
          (Ends Orderly (fun _ => True) SessionError.IsUnreadable) := fun meter history h =>
        (pollStorage_ends h.2.1 h.2.2 patience kind meter history h.1).weaken (fun _ h => h)
          fun _ herror => herror.elim .inl And.right
      exact hpoll.ends_discard
  · exact hreached (stop_ends patience)

/-- No error of an operation may go away by itself, and none is one of a frame or of a codec. -/
theorem Operation.MayFail.hard {operation : Operation} {error : SessionError}
    (h : operation.MayFail error) :
    error.isRetryable = false ∧ (∀ cause, error ≠ .frame cause) ∧
      ∀ cause, error ≠ .codec cause := by
  have hunreadable {error : SessionError}
      (h : error.IsUnreadable ∨ ∃ cause, error = .storage cause) :
      error.isRetryable = false ∧ (∀ cause, error ≠ .frame cause) ∧
        ∀ cause, error ≠ .codec cause := by
    cases error <;>
      simp [SessionError.IsUnreadable, SessionError.isHard, SessionError.isRetryable] at h ⊢
  rcases operation with call | _
  · rcases call with _ | _ | _ | ⟨kind, start, count⟩ | _ | kind
    case identify | readDisplay | pollLive => exact hunreadable (.inl (.inl h))
    case readStorages | pollStorage => exact hunreadable (.inl h)
    case readEntries => exact hunreadable h
  · obtain ⟨fault, rfl⟩ := h
    exact hunreadable (.inl (.inl rfl))

/-- Whatever has been done with a session over any wire: an operation ends with none but its own
errors, and these are never soft and come neither from a frame nor from a message. A storage that is
known can be planned from each of its entries on, so polling it fails only if the line does or
patience ends. A response has the command of the request that was exchanged or was in flight. -/
theorem run_errors (wire : ω) (config : Config) (operations : List (Nat × Operation)) :
    let meter := (perform (Meter.new wire config) operations).1
    (∀ patience (operation : Operation) error,
      ((operation.act patience).run meter).ending = .failed error →
        operation.MayFail error ∧ error.isRetryable = false ∧ (∀ cause, error ≠ .frame cause) ∧
          ∀ cause, error ≠ .codec cause) ∧
    (∀ kind info, meter.storage? kind = some info →
      (∀ patience error, ((pollStorage patience kind).run meter).ending = .failed error →
        error.isHard = true) ∧
      ∀ start count, start < info.readable → 0 < count →
        ∃ window, info.plan start count = .ok window) ∧
    (∀ patience request response,
      ((exchange patience request).run meter).ending = .returned response →
        response.command = request.command) ∧
    ∀ request response, meter.poll.pending = none ∨ meter.poll.pending = some request →
      ((pollExchange request).run meter).ending = .returned (some response) →
        response.command = request.command := by
  intro meter
  have hreached : Reached Link.Coherent config meter
      (perform (Meter.new wire config) operations).2 := reached_perform wire config operations
  obtain ⟨hstanding, hsound, hlaid⟩ := id hreached
  refine ⟨fun patience operation error hending => ?_, fun kind info hinfo => ⟨?_, ?_⟩, ?_, ?_⟩
  -- an operation fails only as it may, and what may end it is never soft
  · have hmay := (operation_ends patience operation meter _ hreached).error error hending
    exact ⟨hmay, hmay.hard⟩
  · intro patience error hending
    have hmay := (pollStorage_ends hsound hlaid patience kind meter _ hstanding).error error hending
    -- the storage is known, so the poll need not read it
    refine hmay.resolve_right fun h => ?_
    rw [hinfo] at h
    cases h.1
  · intro start count hstart hcount
    obtain ⟨storages, hstorages, rfl⟩ := Option.map_eq_some_iff.1 hinfo
    -- an entry that can be read has a place in the storage
    have hplace := Nat.lt_of_lt_of_le hstart (Nat.min_le_right _ _)
    exact (hlaid storages hstorages kind).exists_plan hplace hcount
  · intro patience request response hending
    exact (exchange_ends patience request meter [] hstanding.link).value response hending
  · intro request response hpending hending
    exact (pollExchange_ends request meter [] ⟨hstanding.link, hpending⟩).value
      _ hending response rfl

/-- Over a line that fails when the first request is written, identifying the meter fails
with it. -/
theorem run_errors_of_fault :
    let meter := Meter.new ({ rules := [.fault] } : ScriptedWire) {}
    (((Operation.call .identify).act 1).run meter).ending = .failed (.io ScriptedWire.fault) ∧
      (Operation.call .identify).MayFail (.io ScriptedWire.fault) := by
  intro meter
  have hending : (((Operation.call .identify).act 1).run meter).ending =
      .failed (.io ScriptedWire.fault) := by decide +kernel
  exact ⟨hending, ((run_errors ({ rules := [.fault] } : ScriptedWire) {} []).1 1 _ _ hending).1⟩

end Meter

end Multimeter
