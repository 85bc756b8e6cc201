import Multimeter.Meter
import Multimeter.Proofs.Codec
import Multimeter.Proofs.Link.Answered
import Multimeter.Proofs.Storage.Plan
/-!
# Exchanges of a session

What the blocking operations of a session do, over any wire. Each of them changes the link and the
error counter, and apart from these at most one thing that the session knows. What they return is
read from the frame handed out last.

* `Standing`: where a session stands, up to its link and its error counter.
* `retry_spec`, `exchange_spec`: repeated exchanges.
* `readStorages_spec`, `readEntries_spec`: the layout of storages that were read is the known one,
  and the entries returned are those of the block received last.
-/

namespace Multimeter

namespace Link

open Act

variable {ω : Type}

/-- What a session does beside its link does not matter to `inv`. -/
structure Quiet (inv : Link ω → List Event → Prop) : Prop where
  /-- A log entry that reports no frame. -/
  log (entry : Log.Entry) : (Event.logged entry).frame? = none → Keeps inv (log entry)
  /-- A call on the sink. -/
  sink (call : Sink.Call) : Keeps inv (Act.sink call)

/-- An answer that was handed out last may be added to a quiet invariant. -/
theorem Quiet.and_answered {inv : Link ω → List Event → Prop} (h : Quiet inv) (request : Request)
    (response : Response) :
    Quiet fun link history => inv link history ∧ Answered request response history where
  log entry hentry := (h.log entry hentry).and (ensures_report fun _ _ hanswered =>
    hanswered.behind hentry)
  sink call := (h.sink call).and (ensures_report fun _ _ hanswered => hanswered.behind rfl)

variable [Wire ω]

/-- Neither calls on the link nor what a session does beside it matter to `inv`. -/
structure Lasting (inv : Link ω → List Event → Prop) : Prop
    extends Maintained Frame.IsRequest inv, Quiet inv

end Link

/-- The storages, if they have been read, lie in memory as the known series have them. -/
def LaidOut (storages : Option Storages) : Prop :=
  ∀ known, storages = some known → ∀ kind, (known.get kind).HasLayout kind

namespace Meter

open Act

variable {ω : Type} {inv : Link ω → List Event → Prop} {config : Config} {calls : List Sink.Call}
  {known : Meter ω} {α : Type}

/-! ## Where a session stands -/

/-- The session is `known` up to its link and its error counter. -/
structure Alike (known meter : Meter ω) : Prop where
  /-- It has the same identification. -/
  information : meter.information = known.information
  /-- It knows the same of the storages. -/
  storages : meter.storages = known.storages
  /-- It has the same in flight. -/
  poll : meter.poll = known.poll
  /-- The last live answer had the same mode. -/
  context : meter.context = known.context

/-- Sessions that are alike know the same of every storage. -/
theorem Alike.storage?_eq {meter : Meter ω} (h : Alike known meter) (kind : Storage.Kind) :
    meter.storage? kind = known.storage? kind := by
  rw [storage?, h.storages]
  rfl

/-- The session is `known` up to its link and its error counter. The link satisfies `inv` and has
its timing, and the sink has been called as given. -/
structure Standing (inv : Link ω → List Event → Prop) (config : Config) (calls : List Sink.Call)
    (known meter : Meter ω) (history : List Event) : Prop where
  /-- The link satisfies the invariant. -/
  link : inv meter.link history
  /-- The timing of the link and the calls on the sink. -/
  plain : Link.Plain config calls meter.link history
  /-- The rest of the session. -/
  alike : Alike known meter

/-- What is read from the session is what is known of it. -/
theorem standing_get_bind {second : Meter ω → Act (Meter ω) α}
    {post : Ending α → Meter ω → List Event → Prop}
    (h : ∀ meter, Alike known meter → meter.link.config = config →
      Ensures (Standing inv config calls known) (second meter) post) :
    Ensures (Standing inv config calls known) (get >>= second) post := by
  refine ensures_get_bind fun meter => ?_
  refine Ensures.weaken (Ensures.of_imp
    fun hmeter : Alike known meter ∧ meter.link.config = config => h meter hmeter.1 hmeter.2)
    (fun state history hstate => ⟨?_, hstate.1⟩) fun _ _ _ hpost => hpost
  rw [← hstate.2]
  exact ⟨hstate.1.alike, hstate.1.plain.1⟩

/-- What an act promises on a link that makes no calls on the sink, it promises within
the session. -/
theorem onLink_spec {act : Act (Link ω) α} {promise : α → List Event → Prop}
    (h : Ensures (fun link history => inv link history ∧ Link.Plain config calls link history) act
      (Promises (fun link history => inv link history ∧ Link.Plain config calls link history)
        fun value _ history => promise value history)) :
    Ensures (Standing inv config calls known) (onLink act)
      (Promises (Standing inv config calls known) fun value _ history =>
        promise value history) := by
  intro meter history hstanding
  obtain ⟨⟨hlink, hplain⟩, hpost⟩ := h meter.link history ⟨hstanding.link, hstanding.plain⟩
  obtain ⟨hinformation, hstorages, hpoll, hcontext⟩ := hstanding.alike
  exact ⟨⟨hlink, hplain, hinformation, hstorages, hpoll, hcontext⟩, hpost⟩

/-- What an act keeps on a link that makes no calls on the sink, it keeps within the session. -/
theorem keeps_onLink {act : Act (Link ω) α}
    (h : Keeps (fun link history => inv link history ∧ Link.Plain config calls link history) act) :
    Keeps (Standing inv config calls known) (onLink act) := by
  intro meter history hstanding
  obtain ⟨hlink, hplain⟩ := h meter.link history ⟨hstanding.link, hstanding.plain⟩
  obtain ⟨hinformation, hstorages, hpoll, hcontext⟩ := hstanding.alike
  exact ⟨hlink, hplain, hinformation, hstorages, hpoll, hcontext⟩

/-- The error counter may change without changing how the session stands. -/
theorem Standing.withHealth {meter : Meter ω} {history : List Event}
    (h : Standing inv config calls known meter history) (health : Health) :
    Standing inv config calls known { meter with health } history :=
  ⟨h.link, h.plain, h.alike.information, h.alike.storages, h.alike.poll, h.alike.context⟩

/-- A log entry that reports no frame leaves the session as it stands. -/
theorem Standing.logged (hinv : Link.Quiet inv) {meter : Meter ω} {history : List Event}
    (h : Standing inv config calls known meter history) {entry : Log.Entry}
    (hentry : (Event.logged entry).frame? = none) :
    Standing inv config calls known meter (history ++ [.logged entry]) where
  link := hinv.log entry hentry meter.link history h.link
  plain := ⟨h.plain.1, by rw [sunk_append, h.plain.2]; exact List.append_nil _⟩
  alike := h.alike

/-- Counting an error leaves the session as it stands. -/
theorem keeps_countError (hinv : Link.Quiet inv) :
    Keeps (Standing inv config calls known) countError := by
  refine ensures_modify_bind (keeps_get.bind fun meter => ?_) fun _ _ h => h.withHealth _
  split
  · exact (returns_log fun _ _ h => h.logged hinv rfl).returns_bind (keeps_fail _)
  · exact keeps_pure ()

/-! ## Exchanges -/

variable [Wire ω]

/-- A repeated act on the link ends with what one of its attempts ended with. -/
theorem retry_spec (hinv : Link.Lasting inv) {act : Act (Link ω) α}
    {promise : α → List Event → Prop}
    (h : Ensures (fun link history => inv link history ∧ Link.Plain config calls link history) act
      (Promises (fun link history => inv link history ∧ Link.Plain config calls link history)
        fun value _ history => promise value history)) (patience : Nat) :
    Ensures (Standing inv config calls known) (retry act patience)
      (Promises (Standing inv config calls known) fun value _ history =>
        promise value history) := by
  -- every attempt starts from the same known session, up to the link and the error counter
  induction patience with
  | zero => exact promises_giveUp fun _ _ h => h
  | succ patience ih =>
    refine (onLink_spec h).promises_attempt.promises_bind (fun result => ?_) fun _ _ h => h
    cases result with
    | ok value =>
      exact promises_modify_pure fun _ _ h => ⟨h.1.withHealth _, h.2 value rfl⟩
    | error error =>
      refine Ensures.of_left ?_
      show Ensures _ (if error.isRetryable then _ else Act.fail error) _
      split
      · refine (keeps_countError hinv.toQuiet).promises_bind (fun _ => ?_) fun _ _ h => h
        refine ensures_get_bind fun meter => Ensures.of_left ?_
        exact (returns_log fun _ _ h => h.logged hinv.toQuiet rfl).returns_bind ih
      · exact promises_fail fun _ _ h => h

/-- The response that an exchange returns answers its request, and was read from the frame handed
out last. -/
theorem exchange_spec (hinv : Link.Lasting inv) (patience : Nat) (request : Request) :
    Ensures (Standing inv config calls known) (exchange patience request)
      (Promises (Standing inv config calls known) fun response _ history =>
        Answered request response history) :=
  have hkeeps :=
    (hinv.toMaintained.and (Link.maintained_plain _ config calls)).keeps_request request
    fun _ hframe => ⟨request, hframe⟩
  retry_spec hinv (hkeeps.promises (Link.request_spec request) fun _ _ _ => trivial) patience

/-! ## Blocking operations -/

/-- Identifying the meter changes what is known of it, if it returns at all. -/
theorem identify_change (hinv : Link.Lasting inv) (patience : Nat) :
    Ensures (Standing inv config calls known) (identify patience) fun ending meter history =>
      match ending with
      | .returned information =>
        Standing inv config calls { known with information := some information } meter history ∧
          Answered .readInformation (.information information) history
      | _ => Standing inv config calls known meter history := by
  refine (exchange_spec hinv patience .readInformation).bind (fun response => ?_)
    (fun _ _ _ h => h.1) fun _ _ h => h.1
  -- an answer of another kind is an error of the session, after which nothing new is known
  cases response with
  | information information =>
    refine (returns_log fun _ _ h =>
      ⟨h.1.logged hinv.toQuiet rfl, fun _ heq => (h.2 _ heq).behind rfl⟩).returns_bind ?_
    refine ensures_modify_bind (ensures_pure fun _ _ h => h) fun _ _ h => ⟨?_, h.2 _ rfl⟩
    exact ⟨h.1.link, h.1.plain, rfl, h.1.alike.storages, h.1.alike.poll, h.1.alike.context⟩
  | _ => exact ensures_fail fun _ _ h => h.1

/-- Identifying the meter may change what is known of it. -/
theorem identify_spec (hinv : Link.Lasting inv) (patience : Nat) :
    Ensures (Standing inv config calls known) (identify patience)
      (Promises (fun meter history =>
          ∃ information, Standing inv config calls { known with information } meter history)
        fun information _ history =>
          Answered .readInformation (.information information) history) := by
  refine (identify_change hinv patience).weaken (fun _ _ h => h) fun ending _ _ h => ?_
  rcases ending with information | _ | _
  · refine ⟨⟨some information, h.1⟩, fun information' heq => ?_⟩
    rw [← Ending.returned.inj heq]
    exact h.2
  · exact ⟨⟨known.information, h⟩, nofun⟩
  · exact ⟨⟨known.information, h⟩, nofun⟩

/-- Reading the displays may change the mode that is known. -/
theorem readDisplay_spec (hinv : Link.Lasting inv) (patience : Nat) :
    Ensures (Standing inv config calls known) (readDisplay patience)
      (Promises (fun meter history =>
          ∃ context, Standing inv config calls { known with context } meter history)
        fun display _ history => Answered .readDisplay (.display display) history) := by
  refine (exchange_spec hinv patience .readDisplay).promises_bind (fun response => ?_)
    fun _ _ h => ⟨known.context, h⟩
  cases response with
  | display display =>
    exact promises_modify_pure fun _ _ h =>
      ⟨⟨display.context, h.1.link, h.1.plain, h.1.alike.information, h.1.alike.storages,
        h.1.alike.poll, rfl⟩, h.2⟩
  | _ => exact promises_fail fun _ _ h => ⟨known.context, h.1⟩

/-- The session is `known` up to its link, its error counter and what it knows of the storages,
which lie in memory as the known series have them. -/
def Surveyed (inv : Link ω → List Event → Prop) (config : Config) (calls : List Sink.Call)
    (known meter : Meter ω) (history : List Event) : Prop :=
  ∃ storages, LaidOut storages ∧ Standing inv config calls { known with storages } meter history

omit [Wire ω] in
/-- A session whose storages are laid out as they are known has been surveyed. -/
theorem Standing.surveyed {meter : Meter ω} {history : List Event}
    (h : Standing inv config calls known meter history) (hknown : LaidOut known.storages) :
    Surveyed inv config calls known meter history :=
  ⟨known.storages, hknown, h⟩

/-- Reading how full the storages are changes what is known of them, if it returns at all. -/
theorem readStorages_change (hinv : Link.Lasting inv) (patience : Nat) :
    Ensures (Standing inv config calls known) (readStorages patience) fun ending meter history =>
      match ending with
      | .returned storages => LaidOut (some storages) ∧
          Standing inv config calls { known with storages := some storages } meter history
      | _ => Standing inv config calls known meter history := by
  refine ensures_get_bind fun meter => Ensures.of_left ?_
  rcases meter.model? with _ | model
  · exact ensures_fail fun _ _ h => h
  refine (exchange_spec hinv patience (.readMemory Storage.infoBlock)).bind (fun response => ?_)
    (fun _ _ _ h => h.1) fun _ _ h => h.1
  rcases response with _ | _ | _ | _ | block | _ | _
  case memory =>
    refine ensures_lift_bind (fun storages hdecode => ?_) fun _ _ _ _ h => h.1
    -- what was decoded has the layout of the known series, however full the storages are
    have hlaid : LaidOut (some storages) := by
      intro storages' heq kind
      obtain rfl := Option.some.inj heq
      exact Storages.hasLayout_of_decode hdecode kind
    have hlog (entry : Log.Entry) (hentry : (Event.logged entry).frame? = none) :
        Ensures (Standing inv config calls known) (log entry)
          (Returns () (Standing inv config calls known)) :=
      returns_log fun _ _ h => h.logged hinv.toQuiet hentry
    have hpure : Ensures (Standing inv config calls { known with storages := some storages })
        (Pure.pure storages : Act (Meter ω) Storages) fun ending meter history =>
          match ending with
          | .returned storages => LaidOut (some storages) ∧
              Standing inv config calls { known with storages := some storages } meter history
          | _ => Standing inv config calls known meter history :=
      ensures_pure fun _ _ h => ⟨hlaid, h⟩
    refine Ensures.weaken ((hlog _ rfl).returns_bind ((hlog _ rfl).returns_bind
      (ensures_modify_bind hpure fun _ _ h => ?_))) (fun _ _ h => h.1) fun _ _ _ h => h
    exact ⟨h.link, h.plain, h.alike.information, rfl, h.alike.poll, h.alike.context⟩
  all_goals exact ensures_fail fun _ _ h => h.1

/-- Reading how full the storages are may change what is known of them. -/
theorem readStorages_spec (hinv : Link.Lasting inv) (hknown : LaidOut known.storages)
    (patience : Nat) :
    Ensures (Standing inv config calls known) (readStorages patience)
      (Promises (Surveyed inv config calls known) fun storages meter _ =>
        meter.storages = some storages) := by
  refine (readStorages_change hinv patience).weaken (fun _ _ h => h) fun ending _ _ h => ?_
  rcases ending with storages | error | _
  · refine ⟨⟨some storages, h⟩, fun storages' heq => ?_⟩
    rw [← Ending.returned.inj heq]
    exact h.2.alike.storages
  · exact ⟨h.surveyed hknown, nofun⟩
  · exact ⟨h.surveyed hknown, nofun⟩

/-- A storage that is known is at hand; one that is not is read, or it stays unknown. -/
theorem storageOrRead_change (hinv : Link.Lasting inv) (hknown : LaidOut known.storages)
    (patience : Nat) (kind : Storage.Kind) :
    Ensures (Standing inv config calls known) (storageOrRead patience kind)
      fun ending meter history => match ending with
      | .returned info => ∃ storages, (LaidOut storages ∧ storages.map (·.get kind) = some info ∧
          info.HasLayout kind) ∧ Standing inv config calls { known with storages } meter history
      | _ => known.storage? kind = none ∧ Standing inv config calls known meter history := by
  refine standing_get_bind fun meter hmeter _ => ?_
  rw [hmeter.storage?_eq]
  rcases hinfo : known.storage? kind with _ | info
  · refine (readStorages_change hinv patience).bind (fun storages => ?_) (fun _ _ _ h => ⟨rfl, h⟩)
      fun _ _ h => ⟨rfl, h⟩
    exact ensures_pure fun _ _ h => ⟨some storages, ⟨h.1, rfl, h.1 storages rfl kind⟩, h.2⟩
  · obtain ⟨storages, hstorages, rfl⟩ := Option.map_eq_some_iff.1 hinfo
    exact ensures_pure fun _ _ h =>
      ⟨known.storages, ⟨hknown, hinfo, hknown storages hstorages kind⟩, h⟩

/-- One of the storages, read if need be, lies in memory as the known series have it. -/
theorem storageOrRead_spec (hinv : Link.Lasting inv) (hknown : LaidOut known.storages)
    (patience : Nat) (kind : Storage.Kind) :
    Ensures (Standing inv config calls known) (storageOrRead patience kind)
      (Promises (Surveyed inv config calls known) fun info meter _ =>
        meter.storage? kind = some info ∧ info.HasLayout kind) := by
  refine (storageOrRead_change hinv hknown patience kind).weaken (fun _ _ h => h)
    fun ending meter _ h => ?_
  rcases ending with info | error | _
  · obtain ⟨storages, ⟨hlaid, hinfo, hlayout⟩, hstanding⟩ := h
    refine ⟨⟨storages, hlaid, hstanding⟩, fun info' heq => ?_⟩
    rw [← Ending.returned.inj heq]
    exact ⟨(hstanding.alike.storage?_eq kind).trans hinfo, hlayout⟩
  · exact ⟨h.2.surveyed hknown, nofun⟩
  · exact ⟨h.2.surveyed hknown, nofun⟩

/-- The entries returned are those of the block in the frame handed out last, which answers the
window planned for them. -/
theorem readEntries_spec (hinv : Link.Lasting inv) (hknown : LaidOut known.storages)
    (patience : Nat) (kind : Storage.Kind) (start count : Nat) :
    Ensures (Standing inv config calls known) (readEntries patience kind start count)
      (Promises (Surveyed inv config calls known) fun entries _ history =>
        ∃ (window : Storage.Window) (block : Payload), kind.layout.plan start count = .ok window ∧
          Answered (.readMemory window.request) (.memory block) history ∧
          entries = (kind.layout.entries block.bytes).take window.count.toNat) := by
  refine (storageOrRead_spec hinv hknown patience kind).promises_bind (fun info => ?_)
    fun _ _ h => h
  refine Ensures.weaken (Ensures.of_exists fun storages => Ensures.of_imp
    fun hfacts : LaidOut storages ∧ info.HasLayout kind => ?_)
    (fun meter history ⟨⟨storages, hlaid, hstanding⟩, _, hlayout⟩ =>
      ⟨storages, ⟨hlaid, hlayout⟩, hstanding⟩) fun _ _ _ h => h
  obtain ⟨hlaid, hlayout⟩ := hfacts
  -- the plan depends on the layout alone, so it may be told without the storage
  rw [hlayout.plan_eq]
  refine ensures_lift_bind (fun window hplan => ?_)
    fun _ _ _ _ h => ⟨⟨storages, hlaid, h⟩, nofun⟩
  refine (exchange_spec hinv patience (.readMemory window.request)).promises_bind
    (fun response => ?_) fun _ _ h => ⟨storages, hlaid, h⟩
  cases response with
  | memory block =>
    refine promises_pure fun _ _ h => ⟨⟨storages, hlaid, h.1⟩, window, block, hplan, h.2, ?_⟩
    rw [hlayout.entries_eq]
  | _ => exact promises_fail fun _ _ h => ⟨storages, hlaid, h.1⟩

end Meter

end Multimeter
