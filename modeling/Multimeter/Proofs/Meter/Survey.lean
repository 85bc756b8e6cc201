import Multimeter.Proofs.Link.Writes
import Multimeter.Proofs.Meter.Progress
import Multimeter.Proofs.Meter.Steps
import Multimeter.Wire.Scripted
/-!
# Models with storages

The layout of the storages is known for two series of meters, and it is checked when the storages
are surveyed: when it is read how full they are. From then on the survey stays, whatever meter
identifies itself later.

* `Storages.ofKnownSeries_of_decode`: a survey is made of the known series only.
* `Foreign`, `Foreign.refuses_readEntries`, `Foreign.refuses_pollStorage`: a meter of another series
  is asked how full its storages are, and for nothing in them.
* `Current`, `current_operation`: a survey is of the meter at hand until another one identifies
  itself.
* `keepsSeries_iff`: only one of no known series makes it a survey of another meter.
* `run_surveyed`: as long as none does, what is known of a storage is known of a meter of a known
  series, and only such a meter is asked for entries.
* `identify_keeps_survey`: another meter may be asked for entries, too.
-/

namespace Multimeter

/-- The model is of a series whose storages have a known layout. -/
def ModelId.OfKnownSeries (model : ModelId) : Prop :=
  model.family = .series200 ∨ model.family = .series500

instance (model : ModelId) : Decidable model.OfKnownSeries :=
  inferInstanceAs (Decidable (model.family = .series200 ∨ model.family = .series500))

/-- How full the storages are is read of models of the known series only. -/
theorem Storages.ofKnownSeries_of_decode {model : ModelId} {block : List UInt8}
    {storages : Storages} (h : decode model block = .ok storages) : model.OfKnownSeries := by
  simp only [decode] at h
  split at h
  · rename_i hknown
    simpa [ModelId.OfKnownSeries, knownFor] using hknown
  · cases h

/-- The bytes are a request for entries of a storage, as it is planned. -/
def AsksForEntries (bytes : List UInt8) : Prop :=
  ∃ (kind : Storage.Kind) (info : Storage.Info) (start count : Nat) (window : Storage.Window)
    (sent : Frame), info.HasLayout kind ∧ info.plan start count = .ok window ∧
      (Request.readMemory window.request).toFrame = .ok sent ∧ bytes = sent.encode

/-- The bytes are the request that asks how full the storages are. -/
def AsksForSurvey (bytes : List UInt8) : Prop :=
  ∃ sent, (Request.readMemory Storage.infoBlock).toFrame = .ok sent ∧ bytes = sent.encode

/-- All that was written are such requests. -/
def OnlySurveys (frames : List (List UInt8)) : Prop := ∀ bytes ∈ frames, AsksForSurvey bytes

/-- The entries of a storage lie behind the block that says how full the storages are. -/
theorem Storage.Window.Covers.request_ne_infoBlock {window : Window} {kind : Kind} {start : Nat}
    (h : window.Covers kind.layout start) : window.request ≠ infoBlock := by
  intro heq
  have haddress := h.address_eq
  rw [heq] at haddress
  have hinfo : infoBlock.address.toNat = 0x000a := rfl
  have hbase : 0x0500 ≤ kind.layout.baseAddress.toNat := by cases kind <;> decide
  omega

/-- No request for entries is taken for a survey. -/
theorem AsksForEntries.not_asksForSurvey {bytes : List UInt8} (h : AsksForEntries bytes) :
    ¬ AsksForSurvey bytes := by
  intro ⟨survey, hsurvey, hbytes⟩
  obtain ⟨kind, info, start, count, window, sent, hlayout, hplan, hsent, rfl⟩ := h
  rw [hlayout.plan_eq] at hplan
  obtain ⟨hcovers, -⟩ := Storage.Info.plan_spec hplan
  -- what is written tells the frame, and the frame tells the block of memory
  obtain rfl := Frame.encode_injective hbytes
  obtain ⟨hread, -⟩ := Request.ofFrame_of_toFrame hsent
  obtain ⟨hreadSurvey, -⟩ := Request.ofFrame_of_toFrame hsurvey
  have hsame := Except.ok.inj (hread.symm.trans hreadSurvey)
  exact hcovers.request_ne_infoBlock (Request.readMemory.inj hsame)

namespace Act

variable {σ α β : Type} {inv : σ → List Event → Prop}

/-- The act ends without a value and keeps `inv`. -/
def Refuses (inv : σ → List Event → Prop) (act : Act σ α) : Prop :=
  Ensures inv act fun ending state history =>
    (∀ value, ending ≠ .returned value) ∧ inv state history

/-- Failing is a way to refuse. -/
theorem refuses_fail (error : SessionError) : Refuses inv (fail error : Act σ α) :=
  ensures_fail fun _ _ h => ⟨nofun, h⟩

/-- Nothing comes behind an act that refuses. -/
theorem Refuses.bind {first : Act σ α} (h : Refuses inv first) (second : α → Act σ β) :
    Refuses inv (first >>= second) :=
  Ensures.bind h (fun value _ _ hreturned => absurd rfl (hreturned.1 value))
    (fun _ _ _ hfailed => ⟨nofun, hfailed.2⟩) fun _ _ hunfinished => ⟨nofun, hunfinished.2⟩

/-- An act that is followed by a refusal refuses. -/
theorem Keeps.refuses_bind {first : Act σ α} {second : α → Act σ β} (hfirst : Keeps inv first)
    (hsecond : ∀ value, Refuses inv (second value)) : Refuses inv (first >>= second) :=
  Ensures.bind hfirst hsecond (fun _ _ _ h => ⟨nofun, h⟩) fun _ _ h => ⟨nofun, h⟩

/-- An act that refuses keeps its invariant. -/
theorem Refuses.keeps {act : Act σ α} (h : Refuses inv act) : Keeps inv act :=
  h.weaken (fun _ _ hinv => hinv) fun _ _ _ hpost => hpost.2

end Act

namespace Meter

open Act

variable {ω : Type} {config : Config}

/-- The meter that was identified last is of a series whose storages have a known layout. -/
def KnowsLayout (meter : Meter ω) : Prop :=
  ∃ model, meter.model? = some model ∧ model.OfKnownSeries

/-- Which layout is known depends on the identification only. -/
theorem KnowsLayout.congr {meter meter' : Meter ω} (h : meter.KnowsLayout)
    (hinformation : meter'.information = meter.information) : meter'.KnowsLayout := by
  obtain ⟨model, hmodel, hseries⟩ := h
  refine ⟨model, ?_, hseries⟩
  rw [model?, hinformation]
  exact hmodel

/-! ## Meters of other series -/

/-- The meter is not known to be of a known series, its storages have not been surveyed, and no
request but the one for the survey has been written. -/
structure Foreign (meter : Meter ω) (history : List Event) : Prop where
  /-- The layout of the storages is not known. -/
  not_knowsLayout : ¬ meter.KnowsLayout
  /-- It is not known how full the storages are. -/
  storages_eq : meter.storages = none
  /-- Every request that was written asks how full the storages are. -/
  asked : Link.Writes OnlySurveys meter.link history

namespace Foreign

/-- Steps that write nothing and leave the identification and the storages alone. -/
theorem congr {meter meter' : Meter ω} {history : List Event} (h : Foreign meter history)
    (hinformation : meter'.information = meter.information)
    (hstorages : meter'.storages = meter.storages) : Foreign meter' history where
  not_knowsLayout hknows := h.not_knowsLayout (hknows.congr hinformation.symm)
  storages_eq := hstorages.trans h.storages_eq
  asked := h.asked

/-- Counting, logging and remembering what is in flight ask for nothing. -/
theorem bookkeeping : Bookkeeping (Foreign (ω := ω)) where
  log _ := ensures_report fun _ _ h => ⟨h.not_knowsLayout, h.storages_eq, h.asked.quiet rfl⟩
  recordError := ensures_modify fun _ _ h => h.congr rfl rfl
  recordSuccess := ensures_modify fun _ _ h => h.congr rfl rfl
  changePoll _ := ensures_modify fun _ _ h => h.congr rfl rfl

variable [Wire ω]

/-- Asking how full the storages are is all that may be asked. -/
theorem keeps_request :
    Keeps (Foreign (ω := ω)) (onLink (Link.request (.readMemory Storage.infoBlock))) := by
  have hwrites : Link.Maintained
      (fun frame => (Request.readMemory Storage.infoBlock).toFrame = .ok frame)
      (Link.Writes (ω := ω) OnlySurveys) := by
    refine Link.maintained_writes fun frame hframe frames hframes => ?_
    exact List.forall_mem_append.2 ⟨hframes, List.forall_mem_singleton.2 ⟨frame, hframe, rfl⟩⟩
  intro meter history h
  have hasked := hwrites.keeps_request (.readMemory Storage.infoBlock) (fun _ hframe => hframe)
    meter.link history h.asked
  exact ⟨fun hknows => h.not_knowsLayout (hknows.congr rfl), h.storages_eq, hasked⟩

/-- Whatever a meter of another series answers, it does not say how full the storages are. -/
theorem refuses_readStorages (patience : Nat) :
    Refuses (Foreign (ω := ω)) (readStorages patience) := by
  refine ensures_get_bind fun meter => ?_
  cases hmodel : meter.model? with
  | none => exact (refuses_fail .notIdentified).of_left
  | some model =>
    -- the meter at hand is the one that was identified when the survey began
    by_cases hseries : model.OfKnownSeries
    · intro meter' history ⟨h, heq⟩
      exact absurd ⟨model, heq ▸ hmodel, hseries⟩ h.not_knowsLayout
    · refine ((bookkeeping.keeps_retry keeps_request patience).refuses_bind
        fun response => ?_).of_left
      cases response with
      | memory block =>
        exact ensures_lift_bind
          (fun storages hdecode => absurd (Storages.ofKnownSeries_of_decode hdecode) hseries)
          fun _ _ _ _ h => ⟨nofun, h⟩
      | _ => exact refuses_fail _

/-- What a meter of another series stores is neither known nor read. -/
theorem refuses_storageOrRead (patience : Nat) (kind : Storage.Kind) :
    Refuses (Foreign (ω := ω)) (storageOrRead patience kind) := by
  refine ensures_get_bind fun meter => ?_
  intro meter' history ⟨h, heq⟩
  have hnone : meter.storage? kind = none := by rw [storage?, ← heq, h.storages_eq]; rfl
  rw [hnone]
  exact (refuses_readStorages patience).bind _ meter' history h

/-- A meter of another series is asked for no entries. -/
theorem refuses_readEntries (patience : Nat) (kind : Storage.Kind) (start count : Nat) :
    Refuses (Foreign (ω := ω)) (readEntries patience kind start count) :=
  (refuses_storageOrRead patience kind).bind _

/-- The storages of a meter of another series are not played back. -/
theorem refuses_pollStorage (patience : Nat) (kind : Storage.Kind) :
    Refuses (Foreign (ω := ω)) (pollStorage patience kind) :=
  (bookkeeping.changePoll _).refuses_bind fun _ => (refuses_storageOrRead patience kind).bind _

end Foreign

/-! ## The meter at hand -/

/-- The storages are known only of a meter of a known series, the one at hand. -/
def Current (meter : Meter ω) : Prop := meter.storages ≠ none → meter.KnowsLayout

/-- Unless the meter at hand is of a known series, nothing is known of its storages. -/
theorem Current.foreign {meter : Meter ω} (h : meter.Current) (hknows : ¬ meter.KnowsLayout) :
    Foreign meter [] where
  not_knowsLayout := hknows
  storages_eq := Classical.byContradiction fun hstorages => hknows (h hstorages)
  asked := nofun

/-- A survey of the meter at hand remains one as long as the session stands. -/
theorem Standing.current {inv : Link ω → List Event → Prop} {calls : List Sink.Call}
    {known meter : Meter ω} {history : List Event}
    (h : Standing inv config calls known meter history)
    (hknown : known.Current) : meter.Current := by
  intro hstorages
  rw [h.alike.storages] at hstorages
  exact (hknown hstorages).congr h.alike.information

/-- A meter whose storages are not known has no survey of another meter. -/
theorem Foreign.current {meter : Meter ω} {history : List Event} (h : Foreign meter history) :
    meter.Current := fun hstorages => absurd h.storages_eq hstorages

/-- An act that leaves the identification alone, and that a meter of another series refuses. -/
theorem Current.of_refuses {α : Type} {act : Act (Meter ω) α} {meter : Meter ω} (h : meter.Current)
    (hinformation : (act.run meter).state.information = meter.information)
    (hrefuses : Refuses Foreign act) : (act.run meter).state.Current := by
  by_cases hknows : meter.KnowsLayout
  · exact fun _ => hknows.congr hinformation
  · exact (hrefuses.keeps meter [] (h.foreign hknows)).current

/-- Dropping the value of an act leaves the survey as it is. -/
theorem Current.discard {α : Type} {act : Act (Meter ω) α} {meter : Meter ω}
    (h : (act.run meter).state.Current) : (act.discard.run meter).state.Current := by
  rw [(run_discard act meter).1]
  exact h

variable [Wire ω]

/-- Behind an identification, a survey is of the meter at hand if that is of a known series. -/
theorem current_identify_iff {meter : Meter ω} {history : List Event}
    (hreached : Reached Link.Coherent config meter history) {patience : Nat}
    {information : Information}
    (hending : ((identify patience).run meter).ending = .returned information) :
    ((identify patience).run meter).state.Current ↔
      (meter.storages ≠ none → information.model.OfKnownSeries) := by
  have hchange := identify_change lasting_coherent patience meter [] hreached.afresh
  rw [hending] at hchange
  -- the model is the one that has just been read, and the storages are as they were
  have hmodel : ((identify patience).run meter).state.model? = some information.model := by
    rw [model?, hchange.1.alike.information]
    rfl
  rw [Current, hchange.1.alike.storages, KnowsLayout, hmodel]
  simp only [Option.some.injEq, exists_eq_left']

/-- The meter at hand stays the one that was surveyed, unless another one identifies itself that is
of no known series. -/
theorem current_operation {meter : Meter ω} {history : List Event}
    (hreached : Reached Link.Coherent config meter history) (h : meter.Current) (patience : Nat)
    {operation : Operation}
    (hseries : operation = .call .identify → meter.storages ≠ none →
      ∀ information, ((identify patience).run meter).ending = .returned information →
        information.model.OfKnownSeries) :
    ((operation.act patience).run meter).state.Current := by
  have hstanding := hreached.afresh
  have hsound := hreached.2.1
  have hlaid := hreached.2.2
  have hinv := lasting_coherent (ω := ω)
  -- an operation leaves the identification alone, or it is one that identifies the meter
  rcases operation with call | _
  case stop => exact (stop_spec keeps_coherent_reset patience meter [] hstanding).current h
  rcases call with _ | _ | _ | ⟨kind, start, count⟩ | _ | kind
  case identify =>
    refine Current.discard ?_
    cases hending : ((identify patience).run meter).ending with
    | returned information =>
      exact (current_identify_iff hreached hending).2 fun hstorages =>
        hseries rfl hstorages information hending
    | failed error | unfinished =>
      have hchange := identify_change hinv patience meter [] hstanding
      rw [hending] at hchange
      exact hchange.current h
  case readDisplay =>
    obtain ⟨⟨context, hread⟩, -⟩ := readDisplay_spec hinv patience meter [] hstanding
    exact Current.discard (hread.current h)
  case pollLive =>
    obtain ⟨_, _, _, -, hpolled, -⟩ := pollLive_spec hinv hsound meter [] hstanding
    exact Current.discard (hpolled.current h)
  -- a meter of another series refuses all that is about its storages
  case readStorages =>
    obtain ⟨⟨_, -, hread⟩, -⟩ := readStorages_spec hinv hlaid patience meter [] hstanding
    exact Current.discard (h.of_refuses hread.alike.information
      (Foreign.refuses_readStorages patience))
  case readEntries =>
    obtain ⟨⟨_, -, hread⟩, -⟩ :=
      readEntries_spec hinv hlaid patience kind start count meter [] hstanding
    exact Current.discard
      (h.of_refuses hread.alike.information (Foreign.refuses_readEntries patience kind start count))
  case pollStorage =>
    obtain ⟨_, _, _, -, -, -, -, hplayed, -⟩ :=
      pollStorage_spec hinv hsound hlaid patience kind meter [] hstanding
    exact Current.discard
      (h.of_refuses hplayed.alike.information (Foreign.refuses_pollStorage patience kind))

/-! ## Runs -/

/-- Once the storages have been surveyed, no meter identifies itself that is of no known series. -/
def KeepsSeries (meter : Meter ω) : List (Nat × Operation) → Prop
  | [] => True
  | (patience, operation) :: later =>
    (operation = .call .identify → meter.storages ≠ none →
      ∀ information, ((identify patience).run meter).ending = .returned information →
        information.model.OfKnownSeries) ∧
      KeepsSeries ((operation.act patience).run meter).state later

/-- A survey is of the meter at hand in all that a run goes through just if no other meter
identifies itself that is of no known series. -/
theorem keepsSeries_iff {meter : Meter ω} {history : List Event}
    (hreached : Reached Link.Coherent config meter history) (h : meter.Current)
    (operations : List (Nat × Operation)) :
    meter.KeepsSeries operations ↔
      ∀ before, before <+: operations → (perform meter before).1.Current := by
  -- the first operation is checked where it starts, the others where it has led
  induction operations generalizing meter history with
  | nil =>
    refine ⟨fun _ before hprefix => ?_, fun _ => trivial⟩
    rw [List.prefix_nil.1 hprefix]
    exact h
  | cons step operations ih =>
    obtain ⟨patience, operation⟩ := step
    have hnext := keeps_operation lasting_coherent keeps_coherent_reset patience operation
      meter history hreached
    constructor
    · intro ⟨hseries, hlater⟩ before hprefix
      have hcurrent := current_operation hreached h patience hseries
      rcases List.prefix_cons_iff.1 hprefix with rfl | ⟨rest, rfl, hrest⟩
      · exact h
      · exact (ih hnext hcurrent).1 hlater rest hrest
    · intro hall
      have hcurrent : ((operation.act patience).run meter).state.Current :=
        hall [(patience, operation)] (List.prefix_append _ _)
      refine ⟨?_, (ih hnext hcurrent).2 fun before hprefix =>
        hall ((patience, operation) :: before) (List.cons_prefix_cons.2 ⟨rfl, hprefix⟩)⟩
      rintro rfl hstorages information hending
      have hidentified : ((identify patience).run meter).state.Current := by
        rwa [← (run_discard (identify patience) meter).1]
      exact (current_identify_iff hreached hending).1 hidentified hstorages

/-- Take any run of operations over any wire in which, once the storages have been surveyed, no
meter of another than the known series identifies itself. After it, if anything is known of a
storage, the meter that was identified last is of a known series. And if reading entries or polling
a storage then writes a request for entries, as planned, it is, too. -/
theorem run_surveyed (wire : ω) (config : Config) (operations : List (Nat × Operation))
    (hseries : (Meter.new wire config).KeepsSeries operations) :
    let meter := (perform (Meter.new wire config) operations).1
    (∀ kind info, meter.storage? kind = some info → meter.KnowsLayout) ∧
      ∀ patience kind start count, ∀ bytes, AsksForEntries bytes →
        bytes ∈ written ((readEntries patience kind start count).run meter).events ∨
          bytes ∈ written ((pollStorage patience kind).run meter).events →
        meter.KnowsLayout := by
  intro meter
  have hnew : (Meter.new wire config).Current := fun hne => absurd rfl hne
  -- the whole run is one of its beginnings
  have hcurrent : meter.Current :=
    (keepsSeries_iff (reached_perform wire config []) hnew operations).1 hseries operations
      List.prefix_rfl
  refine ⟨fun kind info hinfo => hcurrent ?_,
    fun patience kind start count bytes hasks hwritten => ?_⟩
  · obtain ⟨storages, hstorages, -⟩ := Option.map_eq_some_iff.1 hinfo
    exact Option.ne_none_iff_exists'.2 ⟨storages, hstorages⟩
  · -- of a meter that is not known to be of a known series, no entries would have been asked for
    refine Classical.byContradiction fun hknows => hasks.not_asksForSurvey ?_
    have hforeign := hcurrent.foreign hknows
    rcases hwritten with hwritten | hwritten
    · have hrefused :=
        (Foreign.refuses_readEntries patience kind start count).keeps meter [] hforeign
      exact hrefused.asked bytes hwritten
    · have hrefused := (Foreign.refuses_pollStorage patience kind).keeps meter [] hforeign
      exact hrefused.asked bytes hwritten

/-- The answers of a meter, one for each request. -/
def answersOf (responses : List Response) : ScriptedWire :=
  { replies := responses.map fun response => [.bytes response.frame.encode] }

/-- The request for the first entry of MEM. -/
def firstEntry : Frame :=
  ⟨.readMemory, ({ device := 0, address := 0x0500, length := 5 } : MemoryBlock).encode, by decide⟩

/-- The request for the first entry of the memory asks for entries. -/
theorem asksForEntries_firstEntry : AsksForEntries firstEntry.encode := by
  let window : Storage.Window :=
    { slot := 0, offset := 0, count := 1,
      request := { device := 0, address := 0x0500, length := 5 } }
  exact ⟨.mem, Storage.Kind.mem.layout, 0, 1, window, firstEntry, rfl, rfl, rfl, rfl⟩

/-- A meter of the 200 series that identifies itself again is asked for its entry. -/
theorem run_surveyed_of_two_hundred :
    let storages : Response := .memory ⟨[0, 0, 0, 1, 0, 1], by decide⟩
    let wire := answersOf [.information twoHundredSeries, storages, .information twoHundredSeries]
    let operations :=
      [(1, Operation.call .identify), (1, .call .readStorages), (1, .call .identify)]
    let meter := (perform (Meter.new wire {}) operations).1
    (Meter.new wire {}).KeepsSeries operations ∧ (meter.storage? .mem).isSome = true ∧
      firstEntry.encode ∈ written ((readEntries 1 .mem 0 1).run meter).events ∧
      meter.KnowsLayout := by
  intro storages wire operations meter
  have hseries : (Meter.new wire {}).KeepsSeries operations := by
    refine ⟨fun _ hne => absurd rfl hne, nofun, fun _ _ information hinformation => ?_, trivial⟩
    have hagain : ((identify 1).run (perform (Meter.new wire {}) (operations.take 2)).1).ending =
        .returned twoHundredSeries := by decide +kernel
    obtain rfl := Ending.returned.inj (hinformation.symm.trans hagain)
    exact .inl rfl
  have hwritten : firstEntry.encode ∈ written ((readEntries 1 .mem 0 1).run meter).events := by
    decide +kernel
  exact ⟨hseries, by decide +kernel, hwritten,
    (run_surveyed wire {} operations hseries).2 1 .mem 0 1
    firstEntry.encode asksForEntries_firstEntry (.inl hwritten)⟩

/-- The identification of a meter of the 150 series. -/
def hundredFiftySeries : Information :=
  { twoHundredSeries with name := "APPA 150B", model := .known .appa150B, name_fits := by decide }

/-- Behind a meter of the 200 series whose storages were surveyed, one of the 150 series identifies
itself. The survey stays, and the second meter is asked for an entry of the first. -/
theorem identify_keeps_survey :
    let storages : Response := .memory ⟨[0, 0, 0, 1, 0, 1], by decide⟩
    let wire := answersOf [.information twoHundredSeries, storages, .information hundredFiftySeries]
    let operations :=
      [(1, Operation.call .identify), (1, .call .readStorages), (1, .call .identify)]
    let meter := (perform (Meter.new wire {}) operations).1
    (meter.storage? .mem).isSome = true ∧ ¬ meter.KnowsLayout ∧ AsksForEntries firstEntry.encode ∧
      firstEntry.encode ∈ written ((readEntries 1 .mem 0 1).run meter).events := by
  intro storages wire operations meter
  have hmodel : meter.model? = some (.known .appa150B) := by decide +kernel
  refine ⟨by decide +kernel, fun ⟨model, hknown, hseries⟩ => ?_, asksForEntries_firstEntry,
    by decide +kernel⟩
  obtain rfl := Option.some.inj (hknown.symm.trans hmodel)
  exact absurd hseries (by decide)

end Meter

end Multimeter
