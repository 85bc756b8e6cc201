import Multimeter.Proofs.Answering.Entries
import Multimeter.Proofs.Meter.Errors
import Multimeter.Proofs.Meter.Progress
import Multimeter.Proofs.Paging.Link
/-!
# Reading a storage in pages

A storage is read in pages, by polls that hand its entries over or by calls that return them. With a
prompt meter both ways go through all entries in order, whatever the slots and however short the
answers are.

* `Covers.entries_of_offers`: the entries of an answer are the next ones of the storage.
* `pollExchange_idle`, `exchange_idle`: exchanges of a session with a prompt meter.
* `playAll`, `readAll`: the two ways.
* `pages_exact`: what they come to.
-/

namespace Multimeter

/-- Less memory than was asked for is the memory that a shorter request asks for. -/
theorem Image.Offers.bytes_eq {image : Image} {block : MemoryBlock} {payload : Payload}
    (h : image.Offers block payload) :
    payload.bytes = image.read { block with length := UInt8.ofNat payload.length } := by
  have hbytes := List.prefix_iff_eq_take.1 h.begins
  have hle : payload.bytes.length ≤ block.length.toNat := h.length_le
  have hmax : payload.bytes.length ≤ 64 := payload.length_le
  have hlength : (UInt8.ofNat payload.length).toNat = payload.bytes.length :=
    UInt8.toNat_ofNat_of_lt' (show payload.bytes.length < 256 by omega)
  rw [Image.read, ← List.map_take, List.take_range, Nat.min_eq_left hle] at hbytes
  rw [Image.read, hlength]
  exact hbytes

/-- The session takes the next entries of the storage from an answer, at least one. -/
theorem Storage.Window.Covers.entries_of_offers {window : Storage.Window} {kind : Storage.Kind}
    {start : Nat} (h : window.Covers kind.layout start) {image : Image} {payload : Payload}
    (hoffers : image.Offers window.request payload) :
    ∃ count, 0 < count ∧ count ≤ window.count.toNat ∧
      (kind.layout.entries payload.bytes).take window.count.toNat =
        (List.range' start count).map (image.entry kind) := by
  have hrecords := h.records hoffers.bytes_eq
  have hlength : ((kind.layout.entries payload.bytes).take window.count.toNat).length =
      min window.count.toNat (payload.length / Reading.size) := by
    rw [List.length_take, kind.length_entries]
  have hentry : 0 < payload.length / Reading.size :=
    Nat.div_pos hoffers.size_le (by decide)
  have hcount := h.count_pos
  refine ⟨min window.count.toNat (payload.length / Reading.size), by omega, by omega,
    List.ext_getElem ?_ fun index hindex _ => ?_⟩
  · rw [hlength, List.length_map, List.length_range']
  · rw [List.getElem_map, List.getElem_range', Nat.one_mul]
    exact hrecords.entry_eq rfl rfl index hindex

namespace Storage.Window.Covers

variable {window : Window} {kind : Kind} {start : Nat}

/-- A window asks for an entry at least. -/
theorem size_le_length (h : window.Covers kind.layout start) :
    Reading.size ≤ window.request.length.toNat := by
  have hsize : kind.layout.entrySize.toNat = Reading.size := by cases kind <;> rfl
  rw [h.length_eq, hsize]
  exact Nat.le_mul_of_pos_left _ h.count_pos

end Storage.Window.Covers

/-- A window for entries of the storage from `start` on, all among the first `amount`. -/
structure Storage.Window.Suits (window : Storage.Window) (kind : Storage.Kind)
    (start amount : Nat) : Prop where
  /-- It asks for entries from `start` on. -/
  covers : window.Covers kind.layout start
  /-- It asks for none beyond `amount`. -/
  le_amount : start + window.count.toNat ≤ amount

namespace Meter

open Act

variable {ω : Type} {α : Type} {image : Image} {ready : ω → Prop} {config : Config}
  {calls : List Sink.Call} {known : Meter ω} {kind : Storage.Kind} {info : Storage.Info}
  {block : MemoryBlock}

/-! ## Exchanges -/

/-- What an act of the link yields, it yields within the session. -/
theorem onLink_yields {pre inv : Link ω → List Event → Prop} {act : Act (Link ω) α}
    {promise : α → Prop} (h : Ensures pre act (Yields promise inv))
    (hplain : Keeps (Link.Plain config calls) act) :
    Ensures (Standing pre config calls known) (onLink act)
      (Yields promise (Standing inv config calls known)) := by
  intro meter history hstanding
  obtain ⟨value, hending, hvalue, hlink, hplain⟩ :=
    h.yields_and hplain meter.link history ⟨hstanding.link, hstanding.plain⟩
  obtain ⟨hinformation, hstorages, hpoll, hcontext⟩ := hstanding.alike
  exact ⟨value, hending, hvalue, hlink, hplain, hinformation, hstorages, hpoll, hcontext⟩

/-- An idle link stays idle while nothing is done on it. -/
theorem quiet_idle (ready : ω → Prop) : Link.Quiet (Link.Idle ready) where
  log _ _ := fun _ _ h => ⟨h.parser_eq, h.rest_eq, h.ready⟩
  sink _ := fun _ _ h => ⟨h.parser_eq, h.rest_eq, h.ready⟩

variable [Wire ω]

/-- A request for memory is answered at the first attempt. -/
theorem exchange_idle (hprompt : Prompt image ready)
    (hsize : Reading.size ≤ block.length.toNat) (hlength : block.length.toNat ≤ maxPayload)
    (patience : Nat) :
    Ensures (Standing (Link.Idle ready) config calls known)
      (exchange (patience + 1) (.readMemory block))
      (Yields (fun response => ∃ payload, image.Offers block payload ∧ response = .memory payload)
        (Standing (Link.Idle ready) config calls known)) := by
  have hplain : Keeps (Link.Plain config calls) (Link.request (ω := ω) (.readMemory block)) :=
    (Link.maintained_plain (fun _ => True) config calls).keeps_request _ fun _ _ => trivial
  refine (onLink_yields (Link.request_idle hprompt hsize hlength) hplain).yields_attempt_bind
    fun response hresponse => ?_
  have hpure : Ensures (Standing (Link.Idle ready) config calls known)
      (Pure.pure response : Act (Meter ω) Response)
      (Yields (fun response => ∃ payload, image.Offers block payload ∧ response = .memory payload)
        (Standing (Link.Idle ready) config calls known)) := yields_pure (fun _ _ h => h) hresponse
  exact ensures_modify_bind hpure fun _ _ h => h.withHealth _

/-- The request is sent, and its answer is underway. -/
theorem pendingOrSend_idle (hprompt : Prompt image ready)
    (hsize : Reading.size ≤ block.length.toNat) (hlength : block.length.toNat ≤ maxPayload)
    (hpending : known.poll.pending = none) :
    Ensures (Standing (Link.Idle ready) config calls known) (pendingOrSend (.readMemory block))
      (Returns (.readMemory block) (Standing
        (fun link history => ∃ payload, image.Offers block payload ∧
          Link.Underway ready (Response.memory payload).frame link history) config calls
        { known with
          poll := { known.poll with pending := some (.readMemory block), polls := 0 } })) := by
  refine standing_get_bind fun meter hmeter _ => ?_
  rw [hmeter.poll, hpending]
  have hplain : Keeps (Link.Plain config calls) (Link.sendRequest (ω := ω) (.readMemory block)) :=
    (Link.maintained_plain (fun _ => True) config calls).keeps_sendRequest _ fun _ _ => trivial
  have hsend := (Link.sendRequest_idle hprompt hsize hlength).yields_of_returns
  refine (onLink_yields hsend hplain).yields_bind fun _ _ => ?_
  exact (changePoll_spec _).returns_bind (returns_pure fun _ _ h => h)

/-- A poll sends the request and finds its answer. -/
theorem pollExchange_idle (hprompt : Prompt image ready)
    (hsize : Reading.size ≤ block.length.toNat) (hlength : block.length.toNat ≤ maxPayload)
    (hpending : known.poll.pending = none) :
    Ensures (Standing (Link.Idle ready) config calls known) (pollExchange (.readMemory block))
      (Yields (fun found => ∃ payload, image.Offers block payload ∧ found = some (.memory payload))
        (Standing (Link.Idle ready) config calls
          { known with poll := { known.poll with pending := none, polls := 0 } })) := by
  refine (pendingOrSend_idle hprompt hsize hlength hpending).returns_bind ?_
  have hplain : Keeps (Link.Plain config calls) (Link.pollResponse (ω := ω) (.readMemory block)) :=
    (Link.maintained_plain (fun _ => True) config calls).keeps_pollResponse _
  refine (onLink_yields Link.pollResponse_underway hplain).yields_attempt_bind
    fun found hfound => ?_
  obtain ⟨payload, hoffers, rfl⟩ := hfound
  refine (changePoll_spec fun poll => { poll with pending := none, polls := 0 }).returns_bind ?_
  have hpure : Ensures (Standing (Link.Idle ready) config calls
        { known with poll := { known.poll with pending := none, polls := 0 } })
      (Pure.pure (some (.memory payload)) : Act (Meter ω) (Option Response))
      (Yields (fun found => ∃ payload, image.Offers block payload ∧ found = some (.memory payload))
        (Standing (Link.Idle ready) config calls
          { known with poll := { known.poll with pending := none, polls := 0 } })) :=
    yields_pure (fun _ _ h => h) ⟨payload, hoffers, rfl⟩
  exact ensures_modify_bind hpure fun _ _ h => h.withHealth _

/-! ## Pages -/

/-- A call returns the next entries, at least one and no more than asked for. -/
theorem readEntries_idle (hprompt : Prompt image ready) (hinfo : known.storage? kind = some info)
    (hlayout : info.HasLayout kind) {start count : Nat} (hstart : start < info.capacity)
    (hcount : 0 < count) (patience : Nat) :
    Ensures (Standing (Link.Idle ready) config calls known)
      (readEntries (patience + 1) kind start count)
      (Yields (fun entries => ∃ taken, 0 < taken ∧ taken ≤ count ∧
          entries = (List.range' start taken).map (image.entry kind))
        (Standing (Link.Idle ready) config calls known)) := by
  obtain ⟨window, hplan⟩ := hlayout.exists_plan hstart hcount
  have hlaid := hplan
  rw [hlayout.plan_eq] at hlaid
  obtain ⟨hcovers, hwindow⟩ := Storage.Info.plan_spec hlaid
  -- the storage is at hand, and there is a window to ask for
  refine (storageOrRead_of_known hinfo (patience + 1)).returns_bind ?_
  show Ensures _ (lift .storage (info.plan start count) >>= _) _
  rw [hplan]
  refine (exchange_idle hprompt hcovers.size_le_length hcovers.length_le patience).yields_bind
    fun response hresponse => ?_
  obtain ⟨payload, hoffers, rfl⟩ := hresponse
  obtain ⟨taken, hpos, hle, hentries⟩ := hcovers.entries_of_offers hoffers
  refine yields_pure (fun _ _ h => h) ⟨taken, hpos, Nat.le_trans hle hwindow, ?_⟩
  rw [hlayout.entries_eq, hentries]

omit [Wire ω] in
/-- A poll has handed over the next entries from `cursor` on, at least one and none that cannot be
read, and playback goes on behind them. -/
def PagePlayed (image : Image) (ready : ω → Prop) (config : Config) (calls : List Sink.Call)
    (known : Meter ω) (kind : Storage.Kind) (info : Storage.Info) (cursor : Nat)
    (ending : Ending PollStatus) (meter : Meter ω) (history : List Event) : Prop :=
  ∃ taken, (0 < taken ∧ cursor + taken ≤ info.readable ∧
      ending = .returned (if info.readable ≤ cursor + taken then .finished else .sampled)) ∧
    Standing (Link.Idle ready) config
      (calls ++ entryGroups known.context ((List.range' cursor taken).map (image.entry kind))
        cursor)
      { known with poll := { playback := some kind, cursor := cursor + taken } } meter history

/-- On an idle link, one step of a playback hands over the entries that the image offers at
its position. -/
theorem playNext_idle (hprompt : Prompt image ready) (hlayout : info.HasLayout kind) {cursor : Nat}
    {window : Option Storage.Window}
    (hpoll : known.poll = { playback := some kind, cursor, window })
    (hwindow : ∀ chosen ∈ window, chosen.Suits kind cursor info.readable)
    (hcursor : cursor < info.readable) :
    Ensures (Standing (Link.Idle ready) config calls known) (playNext kind info)
      (PagePlayed image ready config calls known kind info cursor) := by
  have hplace : known.poll.cursor = cursor := by rw [hpoll]
  have hkind : known.poll.playback = some kind := by rw [hpoll]
  have hpending : known.poll.pending = none := by rw [hpoll]
  -- what is in flight is in order, and the playback is within the entries
  have hsound : known.poll.Sound config.budget := by
    rw [hpoll]
    refine ⟨fun _ => rfl, nofun, nofun, fun other chosen hother hchosen => ?_⟩
    obtain rfl : kind = other := Option.some.inj hother
    exact (hwindow chosen hchosen).covers
  have hwithin : known.poll.Within info.readable := by
    rw [hpoll]
    exact ⟨Nat.le_of_lt hcursor, fun chosen hchosen => (hwindow chosen hchosen).le_amount⟩
  refine standing_get_bind fun meter hmeter _ => ?_
  rw [hmeter.poll, hplace, if_neg (Nat.not_le.2 hcursor)]
  -- there is an entry to play, so a window for it is at hand or can be planned
  refine (windowOrPlan_succeeds hsound hkind hlayout (hplace ▸ hcursor)).bind (fun window => ?_)
    (fun _ _ _ h => h.elim) fun _ _ h => h.elim
  refine Ensures.weaken (Ensures.of_imp fun hchosen : known.poll.Chooses info window ∧
      window.Covers kind.layout known.poll.cursor => ?_)
    (fun meter history h => ⟨⟨h.1.1, h.1.2.1⟩, h.2⟩) fun _ _ _ h => h
  obtain ⟨hchooses, hcovers⟩ := hchosen
  have hfits : cursor + window.count.toNat ≤ info.readable := by
    have hle := (hwithin.withWindow hlayout hchooses).window_le window rfl
    rwa [← hplace]
  let planned : Meter ω := { known with poll := { known.poll with window := some window } }
  have hplanned : planned.poll.pending = none := hpending
  have hpolled : Ensures (Standing (Link.Idle ready) config calls planned)
      (pollExchange (.readMemory window.request)) _ :=
    pollExchange_idle hprompt hcovers.size_le_length hcovers.length_le hplanned
  -- the first look finds the answer, and its block is handed over
  refine hpolled.yields_attempt_bind fun found hfound => ?_
  obtain ⟨payload, hoffers, rfl⟩ := hfound
  refine (playBlock_spec (quiet_idle ready) hcovers.count_pos payload).weaken (fun _ _ h => h)
    fun ending meter history h => ?_
  obtain ⟨entries, rfl, hplayed, hending⟩ := h
  -- the block holds as many entries of the storage as the image has offered
  obtain ⟨taken, hpos, hle, hentries⟩ := hcovers.entries_of_offers hoffers
  rw [hlayout.entries_eq, hentries] at hplayed hending
  rw [List.length_map, List.length_range'] at hplayed hending
  refine ⟨taken, ⟨hpos, by omega, ?_⟩, ?_⟩
  · -- there are entries, so the poll samples or finishes
    rcases hending with ⟨hnone, -⟩ | ⟨-, hstatus⟩
    · rw [List.map_eq_nil_iff, List.range'_eq_nil_iff] at hnone
      omega
    · rw [hstatus, hplace]
  · rw [hplace] at hplayed
    exact hplayed.of_eq (congrArg (fun playback =>
      { known with poll := { playback, cursor := cursor + taken } }) hkind)

/-- On an idle link, one poll of a storage hands over the entries that the image offers at
its position. -/
theorem pollStorage_idle (hprompt : Prompt image ready) (hinfo : known.storage? kind = some info)
    (hlayout : info.HasLayout kind) {cursor : Nat} {window : Option Storage.Window}
    (hpoll : known.poll.turnTo kind = { playback := some kind, cursor, window })
    (hwindow : ∀ chosen ∈ window, chosen.Suits kind cursor info.readable)
    (hcursor : cursor < info.readable) (patience : Nat) :
    Ensures (Standing (Link.Idle ready) config calls known) (pollStorage patience kind)
      (PagePlayed image ready config calls known kind info cursor) := by
  let turned : Meter ω := { known with poll := known.poll.turnTo kind }
  refine (changePoll_spec (Poll.turnTo kind)).returns_bind ?_
  have hturned : turned.storage? kind = some info := hinfo
  have hnext : Ensures (Standing (Link.Idle ready) config calls turned) (playNext kind info)
      (PagePlayed image ready config calls turned kind info cursor) :=
    playNext_idle hprompt hlayout hpoll hwindow hcursor
  exact (storageOrRead_of_known hturned patience).returns_bind hnext

/-! ## All pages -/

/-- Poll a storage until it has been played back, at most `limit` times; what the polls came to. -/
def playAll (patience : Nat) (kind : Storage.Kind) : (limit : Nat) → Act (Meter ω) (List PollStatus)
  | 0 => giveUp
  | limit + 1 => do
    let status ← pollStorage patience kind
    if status = .finished then Pure.pure [status]
    else
      let later ← playAll patience kind limit
      Pure.pure (status :: later)

/-- Read the entries of a storage from `start` on until the first `amount` are read, in at most
`limit` calls. -/
def readAll (patience : Nat) (kind : Storage.Kind) (amount : Nat) :
    (limit start : Nat) → Act (Meter ω) (List Reading)
  | 0, start => if amount ≤ start then Pure.pure [] else giveUp
  | limit + 1, start =>
    if amount ≤ start then Pure.pure []
    else do
      let entries ← readEntries patience kind start (amount - start)
      let later ← readAll patience kind amount limit (start + entries.length)
      Pure.pure (entries ++ later)

omit [Wire ω] in
/-- Entries one behind the other are numbered on. -/
theorem entryGroups_append (context : Context) (first second : List Reading) (start : Nat) :
    entryGroups context (first ++ second) start =
      entryGroups context first start ++ entryGroups context second (start + first.length) := by
  rw [entryGroups, List.zipIdx_append, List.flatMap_append, Nat.add_comm start]
  rfl

/-- Calls from `start` on return the entries that are left, in order. -/
theorem readAll_idle (hprompt : Prompt image ready) (hinfo : known.storage? kind = some info)
    (hlayout : info.HasLayout kind) (patience : Nat) {limit start : Nat}
    (hlimit : info.readable - start ≤ limit) :
    Ensures (Standing (Link.Idle ready) config calls known)
      (readAll (patience + 1) kind info.readable limit start)
      (Returns ((List.range' start (info.readable - start)).map (image.entry kind))
        (Standing (Link.Idle ready) config calls known)) := by
  -- each call returns an entry at least, so as many calls do as there are entries left
  induction limit generalizing start with
  | zero =>
    have hle : info.readable ≤ start := by omega
    rw [readAll, if_pos hle, Nat.sub_eq_zero_of_le hle]
    exact returns_pure fun _ _ h => h
  | succ limit ih =>
    rw [readAll]
    split
    · rename_i hle
      rw [Nat.sub_eq_zero_of_le hle]
      exact returns_pure fun _ _ h => h
    rename_i hlt
    have hstart : start < info.capacity :=
      Nat.lt_of_lt_of_le (Nat.lt_of_not_le hlt) (Nat.min_le_right _ _)
    refine (readEntries_idle hprompt hinfo hlayout hstart (Nat.sub_pos_of_lt (Nat.lt_of_not_le hlt))
      patience).yields_bind fun entries hentries => ?_
    obtain ⟨taken, hpos, hle, rfl⟩ := hentries
    rw [List.length_map, List.length_range']
    refine (ih (by omega)).returns_bind ?_
    have hsplit : info.readable - start = taken + (info.readable - (start + taken)) := by omega
    rw [hsplit, ← List.range'_append_1, List.map_append]
    exact returns_pure fun _ _ h => h

/-- Polls from the playback position on hand over the entries that are left, in order,
and finish. -/
theorem playAll_idle (hprompt : Prompt image ready) (hinfo : known.storage? kind = some info)
    (hlayout : info.HasLayout kind) {cursor : Nat} {window : Option Storage.Window}
    (hpoll : known.poll.turnTo kind = { playback := some kind, cursor, window })
    (hwindow : ∀ chosen ∈ window, chosen.Suits kind cursor info.readable)
    (hcursor : cursor ≤ info.readable) (patience : Nat) {limit : Nat} (hpos : 0 < limit)
    (hlimit : info.readable - cursor ≤ limit) :
    Ensures (Standing (Link.Idle ready) config calls known) (playAll patience kind limit)
      fun ending meter history =>
        (∃ count < limit, ending = .returned (List.replicate count .sampled ++ [.finished])) ∧
        Standing (Link.Idle ready) config (calls ++ entryGroups known.context
            ((List.range' cursor (info.readable - cursor)).map (image.entry kind)) cursor)
          { known with poll := { playback := some kind, cursor := info.readable } }
          meter history := by
  induction limit generalizing calls known cursor window with
  | zero => exact absurd hpos (Nat.lt_irrefl 0)
  | succ limit ih =>
    rcases Nat.eq_or_lt_of_le hcursor with rfl | hlt
    · -- nothing is left, so one poll finishes
      have hle : info.readable ≤ known.position kind :=
        Nat.le_of_eq (congrArg Poll.cursor hpoll).symm
      have hcalls : calls ++ entryGroups known.context [] info.readable = calls := List.append_nil _
      -- and no window is at hand, for it would ask for an entry
      obtain rfl : window = none := Option.eq_none_iff_forall_not_mem.2 fun chosen hchosen => by
        have hcount := (hwindow chosen hchosen).covers.count_pos
        have hle := (hwindow chosen hchosen).le_amount
        omega
      refine (pollStorage_of_le hinfo hle patience).returns_bind ?_
      refine ensures_pure fun meter history h => ⟨⟨0, hpos, rfl⟩, ?_⟩
      rw [Nat.sub_self, List.range'_zero, List.map_nil, hcalls]
      exact h.of_eq (congrArg (fun poll => { known with poll }) hpoll)
    · -- a poll hands over an entry at least, so as many polls do as there are entries left
      refine (pollStorage_idle hprompt hinfo hlayout hpoll hwindow hlt patience).bind
        (fun status => ?_)
        (fun _ _ _ ⟨_, ⟨_, _, heq⟩, _⟩ => nomatch heq) fun _ _ ⟨_, ⟨_, _, heq⟩, _⟩ => nomatch heq
      refine Ensures.of_exists fun taken => Ensures.of_imp fun ⟨htaken, hfits, hstatus⟩ => ?_
      obtain rfl := Ending.returned.inj hstatus
      by_cases hend : info.readable ≤ cursor + taken
      · have htaken : taken = info.readable - cursor := by omega
        have hreadable : cursor + taken = info.readable := by omega
        rw [if_pos hend, if_pos rfl, hreadable, ← htaken]
        exact ensures_pure fun meter history h => ⟨⟨0, hpos, rfl⟩, h⟩
      · rw [if_neg hend, if_neg (by simp)]
        let next : Meter ω :=
          { known with poll := { playback := some kind, cursor := cursor + taken } }
        have hnext : next.poll.turnTo kind = { playback := some kind, cursor := cursor + taken } :=
          Poll.turnTo_of_playback rfl
        have hknown : next.storage? kind = some info := hinfo
        have hsplit : info.readable - cursor = taken + (info.readable - (cursor + taken)) := by
          omega
        rw [hsplit, ← List.range'_append_1, List.map_append, entryGroups_append, List.length_map,
          List.length_range', ← List.append_assoc]
        refine (ih hknown hnext nofun hfits (by omega) (by omega)).bind (fun later => ?_)
          (fun _ _ _ ⟨⟨_, _, heq⟩, _⟩ => nomatch heq) fun _ _ ⟨⟨_, _, heq⟩, _⟩ => nomatch heq
        refine ensures_pure fun meter history ⟨⟨count, hcount, hlater⟩, h⟩ =>
          ⟨⟨count + 1, ?_, ?_⟩, h⟩
        · omega
        · rw [Ending.returned.inj hlater]
          rfl

/-- Take a session with a prompt meter of a known series whose storages have been read, with nothing
in flight on the link, and no entry of a storage played back yet. A window may be left from a
request for its first entries that could not be sent. Polling the storage finishes after at most as
many polls as it has entries, or after one; all polls before sample. They hand over each entry once,
in order and numbered from the first on. Reading the entries call by call, each call from behind the
entries that the ones before returned, returns the same entries in the same order. -/
theorem pages_exact (hprompt : Prompt image ready) (meter : Meter ω) (kind : Storage.Kind)
    {model : ModelId} {bytes : List UInt8} {storages : Storages}
    (hdecode : Storages.decode model bytes = .ok storages)
    (hstorages : meter.storages = some storages)
    (hidle : Link.Idle ready meter.link []) {window : Option Storage.Window}
    (hpoll : meter.poll.turnTo kind = { playback := some kind, window })
    (hwindow : ∀ chosen ∈ window, chosen.Suits kind 0 (storages.get kind).readable)
    (patience : Nat) :
    let amount := (storages.get kind).readable
    let played := (playAll patience kind (max amount 1)).run meter
    let read := (readAll (patience + 1) kind amount amount 0).run meter
    (∃ count < max amount 1,
      played.ending = .returned (List.replicate count .sampled ++ [.finished])) ∧
    sunk played.events =
      entryGroups meter.context ((List.range amount).map (image.entry kind)) 0 ∧
    read.ending = .returned ((List.range amount).map (image.entry kind)) := by
  intro amount played read
  have hinfo : meter.storage? kind = some (storages.get kind) := by
    rw [storage?, hstorages]
    rfl
  have hlayout := Storages.hasLayout_of_decode hdecode kind
  have hstanding : Standing (Link.Idle ready) meter.link.config [] meter meter [] :=
    ⟨hidle, ⟨rfl, rfl⟩, rfl, rfl, rfl, rfl⟩
  -- both loops end within their limits, since each round takes at least one entry
  have hplayed := playAll_idle hprompt hinfo hlayout hpoll hwindow (Nat.zero_le _) patience
    (Nat.lt_of_lt_of_le Nat.zero_lt_one (Nat.le_max_right amount 1))
    (show amount - 0 ≤ max amount 1 by omega) meter [] hstanding
  have hread :=
    readAll_idle hprompt hinfo hlayout patience (show amount - 0 ≤ amount by omega) meter
    [] hstanding
  rw [List.range_eq_range']
  exact ⟨hplayed.1, hplayed.2.plain.2, hread.1⟩

/-- With one entry in every answer, a storage of three entries is read in pages of one. -/
theorem pages_exact_of_brief :
    let storages : Storages := { mem := Storage.memInfo 3, log := Storage.logInfo 0 0 }
    let meter : Meter (BriefWire twoEntries) :=
      { Meter.new { most := 7 } {} with storages := some storages }
    let entries := (List.range 3).map (twoEntries.entry .mem)
    (∃ count < 3, ((playAll 1 .mem 3).run meter).ending =
      .returned (List.replicate count .sampled ++ [.finished])) ∧
    sunk ((playAll 1 .mem 3).run meter).events = entryGroups meter.context entries 0 ∧
    ((readAll 2 .mem 3 3 0).run meter).ending = .returned entries := by
  intro storages meter entries
  have hdecode : Storages.decode (.known .appa208B) [0, 0, 0, 0, 0, 3] = .ok storages := rfl
  have hidle :
      Link.Idle (fun wire : BriefWire twoEntries => Reading.size ≤ wire.most ∧ wire.line = [])
        meter.link [] := ⟨rfl, rfl, by decide, rfl⟩
  have hpoll : meter.poll.turnTo .mem = { playback := some .mem, window := none } := rfl
  have hreadable : (storages.get .mem).readable = 3 := by decide
  have hpages :=
    pages_exact (BriefWire.prompt twoEntries) meter .mem hdecode rfl hidle hpoll nofun 1
  rwa [hreadable] at hpages

end Meter

end Multimeter
