import Multimeter.Storage.Entry
import Multimeter.Storage.Window
/-!
# Plans of storage windows

A window that was planned from an entry on covers consecutive entries from there, all in the slot of
the first one, and asks for the stretch of memory that they fill.

* `Covers`: the entries that a window covers.
* `Info.plan_eq_iff`: how a plan comes out, for every layout.
* `Info.plan_spec`: every plan covers entries from its start on.
* `Info.exists_plan_of_lt`: within the storage there is a plan.
* `Info.HasLayout`: a storage lies in memory as the known series have it. The layout of a storage
  does not depend on how full it is, and neither do its windows.
-/

namespace Multimeter.Storage

/-! ## Windows -/

/-- Every entry fits an answer, and every slot fits the addresses of its device. -/
structure Info.Addressable (info : Info) : Prop where
  /-- Entries are not empty. -/
  entrySize_pos : 0 < info.entrySize.toNat
  /-- An entry fits an answer. -/
  entrySize_le : info.entrySize.toNat ≤ maxPayload
  /-- Slots are not empty. -/
  entriesPerSlot_pos : 0 < info.entriesPerSlot.toNat
  /-- The last entry of a slot has an address. -/
  last_le : info.baseAddress.toNat + (info.entriesPerSlot.toNat - 1) * info.entrySize.toNat ≤ 0xffff

/-- The window covers entries from `start` on. -/
structure Window.Covers (window : Window) (info : Info) (start : Nat) : Prop where
  /-- The window lies in the slot of the first entry. -/
  slot_eq : window.slot.toNat = start / info.entriesPerSlot.toNat
  /-- The window begins at the first entry within its slot. -/
  offset_eq : window.offset.toNat = start % info.entriesPerSlot.toNat
  /-- The slot of the window exists. -/
  slot_lt : window.slot.toNat < info.slotCount.toNat
  /-- There is at least one entry in the window. -/
  count_pos : 0 < window.count.toNat
  /-- The window ends in the slot in which it begins. -/
  count_le : window.offset.toNat + window.count.toNat ≤ info.entriesPerSlot.toNat
  /-- The request goes to the device of the slot. -/
  device_eq : window.request.device = info.firstDevice + window.slot
  /-- The request asks for the memory from the first entry on. -/
  address_eq : window.request.address.toNat =
    info.baseAddress.toNat + window.offset.toNat * info.entrySize.toNat
  /-- The request asks for as much memory as the entries fill. -/
  length_eq : window.request.length.toNat = window.count.toNat * info.entrySize.toNat
  /-- The memory that is asked for fits an answer. -/
  length_le : window.request.length.toNat ≤ maxPayload

namespace Window.Covers

variable {window : Window} {info : Info} {start : Nat}

/-- The slot and the place in it tell the first entry. -/
theorem start_eq (h : window.Covers info start) :
    window.slot.toNat * info.entriesPerSlot.toNat + window.offset.toNat = start := by
  rw [h.slot_eq, h.offset_eq, Nat.mul_comm]
  exact Nat.div_add_mod _ _

/-- All entries of a window lie in the storage. -/
theorem le_capacity (h : window.Covers info start) :
    start + window.count.toNat ≤ info.capacity := by
  calc
    start + window.count.toNat = window.slot.toNat * info.entriesPerSlot.toNat +
        (window.offset.toNat + window.count.toNat) := by rw [← Nat.add_assoc, h.start_eq]
    _ ≤ (window.slot.toNat + 1) * info.entriesPerSlot.toNat := by
      rw [Nat.succ_mul]
      exact Nat.add_le_add_left h.count_le _
    _ ≤ info.slotCount.toNat * info.entriesPerSlot.toNat := Nat.mul_le_mul_right _ h.slot_lt
    _ = info.capacity := Nat.mul_comm _ _

end Window.Covers

/-- The entries that it covers and their number determine a window. -/
theorem Window.Covers.eq {window other : Window} {info : Info} {start : Nat}
    (h : window.Covers info start) (hother : other.Covers info start)
    (hcount : window.count.toNat = other.count.toNat) : window = other := by
  have hslot : window.slot = other.slot :=
    UInt8.toNat_inj.1 (h.slot_eq.trans hother.slot_eq.symm)
  have hoffset : window.offset = other.offset :=
    UInt16.toNat_inj.1 (h.offset_eq.trans hother.offset_eq.symm)
  have hdevice : window.request.device = other.request.device := by
    rw [h.device_eq, hother.device_eq, hslot]
  have haddress : window.request.address = other.request.address := by
    rw [← UInt16.toNat_inj, h.address_eq, hother.address_eq, hoffset]
  have hlength : window.request.length = other.request.length := by
    rw [← UInt8.toNat_inj, h.length_eq, hother.length_eq, hcount]
  obtain ⟨_, _, _, _, _, _⟩ := window
  obtain ⟨_, _, _, _, _, _⟩ := other
  simp only [Window.mk.injEq, MemoryBlock.mk.injEq]
  exact ⟨hslot, hoffset, UInt16.toNat_inj.1 hcount, hdevice, haddress, hlength⟩

/-! ## Plans -/

/-- How a plan comes out: the first check that fails decides. -/
inductive Info.Planned (info : Info) (start count : Nat) : Except StorageError Window → Prop where
  /-- Entries or slots are empty. -/
  | unsupported (hlayout : info.entrySize.toNat = 0 ∨ info.entriesPerSlot.toNat = 0) :
      Planned info start count (.error .unsupported)
  /-- There is no such slot. -/
  | noSlot (hsize : 0 < info.entrySize.toNat) (hperSlot : 0 < info.entriesPerSlot.toNat)
      (hslot : info.slotCount.toNat ≤ start / info.entriesPerSlot.toNat) :
      Planned info start count (.error .outOfRange)
  /-- Nothing is asked for, or no answer carries an entry. -/
  | nothing (hsize : 0 < info.entrySize.toNat) (hperSlot : 0 < info.entriesPerSlot.toNat)
      (hslot : start / info.entriesPerSlot.toNat < info.slotCount.toNat)
      (hnothing : count = 0 ∨ maxPayload < info.entrySize.toNat) :
      Planned info start count (.error .emptyRange)
  /-- The first entry lies behind the last address. -/
  | noAddress (hsize : 0 < info.entrySize.toNat) (hperSlot : 0 < info.entriesPerSlot.toNat)
      (hslot : start / info.entriesPerSlot.toNat < info.slotCount.toNat)
      (hcount : 0 < count) (hfits : info.entrySize.toNat ≤ maxPayload)
      (haddress : 0xffff < info.baseAddress.toNat +
        start % info.entriesPerSlot.toNat * info.entrySize.toNat) :
      Planned info start count (.error .outOfRange)
  /-- The window holds as many entries as were asked for, as an answer carries and as are left in
  the slot, whichever is least. -/
  | window {window : Window} (hsize : 0 < info.entrySize.toNat)
      (hperSlot : 0 < info.entriesPerSlot.toNat)
      (hslot : start / info.entriesPerSlot.toNat < info.slotCount.toNat)
      (hcount : 0 < count) (hfits : info.entrySize.toNat ≤ maxPayload)
      (haddress : info.baseAddress.toNat +
        start % info.entriesPerSlot.toNat * info.entrySize.toNat ≤ 0xffff)
      (hcovers : window.Covers info start)
      (hheld : window.count.toNat = min (min count (maxPayload / info.entrySize.toNat))
        (info.entriesPerSlot.toNat - start % info.entriesPerSlot.toNat)) :
      Planned info start count (.ok window)

namespace Info

variable {info : Info} {start count : Nat}

/-- The number of entries that a window from `start` on holds. -/
def held (info : Info) (start count : Nat) : Nat :=
  min (min count (maxPayload / info.entrySize.toNat))
    (info.entriesPerSlot.toNat - start % info.entriesPerSlot.toNat)

/-- Something is left to read unless nothing is asked for or no answer carries an entry. -/
theorem held_pos_iff (hsize : 0 < info.entrySize.toNat) (hperSlot : 0 < info.entriesPerSlot.toNat) :
    0 < info.held start count ↔ 0 < count ∧ info.entrySize.toNat ≤ maxPayload := by
  have hoffset := Nat.mod_lt start hperSlot
  have hfits : 0 < maxPayload / info.entrySize.toNat ↔ info.entrySize.toNat ≤ maxPayload := by
    simp only [Nat.div_pos_iff, hsize, true_and]
  rw [← hfits, held]
  omega

/-- The entries of a window fill at most one answer. -/
theorem held_mul_le (info : Info) (start count : Nat) :
    info.held start count * info.entrySize.toNat ≤ maxPayload := by
  refine Nat.le_trans (Nat.mul_le_mul_right _ ?_) (Nat.div_mul_le_self _ info.entrySize.toNat)
  exact Nat.le_trans (Nat.min_le_left _ _) (Nat.min_le_right _ _)

/-- If no check fails, a window is planned. -/
theorem exists_window (hsize : 0 < info.entrySize.toNat) (hperSlot : 0 < info.entriesPerSlot.toNat)
    (hslot : start / info.entriesPerSlot.toNat < info.slotCount.toNat)
    (hheld : 0 < info.held start count)
    (haddress : info.baseAddress.toNat +
      start % info.entriesPerSlot.toNat * info.entrySize.toNat ≤ 0xffff) :
    ∃ window, info.plan start count = .ok window ∧ window.Covers info start ∧
      window.count.toNat = info.held start count := by
  have hlayout : ¬ (info.entrySize.toNat = 0 ∨ info.entriesPerSlot.toNat = 0) := by omega
  have hoffset := Nat.mod_lt start hperSlot
  have hleft : start % info.entriesPerSlot.toNat + info.held start count ≤
      info.entriesPerSlot.toNat := by
    rw [held]
    omega
  have hanswer := info.held_mul_le start count
  have hslotCount := info.slotCount.toNat_lt
  have hslotSize := info.entriesPerSlot.toNat_lt
  have hpayload : maxPayload = 64 := rfl
  -- no field of the window overflows its type
  have hheldNat : (UInt16.ofNat (info.held start count)).toNat = info.held start count :=
    UInt16.toNat_ofNat_of_lt' (show _ < 65536 by omega)
  have hoffsetNat : (UInt16.ofNat (start % info.entriesPerSlot.toNat)).toNat =
      start % info.entriesPerSlot.toNat :=
    UInt16.toNat_ofNat_of_lt' (show _ < 65536 by omega)
  have hslotNat : (UInt8.ofNat (start / info.entriesPerSlot.toNat)).toNat =
      start / info.entriesPerSlot.toNat :=
    UInt8.toNat_ofNat_of_lt' (show _ < 256 by omega)
  have hlengthNat : (UInt8.ofNat (info.held start count * info.entrySize.toNat)).toNat =
      info.held start count * info.entrySize.toNat :=
    UInt8.toNat_ofNat_of_lt' (show _ < 256 by omega)
  have haddressNat : (UInt16.ofNat (info.baseAddress.toNat +
      start % info.entriesPerSlot.toNat * info.entrySize.toNat)).toNat =
        info.baseAddress.toNat + start % info.entriesPerSlot.toNat * info.entrySize.toNat :=
    UInt16.toNat_ofNat_of_lt' (show _ < 65536 by omega)
  have hplan : info.plan start count = .ok {
      slot := UInt8.ofNat (start / info.entriesPerSlot.toNat)
      offset := UInt16.ofNat (start % info.entriesPerSlot.toNat)
      count := UInt16.ofNat (info.held start count)
      request := {
        device := info.firstDevice + UInt8.ofNat (start / info.entriesPerSlot.toNat)
        address := UInt16.ofNat (info.baseAddress.toNat +
          start % info.entriesPerSlot.toNat * info.entrySize.toNat)
        length := UInt8.ofNat (info.held start count * info.entrySize.toNat) } } := by
    simp only [plan, if_neg hlayout, if_neg (Nat.not_le.2 hslot), if_neg (Nat.not_lt.2 haddress)]
    exact if_neg (Nat.ne_of_gt hheld)
  refine ⟨_, hplan, {
    slot_eq := hslotNat
    offset_eq := hoffsetNat
    slot_lt := by
      rw [hslotNat]
      exact hslot
    count_pos := Nat.lt_of_lt_of_eq hheld hheldNat.symm
    count_le := by
      rw [hoffsetNat, hheldNat]
      exact hleft
    device_eq := rfl
    address_eq := by
      rw [haddressNat, hoffsetNat]
    length_eq := by
      rw [hlengthNat, hheldNat]
    length_le := by
      rw [hlengthNat]
      exact hanswer }, hheldNat⟩

/-- Every plan comes out in one of these ways. -/
theorem exists_planned (info : Info) (start count : Nat) :
    ∃ result, info.Planned start count result := by
  -- the checks in the order in which the plan makes them
  by_cases hlayout : info.entrySize.toNat = 0 ∨ info.entriesPerSlot.toNat = 0
  · exact ⟨_, .unsupported hlayout⟩
  have hsize : 0 < info.entrySize.toNat := by omega
  have hperSlot : 0 < info.entriesPerSlot.toNat := by omega
  rcases Nat.lt_or_ge (start / info.entriesPerSlot.toNat) info.slotCount.toNat with hslot | hslot
  case inr => exact ⟨_, .noSlot hsize hperSlot hslot⟩
  by_cases hnothing : count = 0 ∨ maxPayload < info.entrySize.toNat
  · exact ⟨_, .nothing hsize hperSlot hslot hnothing⟩
  have hcount : 0 < count := by omega
  have hfits : info.entrySize.toNat ≤ maxPayload := by omega
  rcases Nat.lt_or_ge 0xffff (info.baseAddress.toNat +
    start % info.entriesPerSlot.toNat * info.entrySize.toNat) with haddress | haddress
  · exact ⟨_, .noAddress hsize hperSlot hslot hcount hfits haddress⟩
  · obtain ⟨window, -, hcovers, hheld⟩ := exists_window hsize hperSlot hslot
      ((held_pos_iff hsize hperSlot).2 ⟨hcount, hfits⟩) haddress
    exact ⟨_, .window hsize hperSlot hslot hcount hfits haddress hcovers hheld⟩

/-- What the checks say is what is planned. -/
theorem plan_of_planned {result : Except StorageError Window}
    (h : info.Planned start count result) :
    info.plan start count = result := by
  -- one case for each way out of the checks, in their order
  cases h with
  | unsupported hlayout => exact if_pos hlayout
  | noSlot hsize hperSlot hslot =>
    have hlayout : ¬ (info.entrySize.toNat = 0 ∨ info.entriesPerSlot.toNat = 0) := by omega
    simp only [plan, if_neg hlayout, if_pos hslot]
  | nothing hsize hperSlot hslot hnothing =>
    have hlayout : ¬ (info.entrySize.toNat = 0 ∨ info.entriesPerSlot.toNat = 0) := by omega
    have hheld : info.held start count = 0 := by
      have hiff := @held_pos_iff info start count hsize hperSlot
      omega
    simp only [plan, if_neg hlayout, if_neg (Nat.not_le.2 hslot)]
    exact if_pos hheld
  | noAddress hsize hperSlot hslot hcount hfits haddress =>
    have hlayout : ¬ (info.entrySize.toNat = 0 ∨ info.entriesPerSlot.toNat = 0) := by omega
    have hheld : 0 < info.held start count := (held_pos_iff hsize hperSlot).2 ⟨hcount, hfits⟩
    simp only [plan, if_neg hlayout, if_neg (Nat.not_le.2 hslot), if_pos haddress]
    exact if_neg (Nat.ne_of_gt hheld)
  | window hsize hperSlot hslot hcount hfits haddress hcovers hheld =>
    obtain ⟨other, hplan, hother, hotherHeld⟩ := exists_window hsize hperSlot hslot
      ((held_pos_iff hsize hperSlot).2 ⟨hcount, hfits⟩) haddress
    rw [hplan, hcovers.eq hother (hheld.trans hotherHeld.symm)]

/-- The checks say exactly what a plan comes to. -/
theorem plan_eq_iff {result : Except StorageError Window} :
    info.plan start count = result ↔ info.Planned start count result := by
  constructor
  · rintro rfl
    obtain ⟨result, hplanned⟩ := info.exists_planned start count
    rwa [plan_of_planned hplanned]
  · exact plan_of_planned

/-- A plan covers entries from its start on, and no more than were asked for. -/
theorem plan_spec {window : Window} (hplan : info.plan start count = .ok window) :
    window.Covers info start ∧ window.count.toNat ≤ count := by
  cases plan_eq_iff.1 hplan with
  | window _ _ _ _ _ _ hcovers hheld =>
    refine ⟨hcovers, ?_⟩
    rw [hheld]
    exact Nat.le_trans (Nat.min_le_left _ _) (Nat.min_le_left _ _)

/-- A plan from an entry of the storage on does not fail. -/
theorem exists_plan_of_lt (h : info.Addressable) (hstart : start < info.capacity)
    (hcount : 0 < count) : ∃ window, info.plan start count = .ok window := by
  obtain ⟨hsize, hsizeLe, hperSlot, hlast⟩ := h
  have hslot : start / info.entriesPerSlot.toNat < info.slotCount.toNat := by
    rw [Nat.div_lt_iff_lt_mul hperSlot, Nat.mul_comm]
    exact hstart
  have haddress : info.baseAddress.toNat +
      start % info.entriesPerSlot.toNat * info.entrySize.toNat ≤ 0xffff := by
    have hle : start % info.entriesPerSlot.toNat * info.entrySize.toNat ≤
        (info.entriesPerSlot.toNat - 1) * info.entrySize.toNat :=
      Nat.mul_le_mul_right _ (Nat.le_sub_one_of_lt (Nat.mod_lt start hperSlot))
    omega
  obtain ⟨window, hplan, -⟩ := exists_window hsize hperSlot hslot
    ((held_pos_iff hsize hperSlot).2 ⟨hcount, hsizeLe⟩) haddress
  exact ⟨window, hplan⟩

end Info

/-! ## The known layout -/

/-- The layout of a storage of the known series. -/
def Kind.layout : Kind → Info
  | .mem => memInfo 0
  | .log => logInfo 0 0

/-- The layout of every kind of storage can be addressed. -/
theorem Kind.addressable_layout (kind : Kind) : kind.layout.Addressable := by
  cases kind with
  | mem => exact ⟨by decide, by decide, by decide, by decide⟩
  | log => exact ⟨by decide, by decide, by decide, by decide⟩

/-- The storage lies in memory as the known series have it. -/
def Info.HasLayout (info : Info) (kind : Kind) : Prop :=
  info = { kind.layout with rate := info.rate, amount := info.amount }

namespace Info.HasLayout

variable {info : Info} {kind : Kind}

/-- A plan depends on how the storage is laid out, not on how full it is. -/
theorem plan_eq (h : info.HasLayout kind) (start count : Nat) :
    info.plan start count = kind.layout.plan start count := by
  rw [h]
  rfl

/-- What a block is cut into depends on how the storage is laid out, not on how full it is. -/
theorem entries_eq (h : info.HasLayout kind) (block : List UInt8) :
    info.entries block = kind.layout.entries block := by
  rw [h]
  rfl

/-- How many entries a slot holds depends on how the storage is laid out. -/
theorem entriesPerSlot_eq (h : info.HasLayout kind) :
    info.entriesPerSlot = kind.layout.entriesPerSlot := by
  rw [h]

/-- How many entries a storage holds depends on how it is laid out. -/
theorem capacity_eq (h : info.HasLayout kind) : info.capacity = kind.layout.capacity := by
  rw [h]
  rfl

/-- From every entry of the storage on, something can be read. -/
theorem exists_plan (h : info.HasLayout kind) {start count : Nat} (hstart : start < info.capacity)
    (hcount : 0 < count) : ∃ window, info.plan start count = .ok window := by
  rw [h.capacity_eq] at hstart
  rw [h.plan_eq]
  exact Info.exists_plan_of_lt kind.addressable_layout hstart hcount

end Info.HasLayout

end Multimeter.Storage

namespace Multimeter

/-- What is known of the storages of a meter has the known layout. -/
theorem Storages.hasLayout_of_decode {model : ModelId} {block : List UInt8} {storages : Storages}
    (h : Storages.decode model block = .ok storages) (kind : Storage.Kind) :
    (storages.get kind).HasLayout kind := by
  simp only [Storages.decode] at h
  split at h
  · split at h
    · obtain rfl := Except.ok.inj h
      cases kind <;> rfl
    · cases h
  · cases h

end Multimeter
