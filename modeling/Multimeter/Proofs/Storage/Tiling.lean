import Multimeter.Proofs.Storage.Plan
/-!
# Tilings of a storage

Windows planned one behind the other, each from where the one before it has ended, tile the storage:
every entry is asked for once, in order and where it lies in memory.

* `Info.pages`: the windows of a storage, planned one behind the other.
* `Info.Tiles`: windows that follow each other without a gap.
* `Info.exists_pages`: there is a plan wherever one is asked for, and every plan makes headway.
* `pages_tile`: what the windows of a whole storage ask for.
-/

namespace Multimeter.Storage

/-! ## What is asked for -/

/-- An entry, and where its first byte lies. -/
structure Place where
  /-- The number of the entry. -/
  entry : Nat
  /-- The memory device. -/
  device : Nat
  /-- The address on this device. -/
  address : Nat
  deriving DecidableEq, Repr

/-- Where an entry lies: one device for each slot, counted modulo 256. -/
def Info.place (info : Info) (entry : Nat) : Place where
  entry := entry
  device := (info.firstDevice.toNat + entry / info.entriesPerSlot.toNat) % 256
  address := info.baseAddress.toNat + entry % info.entriesPerSlot.toNat * info.entrySize.toNat

/-- The entries of a window, and where its request looks for each of them. -/
def Window.places (window : Window) (info : Info) : List Place :=
  (List.range window.count.toNat).map fun i =>
    { entry := window.slot.toNat * info.entriesPerSlot.toNat + window.offset.toNat + i
      device := window.request.device.toNat
      address := window.request.address.toNat + i * info.entrySize.toNat }

/-- A window looks for its entries where they lie. -/
theorem Window.Covers.places_eq {window : Window} {info : Info} {start : Nat}
    (h : window.Covers info start) :
    window.places info = (List.range' start window.count.toNat).map info.place := by
  rw [Window.places, List.range'_eq_map_range, List.map_map]
  refine List.map_congr_left fun i hmem => ?_
  have hi := List.mem_range.1 hmem
  -- the entry lies in the slot of the first one, `i` entries further on
  have hinside : window.offset.toNat + i < info.entriesPerSlot.toNat :=
    Nat.lt_of_lt_of_le (Nat.add_lt_add_left hi _) h.count_le
  have hentry : start + i =
      info.entriesPerSlot.toNat * window.slot.toNat + (window.offset.toNat + i) := by
    rw [← h.start_eq, Nat.mul_comm, Nat.add_assoc]
  have hslot : (start + i) / info.entriesPerSlot.toNat = window.slot.toNat := by
    rw [hentry, Nat.mul_add_div (Nat.zero_lt_of_lt hinside), Nat.div_eq_of_lt hinside, Nat.add_zero]
  have hoffset : (start + i) % info.entriesPerSlot.toNat = window.offset.toNat + i := by
    rw [hentry, Nat.mul_add_mod, Nat.mod_eq_of_lt hinside]
  simp only [Function.comp_apply, Info.place, hslot, hoffset, h.device_eq, h.address_eq, h.start_eq,
    UInt8.toNat_add, Nat.add_mul, Nat.add_assoc]

/-! ## Windows without a gap -/

/-- The windows cover the entries from `start` on, one window behind the other, up to `stop`. -/
def Info.Tiles (info : Info) : (start : Nat) → List Window → (stop : Nat) → Prop
  | start, [], stop => start = stop
  | start, window :: windows, stop =>
    window.Covers info start ∧ info.Tiles (start + window.count.toNat) windows stop

namespace Info.Tiles

variable {info : Info} {windows : List Window} {start stop : Nat}

/-- Windows in a row do not go backwards. -/
theorem start_le (h : info.Tiles start windows stop) : start ≤ stop := by
  induction windows generalizing start with
  | nil => exact Nat.le_of_eq h
  | cons window windows ih => exact Nat.le_of_add_right_le (ih h.2)

/-- There are no more windows than entries. -/
theorem length_le (h : info.Tiles start windows stop) : windows.length ≤ stop - start := by
  induction windows generalizing start with
  | nil => exact Nat.zero_le _
  | cons window windows ih =>
    have hlater := ih h.2
    have hle := h.2.start_le
    have hpos := h.1.count_pos
    rw [List.length_cons]
    omega

/-- Every entry is asked for once, in order. -/
theorem places_eq (h : info.Tiles start windows stop) :
    windows.flatMap (·.places info) = (List.range' start (stop - start)).map info.place := by
  induction windows generalizing start with
  | nil =>
    obtain rfl : start = stop := h
    rw [Nat.sub_self]
    rfl
  | cons window windows ih =>
    have hle := h.2.start_le
    have hsplit : stop - start = window.count.toNat + (stop - (start + window.count.toNat)) := by
      omega
    rw [List.flatMap_cons, h.1.places_eq, ih h.2, ← List.map_append, List.range'_append_1, ← hsplit]

/-- Each window in a row covers entries of the storage. -/
theorem covers (h : info.Tiles start windows stop) {window : Window} (hmem : window ∈ windows) :
    ∃ entry, window.Covers info entry := by
  induction windows generalizing start with
  | nil => cases hmem
  | cons first windows ih =>
    rcases List.mem_cons.1 hmem with rfl | hmem
    · exact ⟨start, h.1⟩
    · exact ih h.2 hmem

end Info.Tiles

/-! ## Planning one window behind the other -/

/-- Plan windows from `cursor` on, each from where the one before it has ended, until `amount`
entries are covered; at most `limit` of them. The entry behind the last window is told, too. -/
def Info.pages (info : Info) (amount : Nat) :
    (limit cursor : Nat) → Except StorageError (List Window × Nat)
  | 0, cursor => .ok ([], cursor)
  | limit + 1, cursor =>
    if amount ≤ cursor then .ok ([], cursor)
    else do
      let window ← info.plan cursor (min (amount - cursor) 0xffff)
      let (windows, last) ← info.pages amount limit (cursor + window.count.toNat)
      pure (window :: windows, last)

/-- No plan fails within the storage, and the windows planned tile it. -/
theorem Info.exists_pages {info : Info} (h : info.Addressable) {amount limit cursor : Nat}
    (hamount : amount ≤ info.capacity) (hcursor : cursor ≤ amount)
    (hlimit : amount ≤ cursor + limit) :
    ∃ windows, info.pages amount limit cursor = .ok (windows, amount) ∧
      info.Tiles cursor windows amount := by
  -- each window covers at least one entry, so fewer plans are needed behind it
  induction limit generalizing cursor with
  | zero =>
    obtain rfl : cursor = amount := Nat.le_antisymm hcursor hlimit
    exact ⟨[], rfl, rfl⟩
  | succ limit ih =>
    by_cases hend : amount ≤ cursor
    · obtain rfl : cursor = amount := Nat.le_antisymm hcursor hend
      exact ⟨[], by rw [pages, if_pos hend], rfl⟩
    · have hcount : 0 < min (amount - cursor) 0xffff := by omega
      obtain ⟨window, hplan⟩ :=
        exists_plan_of_lt h (Nat.lt_of_lt_of_le (Nat.lt_of_not_le hend) hamount) hcount
      obtain ⟨hcovers, hle⟩ := plan_spec hplan
      have hpos := hcovers.count_pos
      obtain ⟨windows, hpages, htiles⟩ :=
        @ih (cursor + window.count.toNat) (by omega) (by omega)
      refine ⟨window :: windows, ?_, hcovers, htiles⟩
      rw [pages, if_neg hend, hplan]
      simp only [bind, Except.bind, hpages, pure, Except.pure]

/-- The known layout is addressable, however full the storage is. -/
theorem Info.HasLayout.addressable {info : Info} {kind : Kind} (h : info.HasLayout kind) :
    info.Addressable := by
  rw [h]
  exact ⟨kind.addressable_layout.entrySize_pos, kind.addressable_layout.entrySize_le,
    kind.addressable_layout.entriesPerSlot_pos, kind.addressable_layout.last_le⟩

/-- If every entry fits an answer and every slot its device, as it is in all storages that a meter
tells of, then a part of the storage from its first entry on can be covered by windows planned one
behind the other. There are no more of them than entries. They ask for every entry once, in order
and where it lies, and none of them reaches into another slot or asks for more than an answer
carries. -/
theorem pages_tile :
    (∀ model block storages, Storages.decode model block = .ok storages →
      ∀ kind, (storages.get kind).Addressable) ∧
    ∀ info : Info, info.Addressable → ∀ amount, amount ≤ info.capacity →
      ∃ windows, info.pages amount amount 0 = .ok (windows, amount) ∧ windows.length ≤ amount ∧
        windows.flatMap (·.places info) = (List.range amount).map info.place ∧
        ∀ window ∈ windows, 1 ≤ window.count.toNat ∧
          window.offset.toNat + window.count.toNat ≤ info.entriesPerSlot.toNat ∧
          window.request.length.toNat = window.count.toNat * info.entrySize.toNat ∧
          window.request.length.toNat ≤ 64 := by
  refine ⟨fun model block storages hdecode kind => ?_, fun info h amount hamount => ?_⟩
  · exact (Storages.hasLayout_of_decode hdecode kind).addressable
  · have hlimit : amount ≤ 0 + amount := Nat.le_add_left _ _
    obtain ⟨windows, hpages, htiles⟩ := Info.exists_pages h hamount (Nat.zero_le _) hlimit
    refine ⟨windows, hpages, htiles.length_le, ?_, fun window hmem => ?_⟩
    · rw [htiles.places_eq, List.range_eq_range', Nat.sub_zero]
    · obtain ⟨entry, hcovers⟩ := htiles.covers hmem
      exact ⟨hcovers.count_pos, hcovers.count_le, hcovers.length_eq, hcovers.length_le⟩

/-- Two slots of three long entries: three windows cover the first five entries, and the second slot
is asked for on device 0, which follows device 255. -/
theorem pages_tile_of_long :
    let info : Info :=
      { kind := .log, rate := 0, amount := 6, entrySize := 24, entriesPerSlot := 3, slotCount := 2,
        baseAddress := 0xffcf, firstDevice := 255 }
    5 ≤ info.capacity ∧ ∃ windows, info.pages 5 5 0 = .ok (windows, 5) ∧
      windows.map (·.count) = [2, 1, 2] ∧
      windows.flatMap (·.places info) =
        [⟨0, 255, 0xffcf⟩, ⟨1, 255, 0xffe7⟩, ⟨2, 255, 0xffff⟩, ⟨3, 0, 0xffcf⟩, ⟨4, 0, 0xffe7⟩] := by
  intro info
  have haddressable : info.Addressable := ⟨by decide, by decide, by decide, by decide⟩
  obtain ⟨windows, hpages, -, hplaces, -⟩ := pages_tile.2 info haddressable 5 (by decide)
  refine ⟨by decide, windows, hpages, ?_, hplaces.trans (by decide)⟩
  have hcounts : (info.pages 5 5 0).toOption.map (·.1.map (·.count)) = some [2, 1, 2] := by
    decide +kernel
  rw [hpages] at hcounts
  exact Option.some.inj hcounts

end Multimeter.Storage
