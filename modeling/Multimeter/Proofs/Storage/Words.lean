import Mathlib.Data.Nat.PSub
import Multimeter.Proofs.Storage.Plan
/-!
# Plans in machine words

A window is planned in numbers of any size and its fields are cut to their words at the end. Worked
out step by step in words of 8, 16 and 32 bits, with a check wherever a word could be too small, it
is the same window: nothing overflows on the way and nothing is cut off. Only the device is counted
modulo 256.

* `Info.planWords`: the plan in words, which does not come out if one of them overflows.
* `Info.planWords_eq`: it always comes out, and it is the plan.
* `Info.plan_exact`: how plans come out, for every layout.
-/

namespace Multimeter.Storage

/-- A number as a word that tells `size` numbers apart, `none` if it overflows. -/
def word? (size n : Nat) : Option Nat := if n < size then some n else none

/-- A number that is small enough is a word. -/
theorem word?_of_lt {size n : Nat} (h : n < size) : word? size n = some n := if_pos h

/-- A number that is too large is no word. -/
theorem word?_of_le {size n : Nat} (h : size ≤ n) : word? size n = none :=
  if_neg (Nat.not_lt.2 h)

namespace Info

/-- The address of the entry `offset` of a slot, `none` if one of both steps overflows. -/
def addressWord? (info : Info) (offset : Nat) : Option Nat := do
  let distance ← word? UInt16.size (offset * info.entrySize.toNat)
  word? UInt16.size (info.baseAddress.toNat + distance)

/-- A plan worked out in words. Only the address is expected to overflow, which is out of range;
`none` is an overflow anywhere else. -/
def planWords (info : Info) (start : UInt32) (count : UInt16) :
    Option (Except StorageError Window) :=
  if info.entrySize.toNat = 0 ∨ info.entriesPerSlot.toNat = 0 then some (.error .unsupported)
  else
    let slot := (start / info.entriesPerSlot.toUInt32).toNat
    if info.slotCount.toNat ≤ slot then some (.error .outOfRange)
    else do
      let offset ← word? UInt16.size (start % info.entriesPerSlot.toUInt32).toNat
      let fitting ← word? UInt16.size (maxPayload / info.entrySize.toNat)
      let left ← info.entriesPerSlot.toNat.psub offset
      let held := min (min count.toNat fitting) left
      if held = 0 then some (.error .emptyRange)
      else
        (info.addressWord? offset).elim (some (.error .outOfRange)) fun address => do
          let length ← word? UInt16.size (held * info.entrySize.toNat)
          let length ← word? UInt8.size length
          let slot ← word? UInt8.size slot
          some (.ok {
            slot := UInt8.ofNat slot
            offset := UInt16.ofNat offset
            count := UInt16.ofNat held
            request := {
              device := info.firstDevice + UInt8.ofNat slot
              address := UInt16.ofNat address
              length := UInt8.ofNat length } })

/-- An address that fits a word is reached without an overflow. -/
theorem addressWord?_eq (info : Info) (offset : Nat) :
    info.addressWord? offset =
      word? UInt16.size (info.baseAddress.toNat + offset * info.entrySize.toNat) := by
  rw [addressWord?]
  rcases Nat.lt_or_ge (offset * info.entrySize.toNat) UInt16.size with hdistance | hdistance
  · rw [word?_of_lt hdistance]
    rfl
  · rw [word?_of_le hdistance, word?_of_le (Nat.le_add_left_of_le hdistance)]
    rfl

/-- The plan in words comes out, and it is the plan. -/
theorem planWords_eq (info : Info) (start : UInt32) (count : UInt16) :
    info.planWords start count = some (info.plan start.toNat count.toNat) := by
  have hslot : (start / info.entriesPerSlot.toUInt32).toNat =
      start.toNat / info.entriesPerSlot.toNat := by
    rw [UInt32.toNat_div, UInt16.toNat_toUInt32]
  have hoffset : (start % info.entriesPerSlot.toUInt32).toNat =
      start.toNat % info.entriesPerSlot.toNat := by
    rw [UInt32.toNat_mod, UInt16.toNat_toUInt32]
  by_cases hlayout : info.entrySize.toNat = 0 ∨ info.entriesPerSlot.toNat = 0
  · simp only [planWords, plan, if_pos hlayout]
  by_cases hslots : info.slotCount.toNat ≤ start.toNat / info.entriesPerSlot.toNat
  · simp only [planWords, plan, hslot, if_neg hlayout, if_pos hslots]
  -- what is cut to a word or subtracted is small enough
  have hslotSize := info.entriesPerSlot.toNat_lt
  have hslotCount := info.slotCount.toNat_lt
  have hinside := Nat.mod_lt start.toNat (show 0 < info.entriesPerSlot.toNat by omega)
  have hfits : maxPayload / info.entrySize.toNat ≤ 64 := Nat.div_le_self _ _
  have hanswer := info.held_mul_le start.toNat count.toNat
  have hoffsetWord : word? UInt16.size (start.toNat % info.entriesPerSlot.toNat) = some _ :=
    word?_of_lt (Nat.lt_trans hinside hslotSize)
  have hfitsWord : word? UInt16.size (maxPayload / info.entrySize.toNat) = some _ :=
    word?_of_lt (Nat.lt_of_le_of_lt hfits (by decide))
  have hleft := Nat.psub_eq_sub (Nat.le_of_lt hinside)
  have hlengthWord : word? UInt16.size (info.held start.toNat count.toNat * info.entrySize.toNat) =
      some _ := word?_of_lt (Nat.lt_of_le_of_lt hanswer (by decide))
  have hlengthByte : word? UInt8.size (info.held start.toNat count.toNat * info.entrySize.toNat) =
      some _ := word?_of_lt (Nat.lt_of_le_of_lt hanswer (by decide))
  have hslotByte : word? UInt8.size (start.toNat / info.entriesPerSlot.toNat) = some _ :=
    word?_of_lt (Nat.lt_trans (Nat.lt_of_not_le hslots) hslotCount)
  have hheld : min (min count.toNat (maxPayload / info.entrySize.toNat))
      (info.entriesPerSlot.toNat - start.toNat % info.entriesPerSlot.toNat) =
        info.held start.toNat count.toNat := rfl
  simp only [planWords, plan, addressWord?_eq, hslot, hoffset, if_neg hlayout, if_neg hslots,
    hoffsetWord, hfitsWord, hleft, hheld, hlengthWord, hlengthByte, hslotByte, Option.bind_eq_bind,
    Option.bind_some]
  -- what is left is the address, which is too large for its word exactly if the plan refuses it
  by_cases hnothing : info.held start.toNat count.toNat = 0
  · rw [if_pos hnothing, if_pos hnothing]
  rw [if_neg hnothing, if_neg hnothing]
  by_cases haddress : 0xffff < info.baseAddress.toNat +
      start.toNat % info.entriesPerSlot.toNat * info.entrySize.toNat
  · rw [if_pos haddress, word?_of_le haddress]
    rfl
  · rw [if_neg haddress, word?_of_lt (Nat.lt_succ_of_le (Nat.le_of_not_lt haddress))]
    rfl

/-- For every layout, every first entry and every number of entries, the plan worked out in words
comes out without an overflow. Its checks say exactly what it comes to, and a window tells its first
entry by its slot and the place in it. -/
theorem plan_exact (info : Info) (start : UInt32) (count : UInt16) :
    info.planWords start count = some (info.plan start.toNat count.toNat) ∧
    (∀ result, info.plan start.toNat count.toNat = result ↔
      info.Planned start.toNat count.toNat result) ∧
    ∀ window, info.plan start.toNat count.toNat = .ok window →
      window.slot.toNat * info.entriesPerSlot.toNat + window.offset.toNat = start.toNat ∧
      window.offset.toNat < info.entriesPerSlot.toNat ∧ 1 ≤ window.count.toNat ∧
      window.request.length.toNat = window.count.toNat * info.entrySize.toNat ∧
      window.request.length.toNat ≤ 64 ∧
      window.request.address.toNat =
        info.baseAddress.toNat + window.offset.toNat * info.entrySize.toNat := by
  refine ⟨info.planWords_eq start count, fun result => plan_eq_iff, fun window hplan => ?_⟩
  obtain ⟨hcovers, -⟩ := plan_spec hplan
  have hpos := hcovers.count_pos
  have hinside := hcovers.count_le
  exact ⟨hcovers.start_eq, by omega, hpos, hcovers.length_eq, hcovers.length_le, hcovers.address_eq⟩

/-- An entry of the last slot of the largest storage: its device is counted past 255, and only the
address that it starts with is in range. -/
theorem plan_exact_of_largest :
    let info : Info :=
      { kind := .log, rate := 0, amount := 0, entrySize := 60, entriesPerSlot := 65535,
        slotCount := 255, baseAddress := 0, firstDevice := 255 }
    let window : Window :=
      { slot := 254, offset := 1092, count := 1,
        request := { device := 253, address := 65520, length := 60 } }
    info.planWords 16646982 7 = some (.ok window) ∧ info.Planned 16646982 7 (.ok window) ∧
      254 * 65535 + 1092 = 16646982 := by
  intro info window
  have hplan : info.plan 16646982 7 = .ok window := by decide +kernel
  obtain ⟨hwords, hplanned, hwindow⟩ := plan_exact info 16646982 7
  exact ⟨hwords.trans (congrArg some hplan), (hplanned _).1 hplan, (hwindow window hplan).1⟩

end Info

end Multimeter.Storage
