/-!
# Variable-length integers

A number in groups of seven bits, lowest group first, one group to a byte; the high bit of a byte
says that another one follows. A reader takes a bounded number of bytes and leaves those behind
them.
-/

namespace Multimeter.Varint

/-- Write a number in as few bytes as it needs. -/
def encode (n : Nat) : List UInt8 :=
  if n < 128 then [UInt8.ofNat n] else UInt8.ofNat (n % 128 + 128) :: encode (n / 128)
termination_by n
decreasing_by omega

/-- Read a number of at most `limit` bytes. Needlessly long forms are accepted. -/
def decode? : (limit : Nat) → List UInt8 → Option (Nat × List UInt8)
  | 0, _ => none
  | _ + 1, [] => none
  | limit + 1, byte :: bytes =>
    if byte.toNat < 128 then some (byte.toNat, bytes)
    else do
      let (higher, rest) ← decode? limit bytes
      some (byte.toNat - 128 + 128 * higher, rest)

/-- A 32-bit number takes at most five bytes. -/
theorem length_encode_le_five {n : Nat} (h : n < UInt32.size) : (encode n).length ≤ 5 := by
  have hsize : UInt32.size = 4294967296 := rfl
  have step : ∀ {m bound : Nat}, (encode (m / 128)).length ≤ bound →
      (encode m).length ≤ bound + 1 := by
    intro m bound hm
    rw [encode]
    split
    · simp
    · simpa using hm
  have last : (encode (n / 128 / 128 / 128 / 128)).length ≤ 1 := by
    rw [encode, if_pos (by omega)]
    simp
  exact step (step (step (step last)))

end Multimeter.Varint
