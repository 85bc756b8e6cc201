/-!
# Frame checksum

The checksum of a byte string is the sum of its bytes modulo 256. A receiver sees one byte at a
time, so the sum is kept as a running value; adding two strings one after the other is the same as
adding their concatenation.
-/

namespace Multimeter

/-- A running sum of bytes modulo 256. -/
structure Checksum where
  /-- The sum of the bytes added so far. -/
  value : UInt8
  deriving DecidableEq, Repr

namespace Checksum

/-- The sum of no bytes. -/
def zero : Checksum := ⟨0⟩

/-- Add one byte. -/
def add (sum : Checksum) (byte : UInt8) : Checksum := ⟨sum.value + byte⟩

/-- Add every byte of a string, in order. -/
def addAll (sum : Checksum) (bytes : List UInt8) : Checksum := bytes.foldl add sum

@[simp]
theorem addAll_nil (sum : Checksum) : sum.addAll [] = sum := rfl

@[simp]
theorem addAll_cons (sum : Checksum) (byte : UInt8) (bytes : List UInt8) :
    sum.addAll (byte :: bytes) = (sum.add byte).addAll bytes := rfl

/-- Adding a concatenation adds its parts one after the other. -/
theorem addAll_append (sum : Checksum) (xs ys : List UInt8) :
    sum.addAll (xs ++ ys) = (sum.addAll xs).addAll ys := by
  simp [addAll]

end Checksum

/-- The checksum of a byte string. -/
def checksum (bytes : List UInt8) : UInt8 := (Checksum.zero.addAll bytes).value

/-- A running sum goes on with the checksum of the bytes added. -/
theorem Checksum.value_addAll (sum : Checksum) (bytes : List UInt8) :
    (sum.addAll bytes).value = sum.value + checksum bytes := by
  induction bytes generalizing sum with
  | nil => exact (UInt8.add_zero _).symm
  | cons byte bytes ih =>
    rw [checksum, addAll_cons, addAll_cons, ih, ih, add, add, zero, UInt8.zero_add, UInt8.add_assoc]

/-- The checksum of a concatenation is the sum of those of its parts. -/
theorem checksum_append (xs ys : List UInt8) : checksum (xs ++ ys) = checksum xs + checksum ys := by
  rw [checksum, Checksum.addAll_append, Checksum.value_addAll, ← checksum]

/-- The checksum of some bytes is that of all but the first, and the first added to it. -/
theorem checksum_cons (byte : UInt8) (bytes : List UInt8) :
    checksum (byte :: bytes) = byte + checksum bytes := by
  rw [checksum, Checksum.addAll_cons, Checksum.value_addAll, Checksum.add, Checksum.zero,
    UInt8.zero_add]

/-- The sum of the bytes, each as a number. -/
def byteSum (bytes : List UInt8) : Nat := bytes.foldr (fun byte sum => byte.toNat + sum) 0

/-- The checksum is the sum of the bytes modulo 256. -/
theorem checksum_eq_ofNat_byteSum (bytes : List UInt8) :
    checksum bytes = UInt8.ofNat (byteSum bytes) := by
  induction bytes with
  | nil => rfl
  | cons byte bytes ih =>
    rw [checksum_cons, byteSum, List.foldr_cons, ← byteSum, UInt8.ofNat_add, UInt8.ofNat_toNat, ih]

/-- Another byte in the place of one changes the checksum. -/
theorem checksum_ne_of_ne {byte value : UInt8} (h : value ≠ byte) (before behind : List UInt8) :
    checksum (before ++ value :: behind) ≠ checksum (before ++ byte :: behind) := by
  rw [checksum_append, checksum_append, checksum_cons, checksum_cons]
  exact fun heq => h ((UInt8.add_left_inj _).1 ((UInt8.add_right_inj _).1 heq))

end Multimeter
