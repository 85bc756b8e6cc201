import Multimeter.SessionError
/-!
# Wires

A wire is the host's end of a serial line: bytes are written to it and read from it. Nothing else is
known of it; what it accepts and delivers, and when, may depend on all that happened before.
-/

namespace Multimeter

/-- How long a read may wait for the first byte. -/
inductive Wait where
  /-- Take only what has arrived. -/
  | never
  /-- Wait up to this many milliseconds. -/
  | upTo (milliseconds : UInt32)
  deriving DecidableEq, Repr

/-- What a write did: the number of bytes accepted, or a failure. -/
abbrev WriteResult := Except Fault Nat

/-- What a read did: the bytes delivered, perhaps none, or a failure. -/
abbrev ReadResult := Except Fault (List UInt8)

/-- The states `ω` of a serial line, with writing and reading. -/
class Wire (ω : Type) where
  /-- Write bytes, waiting at most some milliseconds for the line to accept them. -/
  write : List UInt8 → (timeout : UInt32) → ω → WriteResult × ω
  /-- Read at most `capacity` bytes. -/
  read : Wait → (capacity : Nat) → ω → ReadResult × ω
  /-- A read delivers no more than was asked for. -/
  length_le_of_read (wait : Wait) (capacity : Nat) (wire : ω) (bytes : List UInt8) :
    (read wait capacity wire).1 = .ok bytes → bytes.length ≤ capacity

end Multimeter
