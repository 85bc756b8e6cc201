/-!
# Measurement flags

How a value was measured, as a set of flags in one 16-bit word.
-/

namespace Multimeter

/-- A set of measurement flags. -/
structure Flags where
  /-- One bit for each flag. -/
  bits : UInt16
  deriving DecidableEq, Repr

namespace Flags

/-- No flag. -/
def none : Flags := ⟨0⟩

/-- Alternating quantity. -/
def ac : Flags := ⟨0x001⟩

/-- Direct quantity. -/
def dc : Flags := ⟨0x002⟩

/-- Root mean square. -/
def rms : Flags := ⟨0x004⟩

/-- Forward voltage of a diode. -/
def diode : Flags := ⟨0x008⟩

/-- The value is held. -/
def hold : Flags := ⟨0x010⟩

/-- Largest value so far. -/
def max : Flags := ⟨0x020⟩

/-- Smallest value so far. -/
def min : Flags := ⟨0x040⟩

/-- Average so far. -/
def avg : Flags := ⟨0x080⟩

/-- The value is relative to a reference. -/
def relative : Flags := ⟨0x100⟩

/-- The value is the reference. -/
def reference : Flags := ⟨0x200⟩

/-- The meter chose the range by itself. -/
def autorange : Flags := ⟨0x400⟩

/-- Every flag with its name, in bit order. -/
def named : List (Flags × String) :=
  [(ac, "AC"), (dc, "DC"), (rms, "RMS"), (diode, "DIODE"), (hold, "HOLD"), (max, "MAX"),
   (min, "MIN"), (avg, "AVG"), (relative, "RELATIVE"), (reference, "REFERENCE"),
   (autorange, "AUTORANGE")]

/-- The flags of either set. -/
def union (a b : Flags) : Flags := ⟨a.bits ||| b.bits⟩

instance : OrOp Flags := ⟨union⟩

/-- Every flag of `b` is in `a`. -/
def contains (a b : Flags) : Bool := a.bits &&& b.bits == b.bits

/-- The set has no flag. -/
def isEmpty (flags : Flags) : Bool := flags.bits == 0

/-- The names of the flags in the set, in bit order. -/
def names (flags : Flags) : List String :=
  (named.filter fun (flag, _) => flags.contains flag).map Prod.snd

end Flags

end Multimeter
