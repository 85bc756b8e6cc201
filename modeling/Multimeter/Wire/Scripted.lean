import Multimeter.Wire
/-!
# Scripted wire

A wire that plays a script, for tests without a meter. It holds a queue of segments; each read looks
at the first one only. Each write that does not fail brings the next reply into the queue. How much
a write accepts can be prescribed, and so can failures of reads and writes.
-/

namespace Multimeter

/-- What one or more reads find. -/
inductive Segment where
  /-- Bytes to deliver. -/
  | bytes (content : List UInt8)
  /-- The next read fails. -/
  | fault
  deriving DecidableEq, Repr

/-- What a write does. -/
inductive WriteRule where
  /-- It accepts every byte. -/
  | all
  /-- It accepts at most this many bytes. -/
  | atMost (count : Nat)
  /-- It fails. -/
  | fault
  deriving DecidableEq, Repr

/-- A wire that plays a script. -/
structure ScriptedWire where
  /-- What the next reads find. -/
  segments : List Segment := []
  /-- What the next writes bring into the queue. -/
  replies : List (List Segment) := []
  /-- What the next writes do; later ones accept everything. -/
  rules : List WriteRule := []
  /-- The most bytes that one read delivers, 0 for no limit. -/
  chunk : Nat := 0
  deriving DecidableEq, Repr

namespace ScriptedWire

/-- The failure that a script reports. -/
def fault : Fault := ⟨"MockError"⟩

/-- Move the next reply into the queue. -/
def reply (wire : ScriptedWire) : ScriptedWire :=
  match wire.replies with
  | [] => wire
  | first :: later => { wire with segments := wire.segments ++ first, replies := later }

/-- Play a write. -/
def write (bytes : List UInt8) (wire : ScriptedWire) : WriteResult × ScriptedWire :=
  let rest := { wire with rules := wire.rules.tail }
  match wire.rules.headD .all with
  | .all => (.ok bytes.length, rest.reply)
  | .atMost count => (.ok (min count bytes.length), rest.reply)
  | .fault => (.error fault, rest)

/-- The most bytes that a read into `capacity` bytes delivers. -/
def limit (wire : ScriptedWire) (capacity : Nat) : Nat :=
  if wire.chunk = 0 then capacity else min wire.chunk capacity

/-- Play a read. -/
def read (capacity : Nat) (wire : ScriptedWire) : ReadResult × ScriptedWire :=
  match wire.segments with
  | [] => (.ok [], wire)
  | .fault :: later => (.error fault, { wire with segments := later })
  | .bytes content :: later =>
    let rest := content.drop (wire.limit capacity)
    (.ok (content.take (wire.limit capacity)),
      { wire with segments := if rest.isEmpty then later else .bytes rest :: later })

/-- No read delivers more than it has room for. -/
theorem limit_le (wire : ScriptedWire) (capacity : Nat) : wire.limit capacity ≤ capacity := by
  unfold limit
  split
  · exact Nat.le_refl _
  · exact Nat.min_le_right _ _

instance : Wire ScriptedWire where
  write bytes _ wire := wire.write bytes
  read _ capacity wire := wire.read capacity
  length_le_of_read _ capacity wire bytes h := by
    unfold read at h
    split at h
    · cases h
      exact Nat.zero_le _
    · cases h
    · cases h
      exact Nat.le_trans (List.length_take_le _ _) (wire.limit_le capacity)

end ScriptedWire

end Multimeter
