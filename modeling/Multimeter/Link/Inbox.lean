import Multimeter.Frame
/-!
# Inbox

The room into which a link reads, with the part of it that the last read filled and how far that
part has been looked at. A read writes over the start of the room, so it loses nothing only if all
that was there has been looked at before.
-/

namespace Multimeter

/-- The most bytes that one read takes: a few frames. -/
def readSize : Nat := 3 * maxFrame

/-- The room of a link for one read. -/
structure Inbox where
  /-- The bytes in the room, those of earlier reads among them. -/
  room : List UInt8
  /-- The number of bytes that were looked at. -/
  position : Nat
  /-- The number of bytes that the last read delivered. -/
  filled : Nat
  deriving DecidableEq, Repr

namespace Inbox

/-- A room that no read has filled. -/
def empty : Inbox := { room := List.replicate readSize 0, position := 0, filled := 0 }

/-- The bytes that were read but not yet looked at. -/
def rest (inbox : Inbox) : List UInt8 := (inbox.room.take inbox.filled).drop inbox.position

/-- The number of bytes that were read but not yet looked at. -/
def buffered (inbox : Inbox) : Nat := inbox.filled - inbox.position

/-- Take in what a read delivered. -/
def fill (inbox : Inbox) (bytes : List UInt8) : Inbox :=
  { room := bytes ++ inbox.room.drop bytes.length
    position := 0
    filled := min bytes.length readSize }

/-- Look at some more bytes. -/
def advance (inbox : Inbox) (count : Nat) : Inbox :=
  { inbox with position := inbox.position + count }

/-- Forget the bytes that were not looked at. -/
def clear (inbox : Inbox) : Inbox := { inbox with position := 0, filled := 0 }

/-- What was looked at was read, and what was read fits the room. -/
structure Within (inbox : Inbox) : Prop where
  /-- No more was looked at than was read. -/
  position_le : inbox.position ≤ inbox.filled
  /-- No more was read than one read takes. -/
  filled_le : inbox.filled ≤ readSize
  /-- The room keeps its size. -/
  length_room : inbox.room.length = readSize

/-- An empty inbox is within its room. -/
theorem within_empty : empty.Within :=
  ⟨Nat.le_refl _, Nat.zero_le _, List.length_replicate⟩

@[simp]
theorem rest_empty : empty.rest = [] := rfl

/-- The bytes not looked at are as many as the two counters say. -/
theorem length_rest {inbox : Inbox} (h : inbox.Within) : inbox.rest.length = inbox.buffered := by
  have hfilled := h.filled_le
  simp only [rest, buffered, List.length_drop, List.length_take, h.length_room]
  omega

/-- A read of no more than its room is there to be looked at. -/
theorem rest_fill {inbox : Inbox} {bytes : List UInt8} (h : bytes.length ≤ readSize) :
    (inbox.fill bytes).rest = bytes := by
  simp [rest, fill, Nat.min_eq_left h]

/-- A read that fits into the inbox leaves it within its room. -/
theorem Within.fill {inbox : Inbox} (h : inbox.Within) {bytes : List UInt8}
    (hlength : bytes.length ≤ readSize) : (inbox.fill bytes).Within where
  position_le := Nat.zero_le _
  filled_le := Nat.min_le_right _ _
  length_room := by
    simp only [Inbox.fill, List.length_append, List.length_drop, h.length_room]
    omega

/-- Looking at bytes takes them off the front. -/
theorem rest_advance (inbox : Inbox) (count : Nat) :
    (inbox.advance count).rest = inbox.rest.drop count := by
  simp [rest, advance, List.drop_drop]

/-- Taking bytes that are buffered leaves the inbox within its room. -/
theorem Within.advance {inbox : Inbox} (h : inbox.Within) {count : Nat}
    (hcount : count ≤ inbox.buffered) : (inbox.advance count).Within where
  position_le := by
    have := h.position_le
    simp only [Inbox.advance, buffered] at hcount ⊢
    omega
  filled_le := h.filled_le
  length_room := h.length_room

/-- Nothing is left in an inbox that was cleared. -/
@[simp]
theorem rest_clear (inbox : Inbox) : inbox.clear.rest = [] := by
  simp [rest, clear]

/-- Clearing the inbox leaves it within its room. -/
theorem Within.clear {inbox : Inbox} (h : inbox.Within) : inbox.clear.Within where
  position_le := Nat.le_refl _
  filled_le := Nat.zero_le _
  length_room := h.length_room

end Inbox

end Multimeter
