import Multimeter.Proofs.Act.Repeated
import Multimeter.Proofs.Link.Calls
import Multimeter.Proofs.Link.Trimmed
/-!
# Starting a link afresh

A link that starts afresh forgets the frame in flight and the bytes at hand, and then reads the wire
until a read delivers nothing. It forgets before it reads, so it has forgotten even if a read fails.

* `Drains`: the pieces that a wire delivers until its first empty read.
* `run_drain`, `exists_drains`: a wire is drained if and only if that read comes soon enough.
* `trimmed_reset`: in view, starting afresh leaves a new link on what is left of the wire.
-/

namespace Multimeter.Link

open Act

variable {ω : Type} [Wire ω]

/-- Read without waiting, the wire delivers these pieces and then nothing for the first time. -/
inductive Drains : ω → List (List UInt8) → ω → Prop
  /-- Nothing is there. -/
  | done {wire last : ω} (h : Wire.read .never drainSize wire = (.ok [], last)) :
    Drains wire [] last
  /-- A piece is there. -/
  | more {wire next last : ω} {piece : List UInt8} {pieces : List (List UInt8)}
    (h : Wire.read .never drainSize wire = (.ok piece, next)) (hpiece : piece ≠ [])
    (hlater : Drains next pieces last) : Drains wire (piece :: pieces) last

/-- The reads that drain a wire of these pieces. -/
def drainReads (pieces : List (List UInt8)) : List Event :=
  (pieces ++ [[]]).map fun piece => .read .never (.ok piece)

/-- A read of the line comes to what the wire delivers. -/
theorem run_read_of_eq {link : Link ω} {bytes : List UInt8} {next : ω}
    (h : Wire.read .never drainSize link.wire = (.ok bytes, next)) :
    (read .never drainSize).run link =
      { ending := .returned bytes, state := { link with wire := next }
        events := [.read .never (.ok bytes)] } := by
  rw [run_read_of_ok (congrArg Prod.fst h), congrArg Prod.snd h]

/-- With enough patience, a wire is drained up to its first empty read. -/
theorem run_drain {link : Link ω} {pieces : List (List UInt8)} {last : ω} {patience : Nat}
    (h : Drains link.wire pieces last) (hpatience : pieces.length < patience) :
    (drain patience).run link =
      { ending := .returned pieces.flatten.length, state := { link with wire := last }
        events := drainReads pieces } := by
  -- each piece costs one round, and the empty read is the last one
  induction pieces generalizing link patience with
  | nil =>
    obtain ⟨patience, rfl⟩ := Nat.exists_eq_add_one.2 hpatience
    obtain ⟨hread⟩ := h
    have hrun := run_read_of_eq hread
    rw [drain, run_bind_of_returned (congrArg Outcome.ending hrun), hrun]
    rfl
  | cons piece pieces ih =>
    obtain ⟨patience, rfl⟩ := Nat.exists_eq_add_one.2 (Nat.zero_lt_of_lt hpatience)
    cases h with
    | @more _ next _ _ _ hread hpiece hlater =>
      have hrun := run_read_of_eq hread
      have hsome : piece.isEmpty = false := by simpa using hpiece
      have hrest := @ih { link with wire := next } _ hlater (Nat.lt_of_succ_lt_succ hpatience)
      rw [drain, run_bind_of_returned (congrArg Outcome.ending hrun), hrun]
      simp only [hsome, Bool.false_eq_true, ↓reduceIte]
      rw [run_bind_of_returned (congrArg Outcome.ending hrest), hrest]
      simp [drainReads]

/-- Whenever draining comes to an end, it has met an empty read. -/
theorem exists_drains {link : Link ω} {patience count : Nat}
    (h : ((drain patience).run link).ending = .returned count) :
    ∃ pieces last, Drains link.wire pieces last ∧ pieces.length < patience := by
  induction patience generalizing link count with
  | zero => cases h
  | succ patience ih =>
    obtain ⟨piece, hending, hlater⟩ := exists_of_returned_bind h
    have hread : Wire.read .never drainSize link.wire =
        (.ok piece, ((read .never drainSize).run link).state.wire) :=
      Prod.ext (ok_of_read hending) rfl
    by_cases hpiece : piece = []
    · subst hpiece
      exact ⟨[], _, .done hread, Nat.succ_pos patience⟩
    · have hsome : piece.isEmpty = false := by simpa using hpiece
      simp only [hsome, Bool.false_eq_true, ↓reduceIte] at hlater
      -- the piece goes in front of what is drained behind it
      obtain ⟨later, hdrained, -⟩ := exists_of_returned_bind hlater
      obtain ⟨pieces, last, hdrains, hlength⟩ := ih hdrained
      exact ⟨piece :: pieces, last, .more hread hpiece hdrains, Nat.succ_lt_succ hlength⟩

/-- Draining changes the wire alone. -/
theorem state_drain (patience : Nat) (link : Link ω) :
    ((drain patience).run link).state =
      { link with wire := ((drain patience).run link).state.wire } := by
  have hkept : Keeps (fun (link' : Link ω) _ => link' = { link with wire := link'.wire })
      (drain patience) := by
    refine keeps_drain (fun link' _ h => ?_) patience
    let wire := (Wire.read .never drainSize link'.wire).2
    exact congrArg (fun other : Link ω => { other with wire }) h
  exact hkept link [] rfl

/-! ## Starting afresh -/

/-- What starting afresh leaves, whatever becomes of the wire. -/
theorem state_reset (patience : Nat) (link : Link ω) :
    ((reset patience).run link).state =
      { link with
        wire := ((reset patience).run link).state.wire
        parser := link.parser.reset
        inbox := link.inbox.clear } := by
  let cleared : Link ω := { link with parser := link.parser.reset, inbox := link.inbox.clear }
  have hstate : ((reset patience).run link).state = ((drain patience).run cleared).state :=
    (run_discard (drain patience) cleared).1
  rw [hstate, state_drain]

/-- Starting afresh with enough patience drains the wire. -/
theorem run_reset {link : Link ω} {pieces : List (List UInt8)} {last : ω} {patience : Nat}
    (h : Drains link.wire pieces last) (hpatience : pieces.length < patience) :
    (reset patience).run link =
      { ending := .returned ()
        state := { link with
          wire := last, parser := link.parser.reset, inbox := link.inbox.clear }
        events := drainReads pieces } := by
  let cleared : Link ω := { link with parser := link.parser.reset, inbox := link.inbox.clear }
  have hrun : (drain patience).run cleared = _ := run_drain h hpatience
  have hreset : (reset patience).run link =
      (drain patience >>= fun _ => Pure.pure ()).run cleared := rfl
  rw [hreset, run_bind_of_returned (congrArg Outcome.ending hrun), hrun, run_pure, List.append_nil]

/-- If starting afresh succeeds, then the wire has been drained. -/
theorem exists_drains_of_reset {link : Link ω} {patience : Nat}
    (h : ((reset patience).run link).ending = .returned ()) :
    ∃ pieces last, Drains link.wire pieces last ∧ pieces.length < patience := by
  let cleared : Link ω := { link with parser := link.parser.reset, inbox := link.inbox.clear }
  have hdrain : ((drain patience >>= fun _ => Pure.pure ()).run cleared).ending = .returned () := h
  obtain ⟨count, hdrained, -⟩ := exists_of_returned_bind hdrain
  have hdrains : ∃ pieces last, Drains cleared.wire pieces last ∧ pieces.length < patience :=
    exists_drains hdrained
  exact hdrains

/-- In view, starting afresh leaves a new link, whatever becomes of the wire. -/
theorem trimmed_reset {link : Link ω} (h : link.parser.direction = .response) (patience : Nat) :
    let next := ((reset patience).run link).state
    next.trimmed = (Link.new next.wire link.config).trimmed := by
  intro next
  have hparser : link.parser.reset = Frame.Parser.new .response := by
    rw [Frame.Parser.reset, h]
  have hinbox : link.inbox.clear.trimmed = Inbox.empty.trimmed :=
    Inbox.trimmed_clear link.inbox Inbox.empty
  have hnext : next.trimmed =
      { link with
        wire := next.wire, parser := link.parser.reset, inbox := link.inbox.clear.trimmed } :=
    congrArg trimmed (state_reset patience link)
  rw [hnext, hparser, hinbox]
  rfl

end Multimeter.Link
