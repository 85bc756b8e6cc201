import Multimeter.Frame.Parser
import Multimeter.Proofs.Codec
import Multimeter.Wire
/-!
# An answering meter

A wire with a meter at its far end. The meter has a fixed memory and answers every request that it
receives with one frame, in the order of the requests. How many bytes a write gets across and how
many bytes a read finds is left open, and so is which of them fail: answers may be late by any time
and cut into any pieces.

* `Answers`: what is a correct answer to a request.
* `Behavior`: which answers the meter gives, and what each write and each read comes to.
* `Image.respond`: the answers of a meter that does what it is asked for.
* `AnsweringWire`: the wire, with all exchanges that the meter has had.
-/

namespace Multimeter

/-- The memory of a meter, by device and address. -/
abbrev Image : Type := UInt8 → Nat → UInt8

/-- The bytes of a stretch of memory. -/
def Image.read (image : Image) (block : MemoryBlock) : List UInt8 :=
  (List.range block.length.toNat).map fun i => image block.device (block.address.toNat + i)

/-- A stretch of memory is read in full length. -/
@[simp]
theorem Image.length_read (image : Image) (block : MemoryBlock) :
    (image.read block).length = block.length.toNat := by
  rw [Image.read, List.length_map, List.length_range]

/-- `answer` is a correct answer to `request`: it has the command of the request or acknowledges it,
and if it carries memory, it carries the stretch asked for. -/
structure Answers (image : Image) (request answer : Frame) : Prop where
  /-- The answer may travel from the meter. -/
  validFor : answer.ValidFor .response
  /-- It belongs to the request or is an acknowledgement. -/
  command : answer.command = request.command ∨ answer.command = .success ∨
    answer.command = .failure
  /-- If it carries memory, it carries the memory asked for. -/
  memory : answer.command = .readMemory →
    ∃ block, Request.ofFrame request = .ok (.readMemory block) ∧
      answer.payload.bytes = image.read block

/-- A request and the answer to it. -/
structure Exchange (image : Image) where
  /-- What the meter received. -/
  request : Frame
  /-- What it answered. -/
  answer : Frame
  /-- The answer is correct. -/
  answers : Answers image request answer

/-- How a meter answers and how its line behaves. -/
structure Behavior (image : Image) where
  /-- The answer to the `index`th request. -/
  answer : (index : Nat) → (request : Frame) → Frame
  /-- Every answer is correct. -/
  answers (index : Nat) (request : Frame) : Answers image request (answer index request)
  /-- How many bytes the `index`th write gets across at most, and whether it fails. -/
  accepts : (index : Nat) → Nat × Option Fault
  /-- How many bytes the `index`th read finds at most, or its failure. -/
  arrives : (index : Nat) → Except Fault Nat

/-- What a meter that does what it is asked for answers. Anything but its identification and its
memory it refuses. -/
def Image.respond (image : Image) (information : Information) (request : Frame) : Response :=
  match Request.ofFrame request with
  | .ok .readInformation => .information information
  | .ok (.readMemory block) =>
    if h : block.length.toNat ≤ maxPayload then
      .memory ⟨image.read block, (image.length_read block).symm ▸ h⟩
    else .failure 0
  | _ => .failure 0

/-- Its answers are correct. -/
theorem Image.answers_respond (image : Image) (information : Information) (request : Frame) :
    Answers image request (image.respond information request).frame := by
  -- a refusal is a correct answer to every request
  have hrefusal (status : UInt8) : Answers image request (Response.failure status).frame :=
    ⟨Response.validFor_frame _, .inr (.inr rfl), fun h => nomatch h⟩
  unfold respond
  split
  case h_1 hrequest =>
    have hcommand := Request.command_of_ofFrame hrequest
    exact ⟨Response.validFor_frame _, .inl hcommand.symm, fun h => nomatch h⟩
  case h_2 block hrequest =>
    -- the memory asked for is sent only if it fits a frame
    split
    · have hcommand := Request.command_of_ofFrame hrequest
      exact ⟨Response.validFor_frame _, .inl hcommand.symm, fun _ => ⟨block, hrequest, rfl⟩⟩
    · exact hrefusal 0
  case h_3 => exact hrefusal 0

/-- A wire with a meter at its far end. -/
structure AnsweringWire (image : Image) where
  /-- How the meter answers and how the line behaves. -/
  behavior : Behavior image
  /-- The receiver of the meter. -/
  parser : Frame.Parser := .new .request
  /-- The requests received so far, with their answers. -/
  exchanges : List (Exchange image) := []
  /-- The bytes of the answers that have not been read yet. -/
  line : List UInt8 := []
  /-- The number of writes so far. -/
  writes : Nat := 0
  /-- The number of reads so far. -/
  reads : Nat := 0

namespace AnsweringWire

variable {image : Image}

/-- A request together with the answer that it gets. -/
def reply (wire : AnsweringWire image) (request : Frame) : Exchange image where
  request := request
  answer := wire.behavior.answer wire.exchanges.length request
  answers := wire.behavior.answers _ request

/-- The meter receives a request and answers it. -/
def serve (wire : AnsweringWire image) (request : Frame) : AnsweringWire image :=
  { wire with
    exchanges := wire.exchanges ++ [wire.reply request]
    line := wire.line ++ (wire.reply request).answer.encode }

/-- Bytes reach the meter, which answers every request that they complete. -/
def take (wire : AnsweringWire image) (bytes : List UInt8) : AnsweringWire image :=
  let (verdicts, parser) := wire.parser.feedAll bytes
  (verdicts.filterMap Verdict.frame?).foldl serve { wire with parser }

/-- Offer bytes to the line. -/
def write (wire : AnsweringWire image) (bytes : List UInt8) : WriteResult × AnsweringWire image :=
  let (count, fault?) := wire.behavior.accepts wire.writes
  let accepted := bytes.take count
  (match fault? with
    | some fault => .error fault
    | none => .ok accepted.length,
    { wire with writes := wire.writes + 1 }.take accepted)

/-- Read from the line. -/
def read (wire : AnsweringWire image) (capacity : Nat) : ReadResult × AnsweringWire image :=
  let next := { wire with reads := wire.reads + 1 }
  match wire.behavior.arrives wire.reads with
  | .error fault => (.error fault, next)
  | .ok count =>
    (.ok (wire.line.take (min count capacity)),
      { next with line := wire.line.drop (min count capacity) })

instance : Wire (AnsweringWire image) where
  write bytes _ wire := wire.write bytes
  read _ capacity wire := wire.read capacity
  length_le_of_read _ capacity wire bytes h := by
    unfold read at h
    split at h
    · cases h
    · cases h
      exact Nat.le_trans (List.length_take_le _ _) (Nat.min_le_right _ _)

end AnsweringWire

end Multimeter
