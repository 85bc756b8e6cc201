import Multimeter.Proofs.Link.Resumption
import Multimeter.Proofs.Parser.Soundness
/-!
# What a parser holds

The stage of a parser tells what it holds, byte by byte, and with it the other fields. So there is
always room for the next byte, and a byte that is refused costs the frame in flight and nothing
more.

* `Represents`: what a parser holds in each stage.
* `Coherent.represents`: a parser that holds the beginning of a frame holds what its stage tells.
* `run_represents`: every parser does, whatever it has been fed and however often it was reset; and
  a link never fails on account of its parser.
-/

namespace Multimeter.Frame.Parser

/-- The length byte `length` of a frame with `command` has been taken: it is the announced length,
and the command allows it. -/
def Announces (parser : Parser) (command : Command) (length : UInt8) : Prop :=
  parser.expected = length.toNat ∧ parser.expected ≤ 64 ∧
    command.allows parser.direction parser.expected = true

/-- What a parser holds in each stage. -/
def Represents (parser : Parser) : Prop :=
  match parser.stage with
  | .empty => parser.buffer = [] ∧ parser.sum = Checksum.zero ∧ parser.expected = 0
  | .oneStart => parser.buffer = [0x55]
  | .twoStarts => parser.buffer = [0x55, 0x55]
  | .haveCommand => ∃ command : Command,
      command.validFor parser.direction = true ∧ parser.buffer = [0x55, 0x55, command.byte]
  | .haveLength => ∃ (command : Command) (length : UInt8),
      parser.Announces command length ∧ parser.buffer = [0x55, 0x55, command.byte, length]
  | .accumulating => ∃ (command : Command) (length : UInt8) (payload : List UInt8),
      parser.Announces command length ∧
      parser.buffer = [0x55, 0x55, command.byte, length] ++ payload ∧
      1 ≤ payload.length ∧ payload.length ≤ parser.expected

/-- The length that a coherent parser expects is the one that the header announces. -/
theorem Coherent.announces {parser : Parser} (h : parser.Coherent) {command : Command}
    {length : UInt8} {payload : List UInt8}
    (hbuffer : parser.buffer = [startByte, startByte, command.byte, length] ++ payload)
    (hallows : command.allows parser.direction length.toNat = true) :
    parser.Announces command length := by
  -- the announced length is the fourth byte held
  have hexpected : parser.expected = length.toNat := by
    rw [h.expected_eq, hbuffer]
    rfl
  rw [Announces, hexpected]
  exact ⟨rfl, Command.le_maxPayload_of_allows hallows, hallows⟩

/-- A coherent parser holds what its stage says. -/
theorem Coherent.represents {parser : Parser} (h : parser.Coherent) : parser.Represents := by
  have hheld := h.held
  rw [Represents]
  generalize hstage : parser.stage = stage at hheld
  generalize hbuffer : parser.buffer = bytes at hheld
  -- one case for each stage, as the bytes held are told
  cases hheld with
  | empty =>
    have hreset := h.eq_reset hstage
    exact ⟨rfl, congrArg Parser.sum hreset, congrArg Parser.expected hreset⟩
  | oneStart => exact rfl
  | twoStarts => exact rfl
  | @haveCommand command hvalid => exact ⟨command, hvalid, rfl⟩
  | @haveLength command length hallows =>
    exact ⟨command, length, @announces parser h command length [] hbuffer hallows, rfl⟩
  | @accumulating command length payload hallows hpos hle =>
    have hannounces := h.announces hbuffer hallows
    exact ⟨command, length, payload, hannounces, rfl, List.length_pos_iff.2 hpos,
      hannounces.1.symm ▸ hle⟩

/-- However a parser is fed and reset, it holds what its stage tells, at most 68 bytes, with their
checksum. Whatever the next byte, the parser reports none but errors that it recovers from, and no
overflow among them. So a look for a frame fails only if the line does, whatever has been done with
the link. -/
theorem run_represents {ω : Type} [Wire ω] (direction : Direction) (inputs : List Input) (wire : ω)
    (config : Config) (steps : List Link.Step) :
    let parser := ((new direction).run inputs).2
    let link := (Act.runAll (Link.new wire config) (steps.map Link.Step.act)).1
    parser.direction = direction ∧ parser.Represents ∧
      parser.sum.value = checksum parser.buffer ∧ parser.buffer.length ≤ 68 ∧
      (∀ byte error, (parser.feed byte).1 = .error error → error.isRecoverable = true ∧
        error ≠ .overflow ∧ error ≠ .payloadTooLarge ∧ error ≠ .bufferTooSmall) ∧
      ∀ blocking error, ((Link.receive blocking).run link).ending = .failed error →
        ∃ fault, error = .io fault := by
  intro parser link
  obtain ⟨_, _, htracks⟩ := tracks_run direction inputs
  -- all of this is told by the parser being coherent
  have hcoherent : parser.Coherent := htracks.coherent
  refine ⟨htracks.direction_eq, hcoherent.represents, hcoherent.value_eq,
    Nat.le_of_lt_succ hcoherent.length_lt, fun byte error herror => ?_,
    fun blocking error hending => ?_⟩
  · have hrecoverable := isRecoverable_of_feed hcoherent herror
    refine ⟨hrecoverable, ?_, ?_, ?_⟩
    all_goals
      rintro rfl
      cases hrecoverable
  -- a search never fails, so only the read of a look can
  · have hlink := (Link.listening_runAll wire config steps).coherent
    exact (Link.receive_io blocking link [] hlink).error error hending

end Multimeter.Frame.Parser
