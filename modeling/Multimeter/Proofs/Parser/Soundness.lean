import Mathlib.Data.List.Induction
import Multimeter.Proofs.Parser.Transition
/-!
# Soundness of the frame parser

Every frame that a parser reports stood on the line. The parser drops bytes in several of its
states, so what it holds is not simply all it has been fed; the invariant `Tracks` says that it is
always the end of it, behind the encodings of the frames reported so far and behind the last reset.

* `Input`, `run`: bytes and resets in any order, and the verdicts on the bytes.
* `tracks_run`: the invariant holds after every run.
* `run_sound`: a reported frame may travel in the direction of the parser, and its encoding is the
  end of the bytes fed so far; the encodings of all reported frames lie one behind the other.
-/

namespace Multimeter.Frame.Parser

/-! ## Runs with resets -/

/-- What is done to a parser. -/
inductive Input where
  /-- It takes a byte. -/
  | byte (value : UInt8)
  /-- It forgets the frame in flight. -/
  | reset
  deriving DecidableEq, Repr

/-- Do everything of a list in turn; the verdicts are those on the bytes. -/
def run (parser : Parser) : List Input → List Verdict × Parser
  | [] => ([], parser)
  | .byte value :: inputs =>
    let (verdict, next) := parser.feed value
    let (verdicts, last) := next.run inputs
    (verdict :: verdicts, last)
  | .reset :: inputs => parser.reset.run inputs

/-- The frames that a parser for `direction` reports on a run. -/
def reported (direction : Direction) (inputs : List Input) : List Frame :=
  ((new direction).run inputs).1.filterMap Verdict.frame?

/-- A run on a concatenation is a run on its first part and one on the second, from where the first
has ended. -/
theorem run_append (parser : Parser) (xs ys : List Input) :
    parser.run (xs ++ ys) =
      ((parser.run xs).1 ++ ((parser.run xs).2.run ys).1, ((parser.run xs).2.run ys).2) := by
  induction xs generalizing parser with
  | nil => rfl
  | cons input xs ih =>
    cases input with
    | byte value => simp [run, ih]
    | reset => simp [run, ih]

/-- More input does not take back a report. -/
theorem reported_append (direction : Direction) (xs ys : List Input) :
    reported direction (xs ++ ys) =
      reported direction xs ++
        ((((new direction).run xs).2.run ys).1.filterMap Verdict.frame?) := by
  rw [reported, run_append, List.filterMap_append, reported]

/-- A byte adds the frame that it completes, if there is one. -/
theorem reported_append_byte (direction : Direction) (inputs : List Input) (value : UInt8) :
    reported direction (inputs ++ [.byte value]) =
      reported direction inputs ++
        (Verdict.frame? (((new direction).run inputs).2.feed value).1).toList := by
  rw [reported_append]
  congr 1

/-- A reset reports nothing. -/
theorem reported_append_reset (direction : Direction) (inputs : List Input) :
    reported direction (inputs ++ [.reset]) = reported direction inputs := by
  rw [reported_append]
  exact List.append_nil _

/-- Between two inputs with the same reports nothing was reported. -/
theorem reported_eq_of_between {direction : Direction} (xs ys zs : List Input)
    (h : reported direction xs = reported direction (xs ++ ys ++ zs)) :
    reported direction (xs ++ ys) = reported direction (xs ++ ys ++ zs) := by
  -- reports only ever grow, so equal numbers of them leave no room for more in between
  have hlength := congrArg List.length h
  rw [reported_append direction (xs ++ ys) zs]
  rw [reported_append direction (xs ++ ys) zs, reported_append direction xs ys] at hlength
  simp only [List.length_append] at hlength
  rw [List.eq_nil_of_length_eq_zero (by omega : List.length (List.filterMap _ _) = 0),
    List.append_nil]

/-! ## The encodings on the line -/

/-- Frames with what stands before the encoding of each. -/
abbrev Sightings := List (List Input × Frame)

/-- The input of sightings: before each encoding what stands there, and then the encoding, without a
reset in it. -/
def Sightings.inputs (sightings : Sightings) : List Input :=
  sightings.flatMap fun (before, frame) => before ++ frame.encode.map .byte

def Sightings.frames (sightings : Sightings) : List Frame := sightings.map Prod.snd

/-- One more sighting stands behind the input of the others. -/
theorem Sightings.inputs_append (sightings : Sightings) (before : List Input) (frame : Frame) :
    Sightings.inputs (sightings ++ [(before, frame)]) =
      sightings.inputs ++ before ++ frame.encode.map .byte := by
  simp [Sightings.inputs]

/-- One more sighting adds its frame. -/
theorem Sightings.frames_append (sightings : Sightings) (before : List Input) (frame : Frame) :
    Sightings.frames (sightings ++ [(before, frame)]) = sightings.frames ++ [frame] := by
  simp [Sightings.frames]

/-- After `inputs` the parser holds the end of them, behind `sightings` and a gap, and the frames
sighted are those reported, each with the last byte of its encoding. -/
structure Tracks (direction : Direction) (inputs : List Input) (parser : Parser)
    (sightings : Sightings) (gap : List Input) : Prop where
  /-- The parser is coherent. -/
  coherent : parser.Coherent
  /-- The parser keeps its direction. -/
  direction_eq : parser.direction = direction
  /-- What the parser holds is the end of the input. -/
  inputs_eq : inputs = sightings.inputs ++ gap ++ parser.buffer.map .byte
  /-- The frames sighted were reported before the gap. -/
  reported_sightings : reported direction sightings.inputs = sightings.frames
  /-- Nothing has been reported since. -/
  reported_eq : reported direction inputs = sightings.frames
  /-- The frames sighted may travel in this direction. -/
  valid : ∀ frame ∈ sightings.frames, frame.ValidFor direction

section Tracks

variable {direction : Direction} {inputs : List Input} {parser : Parser} {sightings : Sightings}
  {gap : List Input}

/-- A new parser holds nothing, and nothing has been sighted. -/
theorem tracks_nil (direction : Direction) : Tracks direction [] (new direction) [] [] where
  coherent := coherent_new direction
  direction_eq := rfl
  inputs_eq := rfl
  reported_sightings := rfl
  reported_eq := rfl
  valid := by simp [Sightings.frames]

/-- Nothing was reported in the gap. -/
theorem Tracks.reported_gap (h : Tracks direction inputs parser sightings gap) :
    reported direction (sightings.inputs ++ gap) = reported direction inputs := by
  have hbetween := reported_eq_of_between sightings.inputs gap (parser.buffer.map .byte)
    (by rw [← h.inputs_eq, h.reported_sightings, h.reported_eq])
  rwa [← h.inputs_eq] at hbetween

/-- Input without a report lengthens the gap or what is held. -/
theorem Tracks.append_silent (h : Tracks direction inputs parser sightings gap) {input : Input}
    {next : Parser} {gap' : List Input} (hcoherent : next.Coherent)
    (hdirection : next.direction = parser.direction)
    (hreported : reported direction (inputs ++ [input]) = reported direction inputs)
    (hgap : gap ++ parser.buffer.map .byte ++ [input] = gap' ++ next.buffer.map .byte) :
    Tracks direction (inputs ++ [input]) next sightings gap' where
  coherent := hcoherent
  direction_eq := hdirection.trans h.direction_eq
  inputs_eq := by
    rw [h.inputs_eq]
    simp only [List.append_assoc] at hgap ⊢
    rw [hgap]
  reported_sightings := h.reported_sightings
  reported_eq := by rw [hreported, h.reported_eq]
  valid := h.valid

/-- A reset puts what is held into the gap. -/
theorem Tracks.append_reset (h : Tracks direction inputs parser sightings gap) :
    ∃ gap, Tracks direction (inputs ++ [.reset]) parser.reset sightings gap :=
  ⟨gap ++ parser.buffer.map .byte ++ [.reset], h.append_silent (coherent_reset parser) rfl
    (reported_append_reset direction inputs) (List.append_nil _).symm⟩

/-- A completed frame is the next one sighted. -/
theorem Tracks.append_completed (h : Tracks direction inputs parser sightings gap) {value : UInt8}
    {frame : Frame} (hvalid : frame.ValidFor direction)
    (hencode : parser.buffer ++ [value] = frame.encode)
    (hreported : reported direction (inputs ++ [.byte value]) =
      reported direction inputs ++ [frame]) :
    Tracks direction (inputs ++ [.byte value]) parser.reset (sightings ++ [(gap, frame)]) [] := by
  -- the gap and what was held with the new byte are the next sighting
  have hinputs : inputs ++ [.byte value] = Sightings.inputs (sightings ++ [(gap, frame)]) := by
    rw [Sightings.inputs_append, ← hencode, List.map_append, ← List.append_assoc, ← h.inputs_eq]
    rfl
  have hframes : reported direction (inputs ++ [.byte value]) =
      Sightings.frames (sightings ++ [(gap, frame)]) := by
    rw [Sightings.frames_append, hreported, h.reported_eq]
  exact {
    coherent := coherent_reset parser
    direction_eq := h.direction_eq
    inputs_eq := by
      rw [hinputs]
      simp [Parser.reset, new]
    reported_sightings := by rw [← hinputs, hframes]
    reported_eq := hframes
    valid := by
      intro other hother
      rw [Sightings.frames_append] at hother
      rcases List.mem_append.1 hother with hother | hother
      · exact h.valid other hother
      · rw [List.mem_singleton.1 hother]
        exact hvalid }

/-- A byte lengthens what is held, ends a frame, or puts into the gap what it is not part of. -/
theorem Tracks.append_byte (h : Tracks direction inputs parser sightings gap) {value : UInt8}
    {verdict : Verdict} {next : Parser} (hstep : Transition parser value verdict next)
    (hreported : reported direction (inputs ++ [.byte value]) =
      reported direction inputs ++ verdict.frame?.toList) :
    ∃ sightings gap, Tracks direction (inputs ++ [.byte value]) next sightings gap := by
  have hcoherent := hstep.coherent h.coherent
  have hdirection := hstep.direction_eq
  -- what was held before stays held, goes into the gap, or is the frame
  cases hstep with
  | skipped | unknownCommand | badLength | mismatched =>
    refine ⟨sightings, gap ++ parser.buffer.map .byte ++ [.byte value],
      h.append_silent hcoherent hdirection ?_ (List.append_nil _).symm⟩
    simpa [Verdict.frame?] using hreported
  | repeated hbuffer hbyte =>
    -- the parser still holds two start bytes, but now the last two
    refine ⟨sightings, gap ++ [.byte startByte],
      h.append_silent hcoherent hdirection (by simpa [Verdict.frame?] using hreported) ?_⟩
    simp [hbuffer, hbyte]
  -- the byte is held behind the others
  | accepted hheld =>
    refine ⟨sightings, gap,
      h.append_silent hcoherent hdirection (by simpa [Verdict.frame?] using hreported) ?_⟩
    simp
  -- what was held goes into the gap, except for the start byte that has just come
  | restarted _ _ hbyte =>
    refine ⟨sightings, gap ++ parser.buffer.map .byte,
      h.append_silent hcoherent hdirection (by simpa [Verdict.frame?] using hreported) ?_⟩
    simp [Parser.reset, new, hbyte]
  | completed hvalid hencode =>
    rw [h.direction_eq] at hvalid
    exact ⟨_, _, h.append_completed hvalid hencode hreported⟩

end Tracks

/-- After every run a parser holds the end of the input, behind the encodings of the frames that it
has reported. -/
theorem tracks_run (direction : Direction) (inputs : List Input) :
    ∃ sightings gap, Tracks direction inputs ((new direction).run inputs).2 sightings gap := by
  -- the induction takes inputs off the end, since the invariant looks back from there
  induction inputs using List.reverseRecOn with
  | nil => exact ⟨[], [], tracks_nil direction⟩
  | append_singleton inputs input ih =>
    obtain ⟨sightings, gap, h⟩ := ih
    rw [run_append]
    cases input with
    | byte value =>
      exact h.append_byte (feed_transition h.coherent value)
        (reported_append_byte direction inputs value)
    | reset =>
      obtain ⟨gap, hreset⟩ := h.append_reset
      exact ⟨sightings, gap, hreset⟩

/-! ## Soundness -/

/-- Every frame reported on a run may travel in the direction of the parser, and its encoding is the
end of the bytes fed so far, behind the last reset and behind everything that led to an earlier
report. The encodings of all the frames reported lie one behind the other in the input. -/
theorem run_sound (direction : Direction) (inputs : List Input) :
    (∀ before value behind frame, inputs = before ++ .byte value :: behind →
      (((new direction).run before).2.feed value).1 = .ok (some frame) →
        frame.ValidFor direction ∧
        ∃ earlier, before ++ [.byte value] = earlier ++ frame.encode.map .byte ∧
          reported direction earlier = reported direction before) ∧
    ∃ (sightings : Sightings) (rest : List Input), inputs = sightings.inputs ++ rest ∧
      reported direction inputs = sightings.frames ∧
      reported direction sightings.inputs = sightings.frames := by
  constructor
  · intro before value behind frame _ hframe
    -- the invariant before the byte, and the only transition that reports a frame
    obtain ⟨sightings, gap, h⟩ := tracks_run direction before
    have hstep := feed_transition h.coherent value
    rw [hframe] at hstep
    generalize (((new direction).run before).2.feed value).2 = next at hstep
    cases hstep with
    | completed hvalid hencode =>
      rw [h.direction_eq] at hvalid
      refine ⟨hvalid, sightings.inputs ++ gap, ?_, h.reported_gap⟩
      rw [← hencode, List.map_append, ← List.append_assoc, ← h.inputs_eq]
      rfl
  · obtain ⟨sightings, gap, h⟩ := tracks_run direction inputs
    exact ⟨sightings, gap ++ ((new direction).run inputs).2.buffer.map .byte,
      by rw [← List.append_assoc, ← h.inputs_eq], h.reported_eq, h.reported_sightings⟩

/-- Behind stray bytes and a reset that cuts off a start byte, an acknowledgement is reported. -/
theorem run_sound_behind_reset :
    let before : List Input :=
      [.byte 0x12, .byte 0x55, .reset, .byte 0x55, .byte 0x55, .byte 0x7f, .byte 0x00]
    let frame := Frame.empty .success
    (((new .response).run before).2.feed 0x29).1 = .ok (some frame) ∧
      frame.ValidFor .response ∧
      ∃ earlier, before ++ [.byte 0x29] = earlier ++ frame.encode.map .byte ∧
        reported .response earlier = reported .response before := by
  intro before frame
  have hframe : (((new .response).run before).2.feed 0x29).1 = .ok (some frame) := by rfl
  exact ⟨hframe, (run_sound .response _).1 before 0x29 [] frame rfl hframe⟩

end Multimeter.Frame.Parser
