import Multimeter.Frame
/-!
# Frame parser

A parser turns a stream of bytes into frames that may travel in one direction. It takes one byte at
a time. Bytes before a start marker are dropped silently, and so are extra start bytes. A header
that no valid frame has, or a wrong checksum, drops the frame in flight and is reported; the parser
then looks for the next start marker.

Besides the single step `feed` there are three ways over a list of bytes: `feedAll` goes on after
every verdict, `feedUntil` stops at the first frame or error, and `scan` skips recoverable errors
and stops at the first frame, keeping the bytes behind it.
-/

namespace Multimeter

/-- What one byte brought: nothing yet, a frame, or a dropped frame. -/
abbrev Verdict := Except FrameError (Option Frame)

/-- The frame that a verdict reports, if any. -/
def Verdict.frame? : Verdict → Option Frame
  | .ok found => found
  | .error _ => none

namespace Frame

/-- How far the frame in flight has come. -/
inductive Stage where
  /-- Waiting for the first start byte. -/
  | empty
  /-- One start byte seen. -/
  | oneStart
  /-- Both start bytes seen, the command is next. -/
  | twoStarts
  /-- The command is there, the length is next. -/
  | haveCommand
  /-- The header is complete. -/
  | haveLength
  /-- Some payload has arrived. -/
  | accumulating
  deriving DecidableEq, Repr

/-- A receiver of frames. -/
structure Parser where
  /-- The direction of the frames to receive. -/
  direction : Direction
  /-- How far the frame in flight has come. -/
  stage : Stage
  /-- The bytes of the frame in flight. -/
  buffer : List UInt8
  /-- The sum of the bytes of the frame in flight. -/
  sum : Checksum
  /-- The announced payload length. -/
  expected : Nat
  deriving DecidableEq, Repr

namespace Parser

/-- A parser for one direction that has seen nothing. -/
def new (direction : Direction) : Parser :=
  { direction, stage := .empty, buffer := [], sum := Checksum.zero, expected := 0 }

/-- Forget the frame in flight. -/
def reset (parser : Parser) : Parser := new parser.direction

/-- The number of bytes held for the frame in flight. -/
def length (parser : Parser) : Nat := parser.buffer.length

/-- No frame is in flight. -/
def isEmpty (parser : Parser) : Bool := parser.stage == .empty && parser.buffer.isEmpty

/-- Add a byte to the frame in flight and move on to `stage`. A full buffer is an overflow. -/
def accept (parser : Parser) (byte : UInt8) (stage : Stage) : Verdict × Parser :=
  if parser.buffer.length < maxFrame then
    (.ok none,
      { parser with stage, buffer := parser.buffer ++ [byte], sum := parser.sum.add byte })
  else (.error .overflow, parser.reset)

/-- The command of the frame in flight allows the announced length. -/
def fits (parser : Parser) (command length : UInt8) : Bool :=
  length.toNat ≤ maxPayload &&
    (Command.ofByte? command).any (·.allows parser.direction length.toNat)

/-- End the frame in flight with its checksum byte. -/
def complete (parser : Parser) (received : UInt8) : Verdict :=
  let expected := parser.sum.value
  if received != expected then .error (.checksumMismatch expected received)
  else
    match Command.ofByte? (parser.buffer.getD 2 0),
        Payload.ofBytes? (parser.buffer.drop headerSize) with
    | some command, some payload => .ok (some ⟨command, payload⟩)
    | _, _ => .error .overflow

/-- Take one byte. -/
def feed (parser : Parser) (byte : UInt8) : Verdict × Parser :=
  if maxFrame - 1 < parser.buffer.length then (.error .overflow, parser.reset)
  else
    match parser.stage with
    | .empty => if byte = startByte then parser.accept byte .oneStart else (.ok none, parser)
    | .oneStart =>
      if byte = startByte then parser.accept byte .twoStarts else (.ok none, parser.reset)
    | .twoStarts =>
      if (Command.ofByte? byte).any (·.validFor parser.direction) then
        parser.accept byte .haveCommand
      -- the last two of a run of start bytes count
      else if byte = startByte then (.ok none, parser)
      else (.error (.unknownCommand byte), parser.reset)
    | .haveCommand =>
      let command := parser.buffer.getD 2 0
      if parser.fits command byte then
        { parser with expected := byte.toNat }.accept byte .haveLength
      else
        -- the refused length may be the first start byte of the next frame
        let rest :=
          if byte = startByte then (parser.reset.accept byte .oneStart).2 else parser.reset
        (.error (.badLength command byte), rest)
    | .haveLength | .accumulating =>
      -- the checksum is the first byte behind the payload
      if parser.buffer.length < headerSize + parser.expected then
        parser.accept byte .accumulating
      else (parser.complete byte, parser.reset)

/-- Take every byte of a list in turn, also after errors; the verdicts are in the same order. -/
def feedAll (parser : Parser) : List UInt8 → List Verdict × Parser
  | [] => ([], parser)
  | byte :: bytes =>
    let (verdict, next) := parser.feed byte
    let (verdicts, last) := next.feedAll bytes
    (verdict :: verdicts, last)

/-- Take bytes until one brings a frame or an error; the bytes behind it are not looked at. -/
def feedUntil (parser : Parser) : List UInt8 → Verdict × Parser
  | [] => (.ok none, parser)
  | byte :: bytes =>
    match parser.feed byte with
    | (.ok none, next) => next.feedUntil bytes
    | verdict => verdict

/-- The outcome of looking for a frame in a list of bytes. -/
structure Scan where
  /-- The parser after the bytes that were taken. -/
  parser : Parser
  /-- The bytes that were not taken. -/
  rest : List UInt8
  /-- The frames dropped on the way, in order. -/
  dropped : List FrameError
  /-- The frame found, or the error that ended the search. -/
  found : Verdict

/-- Take bytes until one completes a frame, skipping dropped frames. An error that the parser does
not recover from ends the search too. -/
def scan (parser : Parser) : List UInt8 → Scan
  | [] => { parser, rest := [], dropped := [], found := .ok none }
  | byte :: bytes =>
    match parser.feed byte with
    | (.ok none, next) => next.scan bytes
    | (.ok (some frame), next) =>
      { parser := next, rest := bytes, dropped := [], found := .ok (some frame) }
    | (.error error, next) =>
      if error.isRecoverable then
        let later := next.scan bytes
        { later with dropped := error :: later.dropped }
      else { parser := next, rest := bytes, dropped := [], found := .error error }

@[simp]
theorem feedAll_nil (parser : Parser) : parser.feedAll [] = ([], parser) := rfl

theorem feedAll_cons (parser : Parser) (byte : UInt8) (bytes : List UInt8) :
    parser.feedAll (byte :: bytes) =
      ((parser.feed byte).1 :: ((parser.feed byte).2.feedAll bytes).1,
        ((parser.feed byte).2.feedAll bytes).2) := rfl

/-- Feeding a concatenation feeds its parts one after the other. -/
theorem feedAll_append (parser : Parser) (xs ys : List UInt8) :
    parser.feedAll (xs ++ ys) =
      ((parser.feedAll xs).1 ++ ((parser.feedAll xs).2.feedAll ys).1,
        ((parser.feedAll xs).2.feedAll ys).2) := by
  induction xs generalizing parser with
  | nil => rfl
  | cons x xs ih => simp [feedAll_cons, ih]

/-- There is one verdict per byte. -/
@[simp]
theorem length_feedAll (parser : Parser) (bytes : List UInt8) :
    (parser.feedAll bytes).1.length = bytes.length := by
  induction bytes generalizing parser with
  | nil => rfl
  | cons byte bytes ih => simp [feedAll_cons, ih]

/-- A search that finds no frame and no fatal error has taken every byte. -/
theorem scan_rest_eq_nil {parser : Parser} {bytes : List UInt8}
    (h : (parser.scan bytes).found = .ok none) : (parser.scan bytes).rest = [] := by
  fun_induction scan parser bytes with
  | case1 => rfl
  | case2 _ _ _ _ _ ih => exact ih h
  | case3 => cases h
  | case4 _ _ _ _ _ _ _ _ ih => exact ih h
  | case5 => cases h

/-- A search goes on behind bytes that hold no frame, and else leaves what stands behind them. -/
theorem scan_append (parser : Parser) (xs ys : List UInt8) :
    parser.scan (xs ++ ys) =
      let first := parser.scan xs
      match first.found with
      | .ok none =>
        let later := first.parser.scan ys
        { later with dropped := first.dropped ++ later.dropped }
      | _ => { first with rest := first.rest ++ ys } := by
  induction xs generalizing parser with
  | nil => rfl
  | cons x xs ih =>
    rw [List.cons_append, scan, scan]
    rcases parser.feed x with ⟨verdict, next⟩
    rcases verdict with error | (_ | frame)
    -- an error that the parser recovers from is dropped before those behind it
    · simp only
      split
      · rw [ih]
        simp only
        split <;> rfl
      · rfl
    · exact ih next
    · rfl

end Parser

end Frame

end Multimeter
