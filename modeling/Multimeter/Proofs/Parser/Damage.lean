import Multimeter.Proofs.Parser.Completeness
import Multimeter.Proofs.Parser.Soundness
/-!
# Damaged payloads

A parser believes the header of a frame, since nothing but the size rule speaks about it before the
checksum comes. So bytes that change on the line behind the header, start bytes among them, do not
make it lose count: with the last byte it either has a frame with the payload that arrived, or it
reports the two checksums that differ. One changed byte always makes them differ.

* `header`, `encode_eq`: the bytes that announce the payload, and the others.
* `feedAll_damaged`: the verdicts on a header with any payload of the announced length behind it.
* `run_damaged`: the same for every parser that waits for a frame, and for one changed byte.
-/

namespace Multimeter.Frame

variable {direction : Direction} {frame : Frame}

/-- The bytes of a frame before its payload. -/
def header (frame : Frame) : List UInt8 := frame.encode.take headerSize

/-- Header and payload are followed by their checksum. -/
theorem encode_eq (frame : Frame) :
    frame.encode = frame.header ++ frame.payload.bytes ++
      [checksum (frame.header ++ frame.payload.bytes)] := rfl

/-- A header has four bytes. -/
@[simp]
theorem length_header (frame : Frame) : frame.header.length = headerSize := rfl

namespace Parser

/-- Behind the header of a valid frame, a payload of the announced length is taken as it arrives. If
the checksum is not the one of the bytes that arrived, the frame is dropped. -/
theorem feedAll_damaged (hvalid : frame.ValidFor direction) {payload : Payload}
    (hlength : payload.length = frame.payload.length) (last : UInt8) :
    (new direction).feedAll (frame.header ++ payload.bytes ++ [last]) =
      (silence (frame.encode.length - 1) ++
        [if last = checksum (frame.header ++ payload.bytes) then
            .ok (some ⟨frame.command, payload⟩)
          else .error (.checksumMismatch (checksum (frame.header ++ payload.bytes)) last)],
        new direction) := by
  -- the bytes that arrive are the body of the frame with the other payload, which is valid, too
  let found : Frame := ⟨frame.command, payload⟩
  have hfound : found.ValidFor direction := by
    rw [ValidFor, hlength]
    exact hvalid
  have hbody : found.body = frame.header ++ payload.bytes := by
    rw [body, hlength]
    rfl
  have hcount : frame.encode.length - 1 = found.body.length := by
    rw [hbody, length_encode, encodedLength, List.length_append, length_header, ← hlength,
      Nat.add_sub_cancel, Payload.length]
  obtain ⟨next, hnext, hlast⟩ := feedAll_body hfound 0
  rw [started] at hnext
  rw [hcount, ← hbody, feedAll_append, hnext, feedAll_cons, hlast]
  rfl

/-- Another byte behind the header makes the checksum that arrives differ from that of the bytes
before it, so the frame is dropped with its last byte. -/
theorem feedAll_damaged_once (hvalid : frame.ValidFor direction) {before behind : List UInt8}
    {byte value : UInt8} (hencode : frame.encode = before ++ byte :: behind)
    (hbefore : headerSize ≤ before.length) (hvalue : value ≠ byte) :
    ∃ expected actual, expected ≠ actual ∧
      (new direction).feedAll (before ++ value :: behind) =
        (silence (frame.encode.length - 1) ++ [.error (.checksumMismatch expected actual)],
          new direction) := by
  -- what stands before the changed byte is the header and a beginning of the payload
  obtain ⟨start, rfl⟩ : frame.header <+: before :=
    List.prefix_of_prefix_length_le (List.take_prefix _ _) ⟨_, hencode.symm⟩ hbefore
  rw [encode_eq, List.append_assoc, List.append_assoc, List.append_cancel_left_eq] at hencode
  rcases List.eq_nil_or_concat behind with rfl | ⟨middle, last, hbehind⟩
  -- the changed byte is the checksum
  · obtain ⟨hpayload, hlast⟩ := List.append_inj' hencode rfl
    have hsum : checksum (frame.header ++ frame.payload.bytes) = byte := (List.cons.inj hlast).1
    have hfeed := feedAll_damaged hvalid rfl value
    rw [hsum, if_neg hvalue, hpayload] at hfeed
    exact ⟨byte, value, hvalue.symm, hfeed⟩
  -- the changed byte belongs to the payload, and the checksum is still that of the frame
  · rw [List.concat_eq_append] at hbehind
    rw [hbehind, ← List.cons_append, ← List.append_assoc] at hencode ⊢
    obtain ⟨hpayload, hlast⟩ := List.append_inj' hencode rfl
    have hcount : (start ++ value :: middle).length = frame.payload.length := by
      rw [Payload.length, hpayload, List.length_append, List.length_append, List.length_cons,
        List.length_cons]
    let payload : Payload := ⟨start ++ value :: middle, hcount ▸ frame.payload.length_le⟩
    have hlength : payload.length = frame.payload.length := hcount
    have hsum : checksum (frame.header ++ payload.bytes) ≠ last := by
      rw [← (List.cons.inj hlast).1, hpayload, ← List.append_assoc, ← List.append_assoc]
      exact checksum_ne_of_ne hvalue (frame.header ++ start) middle
    have hfeed := feedAll_damaged hvalid hlength last
    rw [if_neg hsum.symm] at hfeed
    refine ⟨_, _, hsum, ?_⟩
    rw [List.append_assoc frame.header]
    exact hfeed

/-- Whatever a parser has been fed and however often it was reset, if it waits for a frame, any
bytes may arrive in place of the payload and the checksum of a valid frame. Only the last byte
brings anything: the frame with the payload that arrived, if it is the sum of the bytes before it
modulo 256, and else an error with both sums. The parser then waits for a frame again. One byte that
is not the one sent always brings the error. -/
theorem run_damaged (direction : Direction) (inputs : List Input) (frame : Frame)
    (hempty : ((new direction).run inputs).2.stage = .empty) (hvalid : frame.ValidFor direction) :
    let parser := ((new direction).run inputs).2
    (∀ (payload : Payload) (last : UInt8), payload.length = frame.payload.length →
      let bytes := frame.header ++ payload.bytes
      let sum := UInt8.ofNat (byteSum bytes)
      parser.feedAll (bytes ++ [last]) =
        (silence (frame.encode.length - 1) ++
          [if last = sum then .ok (some ⟨frame.command, payload⟩)
            else .error (.checksumMismatch sum last)],
          new direction)) ∧
    ∀ (before behind : List UInt8) (byte value : UInt8),
      frame.encode = before ++ byte :: behind → headerSize ≤ before.length → value ≠ byte →
      ∃ expected actual, expected ≠ actual ∧
        parser.feedAll (before ++ value :: behind) =
          (silence (frame.encode.length - 1) ++ [.error (.checksumMismatch expected actual)],
            new direction) := by
  intro parser
  obtain ⟨_, _, htracks⟩ := tracks_run direction inputs
  -- a parser that waits for a frame is a new one, whatever it was fed
  have hnew : parser = new direction := by
    rw [← htracks.direction_eq]
    exact htracks.coherent.eq_reset hempty
  rw [hnew]
  refine ⟨fun payload last hlength => ?_, fun before behind byte value hencode hbefore hvalue =>
    feedAll_damaged_once hvalid hencode hbefore hvalue⟩
  have hfeed := feedAll_damaged hvalid hlength last
  rw [checksum_eq_ofNat_byteSum] at hfeed
  exact hfeed

/-- A block of memory in whose place an acknowledgement arrives, and one with a single
byte changed. -/
theorem run_damaged_into_acknowledgement :
    let inputs : List Input := [.byte 0x12, .byte 0x55, .reset]
    let block : Frame := ⟨.readMemory, ⟨[0, 1, 2, 3, 4], by decide⟩⟩
    let parser := ((new .response).run inputs).2
    parser.stage = .empty ∧ block.ValidFor .response ∧
      block.encode = [0x55, 0x55, 0x1a, 0x05, 0, 1, 2, 3, 4, 0xd3] ∧
      parser.feedAll [0x55, 0x55, 0x1a, 0x05, 0x55, 0x55, 0x7f, 0x00, 0x29, 0xd3] =
        (silence 9 ++ [.error (.checksumMismatch 0x1b 0xd3)], new .response) ∧
      ∃ expected actual, expected ≠ actual ∧
        parser.feedAll [0x55, 0x55, 0x1a, 0x05, 0, 1, 0x55, 3, 4, 0xd3] =
          (silence 9 ++ [.error (.checksumMismatch expected actual)], new .response) := by
  intro inputs block parser
  have hempty : parser.stage = .empty := by decide
  have hvalid : block.ValidFor .response := by decide
  have hencode : block.encode = [0x55, 0x55, 0x1a, 0x05, 0, 1, 2, 3, 4, 0xd3] := by decide
  obtain ⟨hpayload, honce⟩ := run_damaged .response inputs block hempty hvalid
  refine ⟨hempty, hvalid, hencode, ?_,
    honce [0x55, 0x55, 0x1a, 0x05, 0, 1] [3, 4, 0xd3] 2 0x55 hencode (by decide) (by decide)⟩
  have hsum : UInt8.ofNat (byteSum [0x55, 0x55, 0x1a, 0x05, 0x55, 0x55, 0x7f, 0x00, 0x29]) =
      0x1b := by decide
  have hfeed := hpayload ⟨[0x55, 0x55, 0x7f, 0x00, 0x29], by decide⟩ 0xd3 rfl
  simp only [header, hencode, headerSize, List.take, List.cons_append, List.nil_append, hsum]
    at hfeed
  exact hfeed

end Parser

end Multimeter.Frame
