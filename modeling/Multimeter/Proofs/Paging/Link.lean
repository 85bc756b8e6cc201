import Multimeter.Proofs.Act.Yields
import Multimeter.Proofs.Answering.Wire
import Multimeter.Proofs.Link.Calls
import Multimeter.Proofs.Parser.Completeness
/-!
# Links with a prompt meter

A meter that answers every request for memory at once, and in one piece, though perhaps with less
than was asked for. Every exchange on a link with nothing in flight succeeds then and leaves nothing
in flight.

* `Prompt`: the wire to such a meter.
* `BriefWire`: one whose answers hold no more than some bytes.
* `Idle`: nothing is in flight on the link.
* `sendRequest_idle`, `pollResponse_underway`, `request_idle`: exchanges.
-/

namespace Multimeter

/-- A beginning of the memory asked for, which holds at least one entry. -/
structure Image.Offers (image : Image) (block : MemoryBlock) (payload : Payload) : Prop where
  /-- It is as the memory asked for begins. -/
  begins : payload.bytes <+: image.read block
  /-- It holds an entry. -/
  size_le : Reading.size ≤ payload.length

/-- What is offered for a stretch of memory fits into it. -/
theorem Image.Offers.length_le {image : Image} {block : MemoryBlock} {payload : Payload}
    (h : image.Offers block payload) : payload.length ≤ block.length.toNat := by
  have hle := h.begins.length_le
  rwa [image.length_read] at hle

/-- A read has room for any frame. -/
theorem Frame.length_encode_le (frame : Frame) : frame.encode.length ≤ readSize := by
  have hmax := frame.payload.length_le
  simp only [Frame.length_encode, Frame.encodedLength, Payload.length, headerSize, readSize,
    maxFrame, maxPayload] at hmax ⊢
  omega

/-- Whenever the wire is ready, it accepts a request for memory that holds an entry, and the next
read finds the whole frame that answers it. Then the wire is ready again. -/
def Prompt {ω : Type} [Wire ω] (image : Image) (ready : ω → Prop) : Prop :=
  ∀ (wire : ω) (timeout : UInt32) (block : MemoryBlock) (frame : Frame), ready wire →
    (Request.readMemory block).toFrame = .ok frame → Reading.size ≤ block.length.toNat →
      let written := Wire.write frame.encode timeout wire
      let found := Wire.read .never readSize written.2
      written.1 = .ok frame.encode.length ∧ ready found.2 ∧
        ∃ payload, image.Offers block payload ∧
          found.1 = .ok (Response.memory payload).frame.encode

/-! ## A meter that answers briefly -/

/-- The memory asked for, cut off behind `most` bytes. -/
def Image.offer (image : Image) (most : Nat) (block : MemoryBlock) : Payload where
  bytes := (image.read block).take (min most maxPayload)
  length_le := Nat.le_trans (List.length_take_le _ _) (Nat.min_le_right _ _)

/-- A meter that answers with whole entries offers what it was asked for. -/
theorem Image.offers_offer (image : Image) {most : Nat} {block : MemoryBlock}
    (hmost : Reading.size ≤ most) (hsize : Reading.size ≤ block.length.toNat) :
    image.Offers block (image.offer most block) := by
  refine ⟨List.take_prefix _ _, ?_⟩
  have hmax : Reading.size ≤ maxPayload := by decide
  rw [Payload.length, offer, List.length_take, image.length_read]
  omega

/-- A wire to a meter that answers requests for memory at once, but with no more than some bytes. -/
structure BriefWire (image : Image) where
  /-- The number of bytes. -/
  most : Nat
  /-- The bytes that have not been read yet. -/
  line : List UInt8 := []

namespace BriefWire

variable {image : Image}

/-- The meter answers the first request for memory among the bytes. -/
def answer (wire : BriefWire image) (bytes : List UInt8) : List UInt8 :=
  match ((Frame.Parser.new .request).scan bytes).found with
  | .ok (some frame) =>
    match Request.ofFrame frame with
    | .ok (.readMemory block) => (Response.memory (image.offer wire.most block)).frame.encode
    | _ => []
  | _ => []

instance : Wire (BriefWire image) where
  write bytes _ wire := (.ok bytes.length, { wire with line := wire.line ++ wire.answer bytes })
  read _ capacity wire :=
    (.ok (wire.line.take capacity), { wire with line := wire.line.drop capacity })
  length_le_of_read _ _ _ _ h := Except.ok.inj h ▸ List.length_take_le _ _

/-- A meter that answers at once is prompt if its answers may hold an entry. -/
theorem prompt (image : Image) :
    Prompt image fun wire : BriefWire image => Reading.size ≤ wire.most ∧ wire.line = [] := by
  rintro wire timeout block frame ⟨hmost, hline⟩ hframe hsize
  obtain ⟨hrequest, hvalid⟩ := Request.ofFrame_of_toFrame hframe
  have hanswer : wire.answer frame.encode =
      (Response.memory (image.offer wire.most block)).frame.encode := by
    simp only [answer, Frame.Parser.scan_encode hvalid, hrequest]
  have hfits := (Response.memory (image.offer wire.most block)).frame.length_encode_le
  refine ⟨rfl, ⟨hmost, ?_⟩, image.offer wire.most block, image.offers_offer hmost hsize, ?_⟩
  · show (wire.line ++ wire.answer frame.encode).drop readSize = []
    rw [hline, hanswer]
    exact List.drop_of_length_le hfits
  · show Except.ok ((wire.line ++ wire.answer frame.encode).take readSize) = _
    rw [hline, hanswer, List.nil_append, List.take_of_length_le hfits]

end BriefWire

namespace Link

open Act

variable {ω : Type} {image : Image} {ready : ω → Prop} {block : MemoryBlock} {frame : Frame}

/-- Nothing is in flight on the link, and the wire is ready. -/
structure Idle (ready : ω → Prop) (link : Link ω) (_ : List Event) : Prop where
  /-- No frame is in flight. -/
  parser_eq : link.parser = .new .response
  /-- No bytes are left over. -/
  rest_eq : link.rest = []
  /-- The wire is ready. -/
  ready : ready link.wire

variable [Wire ω]

/-- The next read finds the frame, and nothing else is in flight. -/
structure Underway (ready : ω → Prop) (frame : Frame) (link : Link ω) (_ : List Event) : Prop where
  /-- No frame is in flight. -/
  parser_eq : link.parser = .new .response
  /-- No bytes are left over. -/
  rest_eq : link.rest = []
  /-- The next read finds the frame. -/
  found : (Wire.read .never readSize link.wire).1 = .ok frame.encode
  /-- The wire is ready after this read. -/
  ready : ready (Wire.read .never readSize link.wire).2

/-! ## Exchanges -/

/-- A request for memory gets across, and its answer is underway. -/
theorem send_idle (hprompt : Prompt image ready)
    (hframe : (Request.readMemory block).toFrame = .ok frame)
    (hsize : Reading.size ≤ block.length.toNat) :
    Ensures (Idle ready) (send frame) (Returns () fun link history =>
      ∃ payload, image.Offers block payload ∧
        Underway ready (Response.memory payload).frame link history) := by
  intro link history h
  obtain ⟨haccepted, hlater, payload, hoffers, hfound⟩ :=
    hprompt link.wire link.config.writeTimeout block frame h.ready hframe hsize
  rw [run_send haccepted]
  exact ⟨rfl, payload, hoffers, h.parser_eq, h.rest_eq, hfound, hlater⟩

/-- A request for entries that is sent brings its answer underway. -/
theorem sendRequest_idle (hprompt : Prompt image ready)
    (hsize : Reading.size ≤ block.length.toNat) (hlength : block.length.toNat ≤ maxPayload) :
    Ensures (Idle ready) (sendRequest (.readMemory block))
      (Returns () fun link history => ∃ payload, image.Offers block payload ∧
        Underway ready (Response.memory payload).frame link history) := by
  obtain ⟨frame, hframe⟩ := Request.toFrame_of_length_le hlength
  rw [sendRequest, hframe]
  exact send_idle hprompt hframe hsize

/-- The frame that is underway is received. -/
theorem receive_underway (hvalid : frame.ValidFor .response) :
    Ensures (Underway ready frame) (receive (ω := ω) false)
      (Returns (some frame) (Idle ready)) := by
  intro link history h
  have hscan := Frame.Parser.scan_encode hvalid
  rw [← h.parser_eq, ← scan_filled h.found, h.parser_eq] at hscan
  rw [run_receive h.found h.rest_eq]
  refine ⟨ending_search (congrArg Frame.Parser.Scan.found hscan),
    congrArg Frame.Parser.Scan.parser hscan, ?_, h.ready⟩
  rw [rest_search]
  exact congrArg Frame.Parser.Scan.rest hscan

/-- Waiting for a frame that is underway takes one look. -/
theorem await_underway (hvalid : frame.ValidFor .response) {cycles : Nat} (hcycles : 0 < cycles) :
    Ensures (Underway ready frame) (await (ω := ω) cycles) (Returns (some frame) (Idle ready)) := by
  obtain ⟨cycles, rfl⟩ := Nat.exists_eq_succ_of_ne_zero (Nat.ne_of_gt hcycles)
  exact (receive_underway hvalid).returns_bind (returns_pure fun _ _ h => h)

/-- A request for entries is answered with what the image offers. -/
theorem sendReceive_idle (hprompt : Prompt image ready)
    (hframe : (Request.readMemory block).toFrame = .ok frame)
    (hsize : Reading.size ≤ block.length.toNat) (timeout : UInt32) :
    Ensures (Idle ready) (sendReceive (ω := ω) frame timeout)
      (Yields (fun answer => ∃ payload, image.Offers block payload ∧
        answer = (Response.memory payload).frame) (Idle ready)) := by
  refine (send_idle hprompt hframe hsize).returns_bind (ensures_get_bind fun link => ?_)
  refine Ensures.of_left (Ensures.of_exists fun payload => Ensures.of_imp fun hoffers => ?_)
  refine (await_underway (Response.validFor_frame _)
    (link.config.cycles_pos timeout)).returns_bind ?_
  exact yields_pure (fun _ _ h => h) ⟨payload, hoffers, rfl⟩

omit [Wire ω] in
/-- The frame of an answer is read as the memory that the image offers. -/
theorem interpret_idle {payload : Payload} (h : image.Offers block payload) :
    Ensures (Idle ready) (interpret (ω := ω) (.readMemory block) (Response.memory payload).frame)
      (Returns (.memory payload) (Idle ready)) := by
  rw [interpret, Response.answerTo_frame_memory h.length_le]
  exact returns_pure fun _ _ h => h

/-- The answer that is underway is found by one look for it. -/
theorem pollResponse_underway :
    Ensures (fun link history => ∃ payload, image.Offers block payload ∧
        Underway ready (Response.memory payload).frame link history)
      (pollResponse (ω := ω) (.readMemory block))
      (Yields (fun found => ∃ payload, image.Offers block payload ∧ found = some (.memory payload))
        (Idle ready)) := by
  refine Ensures.of_exists fun payload => Ensures.of_imp fun hoffers => ?_
  refine (receive_underway (Response.validFor_frame _)).returns_bind ?_
  refine (interpret_idle hoffers).returns_bind
    (yields_pure (fun _ _ h => h) ⟨payload, hoffers, rfl⟩)

/-- A request for memory is answered. -/
theorem request_idle (hprompt : Prompt image ready)
    (hsize : Reading.size ≤ block.length.toNat) (hlength : block.length.toNat ≤ maxPayload) :
    Ensures (Idle ready) (request (ω := ω) (.readMemory block))
      (Yields (fun response => ∃ payload, image.Offers block payload ∧ response = .memory payload)
        (Idle ready)) := by
  obtain ⟨frame, hframe⟩ := Request.toFrame_of_length_le hlength
  rw [request, hframe]
  show Ensures (Idle ready) (get >>= fun link => sendReceive frame link.config.receiveTimeout >>=
    fun answer => interpret (.readMemory block) answer) _
  refine ensures_get_bind fun link => Ensures.of_left ?_
  refine (sendReceive_idle hprompt hframe hsize _).yields_bind fun answer hanswer => ?_
  obtain ⟨payload, hoffers, rfl⟩ := hanswer
  refine (interpret_idle hoffers).weaken (fun _ _ h => h) fun _ _ _ h => ?_
  exact ⟨_, h.1, ⟨payload, hoffers, rfl⟩, h.2⟩

end Link

end Multimeter
