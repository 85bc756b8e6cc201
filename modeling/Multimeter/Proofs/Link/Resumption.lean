import Mathlib.Logic.Function.Iterate
import Multimeter.Proofs.Link.Errors
import Multimeter.Proofs.Parser.Resynchronisation
import Multimeter.Wire.Scripted
/-!
# Exchanges behind a broken one

Nothing but starting afresh makes a link forget the frame in flight. So when an exchange has broken
off, the bytes of the next answer are taken on top of what it has left in the parser. As long as
that is no more than a start marker and a command, the answer is found all the same, for a start
byte is no payload length. Behind a length byte, the answer is taken for the payload that was
announced.

* `Coherent.scan_encode`: a parser that has taken no length byte finds a frame.
* `Step`: what a caller can do with a link, starting afresh included.
* `Delivers`: the wire accepts a frame, then the first read finds some bytes, and no more follow.
* `request_resumed`: how a request ends on top of what earlier ones have left.
* `request_loses_answer`: a truncated answer makes the next request miss its own.
-/

namespace Multimeter

namespace Frame.Parser

variable {parser : Parser} {frame : Frame}

/-- A coherent parser that has taken no length byte finds a valid frame, whatever else it holds. -/
theorem Coherent.scan_encode (h : parser.Coherent) (hannounced : parser.stage.isAnnounced = false)
    (hvalid : frame.ValidFor parser.direction) :
    (parser.scan frame.encode).found = .ok (some frame) := by
  obtain ⟨dropped, hscan⟩ := h.exists_scan_encode hannounced hvalid
  rw [hscan]

/-- A search does not change the direction of a coherent parser. -/
theorem direction_scan (h : parser.Coherent) (bytes : List UInt8) :
    (parser.scan bytes).parser.direction = parser.direction := by
  fun_induction scan parser bytes with
  | case1 => rfl
  | case2 parser byte bytes next hfeed ih =>
    have hnext := coherent_feed h byte
    have hdirection := direction_feed h byte
    rw [hfeed] at hnext hdirection
    exact (ih hnext).trans hdirection
  | case3 parser byte bytes frame next hfeed =>
    have hdirection := direction_feed h byte
    rwa [hfeed] at hdirection
  | case4 parser byte bytes error next hfeed hrecoverable later ih =>
    have hnext := coherent_feed h byte
    have hdirection := direction_feed h byte
    rw [hfeed] at hnext hdirection
    exact (ih hnext).trans hdirection
  | case5 parser byte bytes error next hfeed hrecoverable =>
    have hdirection := direction_feed h byte
    rwa [hfeed] at hdirection

end Frame.Parser

/-- How an exchange ends that has received this answer, or none. -/
def Request.settled (asked : Request) : Option Frame → Ending Response
  | none => .failed .timeout
  | some answer =>
    match Response.answerTo asked answer with
    | .ok (.failure status) => .failed (.deviceFailure status)
    | .ok response => .returned response
    | .error error => .failed (.codec error)

namespace Link

open Act

variable {ω : Type}

/-- A link without bytes left over has nothing to look at. -/
theorem rest_eq_nil {link : Link ω} (h : link.buffered = 0) : link.rest = [] := by
  refine List.drop_eq_nil_of_le (Nat.le_trans (List.length_take_le _ _) ?_)
  exact Nat.le_of_sub_eq_zero h

/-- The parser of the link is in order, and it looks for answers. -/
structure Listening (link : Link ω) (_ : List Event) : Prop where
  /-- The parser is in order. -/
  coherent : link.parser.Coherent
  /-- It looks for answers. -/
  direction_eq : link.parser.direction = .response

/-- A link that is new listens for answers. -/
theorem listening_new (wire : ω) (config : Config) (history : List Event) :
    Listening (Link.new wire config) history :=
  ⟨Frame.Parser.coherent_new .response, rfl⟩

/-- A link listens for answers after a search as before. -/
theorem keeps_search_listening : Keeps Listening (search (ω := ω)) := fun link _ h =>
  ⟨(Frame.Parser.coherent_scan h.coherent link.rest).1,
    (Frame.Parser.direction_scan h.coherent link.rest).trans h.direction_eq⟩

variable [Wire ω]

/-- No step of a call turns the parser away from answers. -/
theorem maintained_listening : Maintained (fun _ => True) (Listening (ω := ω)) where
  send _ _ := keeps_send (fun _ _ h => ⟨h.coherent, h.direction_eq⟩)
    fun _ _ h => ⟨h.coherent, h.direction_eq⟩
  receive := keeps_receive_of_keeps keeps_search_listening
    (fun _ _ _ h => ⟨h.coherent, h.direction_eq⟩) fun h => ⟨h.coherent, h.direction_eq⟩
  log _ _ := fun _ _ h => ⟨h.coherent, h.direction_eq⟩
  pause := fun _ _ h => ⟨h.coherent, h.direction_eq⟩

/-- A link that starts afresh listens for answers. -/
theorem keeps_reset_listening (patience : Nat) : Keeps Listening (reset (ω := ω) patience) :=
  keeps_reset (fun {link} _ h => ⟨Frame.Parser.coherent_reset link.parser, h.direction_eq⟩)
    (fun _ _ h => ⟨h.coherent, h.direction_eq⟩) patience

/-! ## Steps of a caller -/

/-- What a caller can do with a link. -/
inductive Step where
  /-- Make a call. -/
  | call (call : Call)
  /-- Start afresh. -/
  | reset (patience : Nat)
  deriving DecidableEq, Repr

/-- Take a step, whatever it comes to. -/
def Step.act : Step → Act (Link ω) Unit
  | .call made => made.act
  | .reset patience => Link.reset patience

/-- A link listens for answers after any of its operations. -/
theorem keeps_act_listening (step : Step) : Keeps Listening (step.act (ω := ω)) := by
  cases step with
  | call call => exact maintained_listening.keeps_call call
  | reset patience => exact keeps_reset_listening patience

/-- Whatever a caller does, the parser stays in order. -/
theorem listening_runAll (wire : ω) (config : Config) (steps : List Step) :
    Listening (runAll (Link.new wire config) (steps.map Step.act)).1
      (runAll (Link.new wire config) (steps.map Step.act)).2 := by
  have hsteps : ∀ act ∈ steps.map (Step.act (ω := ω)), Keeps Listening act := by
    intro act hmem
    obtain ⟨step, -, rfl⟩ := List.mem_map.1 hmem
    exact keeps_act_listening step
  exact Keeps.runAll hsteps (listening_new wire config [])

/-! ## Bytes that arrive at once -/

/-- The wire after some looks for bytes. -/
def afterLooks (looks : Nat) : ω → ω := (fun wire => (Wire.read .never readSize wire).2)^[looks]

/-- However often it is looked at, the wire delivers nothing. -/
def Silent (wire : ω) : Prop :=
  ∀ looks, (Wire.read .never readSize (afterLooks looks wire)).1 = .ok []

/-- A silent wire is silent after a look, too. -/
theorem Silent.next {wire : ω} (h : Silent wire) : Silent (Wire.read .never readSize wire).2 :=
  fun looks => h (looks + 1)

/-- The wire accepts the frame `sent`. Then the first look finds `bytes`, and no others follow. -/
structure Delivers (link : Link ω) (sent : Frame) (bytes : List UInt8) : Prop where
  /-- The frame gets across. -/
  accepted : (Wire.write sent.encode link.config.writeTimeout link.wire).1 = .ok sent.encode.length
  /-- The first look finds the bytes. -/
  found : (Wire.read .never readSize
    (Wire.write sent.encode link.config.writeTimeout link.wire).2).1 = .ok bytes
  /-- No others follow. -/
  silent : Silent (Wire.read .never readSize
    (Wire.write sent.encode link.config.writeTimeout link.wire).2).2

/-- The parser has `parser` of a frame, nothing is left over, and the next look finds `bytes`, which
no others follow. -/
structure Arriving (parser : Frame.Parser) (bytes : List UInt8) (link : Link ω) (_ : List Event) :
    Prop where
  /-- The frame in flight. -/
  parser_eq : link.parser = parser
  /-- Nothing is left over. -/
  rest_eq : link.rest = []
  /-- The next look finds the bytes. -/
  found : (Wire.read .never readSize link.wire).1 = .ok bytes
  /-- No others follow. -/
  silent : Silent (Wire.read .never readSize link.wire).2

variable {parser : Frame.Parser} {bytes : List UInt8}

/-- A silent wire delivers nothing next, either. -/
theorem arriving_nil {link : Link ω} {history : List Event} (hparser : link.parser = parser)
    (hrest : link.rest = []) (hsilent : Silent link.wire) : Arriving parser [] link history :=
  ⟨hparser, hrest, hsilent 0, hsilent.next⟩

/-- A look hands out the frame that the parser finds among the bytes. If there is none, all bytes
are used up. -/
theorem receive_arriving (hcoherent : parser.Coherent) :
    Ensures (Arriving parser bytes) (receive (ω := ω) false)
      (Returns (Verdict.frame? (parser.scan bytes).found) fun link history =>
        (parser.scan bytes).found = .ok none →
          Arriving (parser.scan bytes).parser [] link history) := by
  intro link history h
  obtain ⟨-, found, hfound⟩ := Frame.Parser.coherent_scan hcoherent bytes
  rw [← h.parser_eq, ← scan_filled h.found] at hfound ⊢
  rw [run_receive h.found h.rest_eq]
  refine ⟨?_, fun hnone => arriving_nil rfl ?_ h.silent⟩
  · rw [hfound]
    exact ending_search hfound
  · rw [rest_search]
    exact Frame.Parser.scan_rest_eq_nil hnone

/-- The bytes that are to arrive arrive after a pause, too. -/
theorem pause_arriving :
    Ensures (Arriving parser bytes) (pause (ω := ω)) (Returns () (Arriving parser bytes)) :=
  ensures_get_bind fun _ => Ensures.of_left
    (ensures_report fun _ _ h => ⟨rfl, h.parser_eq, h.rest_eq, h.found, h.silent⟩)

/-- When no bytes arrive, no look finds a frame. -/
theorem await_silent (hcoherent : parser.Coherent) (cycles : Nat) :
    Ensures (Arriving parser []) (await (ω := ω) cycles) (Returns none fun _ _ => True) := by
  induction cycles with
  | zero => exact returns_pure fun _ _ _ => trivial
  | succ cycles ih =>
    refine (receive_arriving hcoherent).returns_bind ?_
    show Ensures _ (if cycles = 0 then Pure.pure none else pause >>= fun _ => await cycles) _
    split
    · exact returns_pure fun _ _ _ => trivial
    · exact (pause_arriving.weaken (fun _ _ h => h rfl) fun _ _ _ h => h).returns_bind ih

/-- Waiting ends with the frame that the parser finds among the bytes that arrive, if any. -/
theorem await_arriving (hcoherent : parser.Coherent) {cycles : Nat} (hcycles : 0 < cycles) :
    Ensures (Arriving parser bytes) (await (ω := ω) cycles)
      (Returns (Verdict.frame? (parser.scan bytes).found) fun _ _ => True) := by
  obtain ⟨cycles, rfl⟩ := Nat.exists_eq_succ_of_ne_zero (Nat.ne_of_gt hcycles)
  obtain ⟨hnext, found, hfound⟩ := Frame.Parser.coherent_scan hcoherent bytes
  refine (receive_arriving hcoherent).returns_bind ?_
  rw [hfound]
  -- what is not found at the first look is not found later
  cases found with
  | some frame => exact returns_pure fun _ _ _ => trivial
  | none =>
    show Ensures _ (if cycles = 0 then Pure.pure none else pause >>= fun _ => await cycles) _
    split
    · exact returns_pure fun _ _ _ => trivial
    · exact (pause_arriving.weaken (fun _ _ h => h rfl) fun _ _ _ h => h).returns_bind
        (await_silent hnext cycles)

/-! ## Requests -/

omit [Wire ω] in
/-- A response that is no refusal is the value; anything else is an error. -/
theorem interpret_settled {inv : Link ω → List Event → Prop} (asked : Request) (answer : Frame) :
    Ensures inv (interpret asked answer)
      fun ending _ _ => ending = asked.settled (some answer) := by
  rw [interpret, Request.settled]
  cases Response.answerTo asked answer with
  | error error => exact ensures_fail fun _ _ _ => rfl
  | ok response =>
    refine ensures_lift_bind (fun response' heq => ?_) fun _ _ _ heq => nomatch heq
    obtain rfl := Except.ok.inj heq
    cases response with
    | failure status => exact ensures_fail fun _ _ _ => rfl
    | _ => exact ensures_pure fun _ _ _ => rfl

/-- A frame that gets across is answered by what the parser finds among the bytes that arrive. -/
theorem sendReceive_delivers (hcoherent : parser.Coherent) (sent : Frame) (timeout : UInt32) :
    Ensures (fun link _ => link.parser = parser ∧ link.rest = [] ∧ Delivers link sent bytes)
      (sendReceive (ω := ω) sent timeout) fun ending _ _ =>
        ending = (Verdict.frame? (parser.scan bytes).found).elim (.failed .timeout) .returned := by
  have hsend : Ensures
      (fun link _ => link.parser = parser ∧ link.rest = [] ∧ Delivers link sent bytes)
      (send (ω := ω) sent) (Returns () (Arriving parser bytes)) := by
    rintro link history ⟨hparser, hrest, h⟩
    rw [run_send h.accepted]
    exact ⟨rfl, hparser, hrest, h.found, h.silent⟩
  refine hsend.returns_bind (ensures_get_bind fun link => Ensures.of_left ?_)
  refine (await_arriving hcoherent (link.config.cycles_pos timeout)).returns_bind ?_
  cases Verdict.frame? (parser.scan bytes).found with
  | some answer => exact ensures_pure fun _ _ _ => rfl
  | none =>
    have hlate : Ensures (fun _ _ => True)
        (Act.log (.timedOut sent.command timeout) : Act (Link ω) Unit)
        (Returns () fun _ _ => True) := returns_log fun _ _ h => h
    exact hlate.returns_bind (ensures_fail fun _ _ _ => rfl)

/-- A request that gets across ends with what the parser finds among the bytes that arrive. -/
theorem request_delivers (hcoherent : parser.Coherent) {asked : Request} {sent : Frame}
    (hsent : asked.toFrame = .ok sent) :
    Ensures (fun link _ => link.parser = parser ∧ link.rest = [] ∧ Delivers link sent bytes)
      (request (ω := ω) asked) fun ending _ _ =>
        ending = asked.settled (Verdict.frame? (parser.scan bytes).found) := by
  refine ensures_lift_bind (fun frame hframe => ?_) fun error _ _ herror => ?_
  · obtain rfl : sent = frame := Except.ok.inj (hsent.symm.trans hframe)
    refine ensures_get_bind fun link => Ensures.of_left ?_
    have hexchange : Ensures
        (fun link _ => link.parser = parser ∧ link.rest = [] ∧ Delivers link sent bytes)
        (sendReceive (ω := ω) sent link.config.receiveTimeout) fun ending _ _ =>
          ending = (Verdict.frame? (parser.scan bytes).found).elim (.failed .timeout) .returned :=
      sendReceive_delivers hcoherent sent _
    generalize Verdict.frame? (parser.scan bytes).found = found at hexchange ⊢
    cases found with
    | some answer =>
      have hanswer : Ensures
          (fun link _ => link.parser = parser ∧ link.rest = [] ∧ Delivers link sent bytes)
          (sendReceive (ω := ω) sent link.config.receiveTimeout)
          (Returns answer fun _ _ => True) :=
        hexchange.weaken (fun _ _ h => h) fun _ _ _ h => ⟨h, trivial⟩
      exact hanswer.returns_bind (interpret_settled asked answer)
    | none =>
      -- there is no answer to interpret
      refine hexchange.bind (fun answer => ?_) (fun error _ _ h => ?_) fun _ _ h => nomatch h
      · exact fun _ _ h => nomatch h
      · rw [Ending.failed.inj h]
        rfl
  · rw [hsent] at herror
    cases herror

/-- Whatever was done with a link before, if no bytes are left over and a request gets across, then
the request ends as the first frame has it that the parser finds among the bytes of the answer, put
behind the frame in flight. Unless the length of that frame is known, this is the answer itself. -/
theorem request_resumed (wire : ω) (config : Config) (steps : List Step) (asked : Request)
    (sent answer : Frame) (hsent : asked.toFrame = .ok sent) (hvalid : answer.ValidFor .response) :
    let link := (runAll (Link.new wire config) (steps.map Step.act)).1
    let ending := ((request asked).run link).ending
    link.buffered = 0 → Delivers link sent answer.encode →
      (link.parser.stage.isAnnounced = false → ending = asked.settled (some answer)) ∧
      ending = asked.settled (Verdict.frame? (link.parser.scan answer.encode).found) := by
  intro link ending hbuffered hdelivers
  have hlistening := listening_runAll wire config steps
  have hending : ending = asked.settled (Verdict.frame? (link.parser.scan answer.encode).found) :=
    request_delivers hlistening.coherent hsent link [] ⟨rfl, rest_eq_nil hbuffered, hdelivers⟩
  refine ⟨fun hannounced => ?_, hending⟩
  rw [hending, hlistening.coherent.scan_encode hannounced (hlistening.direction_eq ▸ hvalid)]
  rfl

/-- A script that has run out delivers nothing. -/
theorem silent_of_segments {wire : ScriptedWire} (h : wire.segments = []) : Silent wire := by
  have hread : Wire.read .never readSize wire = (.ok [], wire) := by
    show ScriptedWire.read readSize wire = _
    rw [ScriptedWire.read, h]
  intro looks
  have hfixed : afterLooks looks wire = wire :=
    Function.iterate_fixed (congrArg Prod.snd hread) looks
  rw [hfixed, hread]

/-- A script whose only reply is one piece delivers it. -/
theorem delivers_of_script {link : Link ScriptedWire} (sent : Frame)
    (h : link.wire = { replies := [[.bytes bytes]] }) (hlength : bytes.length ≤ readSize) :
    Delivers link sent bytes := by
  have hwritten : (Wire.write sent.encode link.config.writeTimeout link.wire).2 =
      { segments := [.bytes bytes] } := by
    rw [h]
    rfl
  have hread : Wire.read .never readSize
      ({ segments := [.bytes bytes] } : ScriptedWire) = (.ok bytes, {}) := by
    show ScriptedWire.read readSize _ = _
    simp [ScriptedWire.read, ScriptedWire.limit, List.take_of_length_le hlength, hlength]
  refine ⟨?_, ?_, ?_⟩
  · rw [h]
    rfl
  · rw [hwritten, hread]
  · rw [hwritten, hread]
    exact silent_of_segments rfl

/-- Only a start marker and a command arrive in time. The next request finds its answer. -/
theorem request_resumed_behind_command :
    let sent := Frame.empty .readBatteryLife
    let answer : Frame := ⟨.readBatteryLife, ⟨[1, 2, 3, 4], by decide⟩⟩
    let wire : ScriptedWire :=
      { replies := [[.bytes [0x55, 0x55, 0x04]], [.bytes answer.encode]] }
    let asked := Step.call (.request .readBatteryLife)
    let link := (runAll (Link.new wire {}) [asked.act]).1
    Request.readBatteryLife.toFrame = .ok sent ∧ answer.ValidFor .response ∧ link.buffered = 0 ∧
      Delivers link sent answer.encode ∧ link.parser.stage = .haveCommand ∧
      ((request .readBatteryLife).run link).ending = .returned (.batteryLife #v[1, 2, 3, 4]) := by
  intro sent answer wire asked link
  have hdelivers : Delivers link sent answer.encode :=
    delivers_of_script sent (by decide +kernel) (by decide)
  have hresumed := request_resumed wire {} [asked] .readBatteryLife sent answer rfl (by decide)
    (by decide +kernel) hdelivers
  have hstage : link.parser.stage = .haveCommand := by decide +kernel
  refine ⟨rfl, by decide, by decide +kernel, hdelivers, hstage, ?_⟩
  exact hresumed.1 (by decide +kernel)

/-- A truncated answer leaves a frame in flight whose payload was announced. The next request times
out although its answer arrives in one piece, for the bytes are taken for that payload. -/
theorem request_loses_answer :
    let sent := Frame.empty .readDisplay
    let answer : Frame := ⟨.readDisplay, ⟨[0x12, 0, 0, 0, 0, 0x10, 0, 0, 0, 0, 0, 0], by decide⟩⟩
    let wire : ScriptedWire :=
      { replies := [[.bytes [0x55, 0x55, 0x01, 0x0c]], [.bytes answer.encode]] }
    let first := (request .readDisplay).run (Link.new wire {})
    let second := (request .readDisplay).run first.state
    first.ending = .failed .timeout ∧ first.state.buffered = 0 ∧
      Request.readDisplay.toFrame = .ok sent ∧ answer.ValidFor .response ∧
      Delivers first.state sent answer.encode ∧
      (∃ display, Request.readDisplay.settled (some answer) = .returned (.display display)) ∧
      second.ending = .failed .timeout := by
  intro sent answer wire first second
  have hdelivers : Delivers first.state sent answer.encode :=
    delivers_of_script sent (by decide +kernel) (by decide)
  exact ⟨by decide +kernel, by decide +kernel, rfl, by decide, hdelivers, ⟨_, rfl⟩,
    by decide +kernel⟩

end Link

end Multimeter
