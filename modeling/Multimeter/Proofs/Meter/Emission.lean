import Multimeter.Meter.Poll
import Multimeter.Proofs.Meter.Exchange
/-!
# What polling hands over

The calls that polling makes on the sink: one group for the displays, and one group for each stored
entry, numbered from the playback position on.

* `emitDisplay_spec`: the group of a display answer.
* `forM_emitEntry_spec`: the groups of stored entries.
-/

namespace Multimeter.Meter

open Act

variable {ω : Type} {inv : Link ω → List Event → Prop} {config : Config} {calls : List Sink.Call}
  {known : Meter ω}

/-- The group of a stored entry: its value in the given mode, and its number. -/
def entryGroup (context : Context) (entry : Reading) (index : Nat) : List Sink.Call :=
  Sink.group [(.primary, (entry.interpret context .primary).toSample),
    (.secondary, .entryNumber index)]

/-- The groups of stored entries with consecutive numbers. -/
def entryGroups (context : Context) (entries : List Reading) (start : Nat) : List Sink.Call :=
  (entries.zipIdx start).flatMap fun (entry, index) => entryGroup context entry index

/-- The group of one more entry comes last and has the next number. -/
theorem entryGroups_concat (context : Context) (entries : List Reading) (entry : Reading)
    (start : Nat) : entryGroups context (entries ++ [entry]) start =
      entryGroups context entries start ++ entryGroup context entry (start + entries.length) := by
  rw [entryGroups, List.zipIdx_append, List.flatMap_append, entryGroups, Nat.add_comm start]
  exact congrArg _ (List.append_nil _)

/-- The call that hands over what one display shows. -/
def channelCall (display : Display) (channel : Channel) : Sink.Call :=
  .emit channel ((display.reading channel).interpret display.context channel).toSample

/-- The group of a display answer: the displays that are reported. -/
def displayGroup (meter : Meter ω) (display : Display) : List Sink.Call :=
  Sink.group ((Channel.all.filter meter.supports).map fun channel =>
    (channel, ((display.reading channel).interpret display.context channel).toSample))

/-- A display answer is a group of one call for each of the displays that are reported. -/
theorem displayGroup_eq (meter : Meter ω) (display : Display) :
    displayGroup meter display =
      [.begin] ++ ((Channel.all.filter meter.supports).map (channelCall display) ++ [.finish]) := by
  rw [displayGroup, Sink.group, List.map_map]
  rfl

/-! ## Steps -/

/-- A call on the sink is one more call that was made, and changes nothing else. -/
theorem Standing.sank (hinv : Link.Quiet inv) {meter : Meter ω} {history : List Event}
    (h : Standing inv config calls known meter history) (call : Sink.Call) :
    Standing inv config (calls ++ [call]) known meter (history ++ [.sank call]) where
  link := hinv.sink call meter.link history h.link
  plain := ⟨h.plain.1, by rw [sunk_append, h.plain.2]; rfl⟩
  alike := h.alike

/-- A call on the sink is made behind those before it. -/
theorem sink_spec (hinv : Link.Quiet inv) (call : Sink.Call) :
    Ensures (Standing inv config calls known) (Act.sink call)
      (Returns () (Standing inv config (calls ++ [call]) known)) :=
  ensures_report fun _ _ h => ⟨rfl, h.sank hinv call⟩

/-- A group is handed over as a whole. -/
theorem emitGroup_spec (hinv : Link.Quiet inv) (samples : List (Channel × Sample)) :
    Ensures (Standing inv config calls known) (emitGroup samples)
      (Returns () (Standing inv config (calls ++ Sink.group samples) known)) := by
  have hcall (before : List Sink.Call) (call : Sink.Call) :
      Ensures (Standing inv config (calls ++ before) known) (Act.sink call)
        (Returns () (Standing inv config (calls ++ (before ++ [call])) known)) := by
    rw [← List.append_assoc]
    exact sink_spec hinv call
  -- the calls of the group are made one after the other
  have hall := returns_forM hcall [] (Sink.group samples)
  rwa [List.append_nil, List.nil_append] at hall

/-- The report of a message is no report of a frame. -/
theorem frame?_of_mem_report {message : Message} {entry : Log.Entry} (h : entry ∈ message.report) :
    (Event.logged entry).frame? = none := by
  unfold Message.report at h
  split at h
  · cases h
  · rw [List.mem_singleton.1 h]
    rfl
  · rw [List.mem_singleton.1 h]
    rfl

/-- A reading is interpreted in the mode given; only the log may tell more. -/
theorem interpretReading_spec (hinv : Link.Quiet inv) (reading : Reading) (context : Context)
    (channel : Channel) :
    Ensures (Standing inv config calls known) (interpretReading reading context channel)
      (Returns (reading.interpret context channel).toSample
        (Standing inv config calls known)) := by
  have hentries : ∀ entries : List Log.Entry,
      (∀ entry ∈ entries, (Event.logged entry).frame? = none) →
        Ensures (Standing inv config calls known) (entries.forM fun entry => Act.log entry)
          (Returns () (Standing inv config calls known)) := by
    intro entries hframe
    -- the entries of a report change nothing that the invariant speaks of
    induction entries with
    | nil => exact returns_pure fun _ _ h => h
    | cons entry entries ih =>
      obtain ⟨hentry, hrest⟩ := List.forall_mem_cons.1 hframe
      exact (returns_log fun _ _ h => h.logged hinv hentry).returns_bind (ih hrest)
  have hreport := hentries
    ((reading.interpret context channel).message?.elim [] Message.report) <| by
      cases (reading.interpret context channel).message? with
      | none => exact fun _ h => nomatch h
      | some message => exact fun _ h => frame?_of_mem_report h
  exact hreport.returns_bind (returns_pure fun _ _ h => h)

/-- What one display shows is handed over by one call. -/
theorem emitChannel_spec (hinv : Link.Quiet inv) (display : Display) (channel : Channel) :
    Ensures (Standing inv config calls known) (emitChannel display channel)
      (Returns () (Standing inv config (calls ++ [channelCall display channel]) known)) :=
  (interpretReading_spec hinv _ _ _).returns_bind (sink_spec hinv _)

/-! ## Groups -/

/-- A display answer is handed over as one group. -/
theorem emitDisplay_spec (hinv : Link.Quiet inv) (display : Display) :
    Ensures (Standing inv config calls known) (emitDisplay display)
      (Returns () (Standing inv config (calls ++ displayGroup known display) known)) := by
  refine standing_get_bind fun meter hmeter _ => ?_
  have hsupports : meter.supports = known.supports := by
    funext channel
    rw [supports, supports, model?, model?, hmeter.information]
  rw [hsupports]
  have hchannel (before : List Channel) (channel : Channel) :
      Ensures
        (Standing inv config (calls ++ [.begin] ++ before.map (channelCall display)) known)
        (emitChannel display channel)
        (Returns () (Standing inv config
          (calls ++ [.begin] ++ (before ++ [channel]).map (channelCall display)) known)) := by
    rw [List.map_append, ← List.append_assoc]
    exact emitChannel_spec hinv display channel
  -- the group begins, each display adds its call, and the group is complete
  have hall := returns_forM hchannel [] (Channel.all.filter known.supports)
  rw [List.map_nil, List.append_nil] at hall
  rw [displayGroup_eq, ← List.append_assoc, ← List.append_assoc]
  exact (sink_spec hinv .begin).returns_bind (hall.returns_bind (sink_spec hinv .finish))

/-- A stored entry is handed over as one group, and playback goes on to the next one. -/
theorem emitEntry_spec (hinv : Link.Quiet inv) (entry : Reading) :
    Ensures (Standing inv config calls known) (emitEntry entry)
      (Returns () (Standing inv config
        (calls ++ entryGroup known.context entry known.poll.cursor)
        { known with poll := { known.poll with cursor := known.poll.cursor + 1 } })) := by
  refine standing_get_bind fun meter hmeter _ => ?_
  rw [hmeter.context, hmeter.poll]
  refine (interpretReading_spec hinv _ _ _).returns_bind ?_
  refine (emitGroup_spec hinv _).returns_bind (ensures_modify fun _ _ h => ⟨rfl, h.link, h.plain,
    h.alike.information, h.alike.storages, ?_, h.alike.context⟩)
  rw [h.alike.poll]

/-- Stored entries are handed over one after the other, numbered from the playback position on. -/
theorem forM_emitEntry_spec (hinv : Link.Quiet inv) (entries : List Reading) :
    Ensures (Standing inv config calls known) (entries.forM emitEntry)
      (Returns () (Standing inv config
        (calls ++ entryGroups known.context entries known.poll.cursor)
        { known with
          poll := { known.poll with cursor := known.poll.cursor + entries.length } })) := by
  have hentry (before : List Reading) (entry : Reading) :
      Ensures (Standing inv config (calls ++ entryGroups known.context before known.poll.cursor)
          { known with
            poll := { known.poll with cursor := known.poll.cursor + before.length } })
        (emitEntry entry)
        (Returns () (Standing inv config
          (calls ++ entryGroups known.context (before ++ [entry]) known.poll.cursor)
          { known with
            poll := { known.poll with
              cursor := known.poll.cursor + (before ++ [entry]).length } })) := by
    -- the number of an entry is the playback position at which it is handed over
    rw [entryGroups_concat, ← List.append_assoc, List.length_append, ← Nat.add_assoc]
    exact emitEntry_spec hinv entry
  have hall := returns_forM hentry [] entries
  rw [List.nil_append] at hall
  have hstart : calls ++ entryGroups known.context [] known.poll.cursor = calls :=
    List.append_nil _
  rwa [hstart] at hall

end Multimeter.Meter
