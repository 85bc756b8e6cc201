import Multimeter.Model
import Multimeter.Sample
/-!
# Sample sinks

Samples are handed over in groups, one group for each display answer or stored entry. A sink is
whatever receives the calls; `Latest` keeps the most recent sample of each display and counts the
complete groups.
-/

namespace Multimeter.Sink

/-- What is handed to a sink. -/
inductive Call where
  /-- A group begins. -/
  | begin
  /-- One sample of the group. -/
  | emit (channel : Channel) (sample : Sample)
  /-- The group is complete. -/
  | finish
  deriving DecidableEq, Repr

/-- A group with these samples. -/
def group (samples : List (Channel × Sample)) : List Call :=
  .begin :: samples.map (fun (channel, sample) => .emit channel sample) ++ [.finish]

/-- The most recent sample of each display. -/
structure Latest where
  /-- From the main display. -/
  primary : Option Sample := none
  /-- From the sub display. -/
  secondary : Option Sample := none
  /-- The number of complete groups, modulo `2 ^ 32`. -/
  groups : UInt32 := 0
  deriving DecidableEq, Repr

namespace Latest

/-- Receive one call. -/
def receive (latest : Latest) : Call → Latest
  | .begin => latest
  | .emit .primary sample => { latest with primary := some sample }
  | .emit .secondary sample => { latest with secondary := some sample }
  | .finish => { latest with groups := latest.groups + 1 }

/-- Receive calls in order. -/
def receiveAll (latest : Latest) (calls : List Call) : Latest := calls.foldl receive latest

end Latest

end Multimeter.Sink
