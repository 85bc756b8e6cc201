import Multimeter.Config.Packed
import Multimeter.Config.Toml
import Multimeter.Meter.Poll
import Multimeter.Proofs.Act
import Multimeter.Proofs.Link.Faithful
import Multimeter.Proofs.Parser.Completeness
import Multimeter.Proofs.Parser.Soundness
import Multimeter.Wire.Scripted
import Multimeter.Proofs.Answering.Wire
import Multimeter.Proofs.Answering.Link
import Multimeter.Proofs.Link.Answered
import Multimeter.Proofs.Answering.Entries
import Multimeter.Proofs.Meter.Exchange
import Multimeter.Proofs.Meter.Emission
import Multimeter.Proofs.Meter.Poll
import Multimeter.Proofs.Meter.Playback
import Multimeter.Proofs.Meter.Calls
import Multimeter.Proofs.Codec
import Multimeter.Proofs.Answering.Meter
import Multimeter.Proofs.Answering.Received
import Multimeter.Proofs.Act.Errors
import Multimeter.Proofs.Link.Errors
import Multimeter.Proofs.Meter.Operations
import Multimeter.Proofs.Meter.Errors
import Multimeter.Proofs.Storage.Entries
import Multimeter.Proofs.Meter.Progress
import Multimeter.Proofs.Act.Yields
import Multimeter.Proofs.Paging.Link
import Multimeter.Proofs.Paging.Meter
import Multimeter.Proofs.Act.Repeated
import Multimeter.Proofs.Link.Resumption
import Multimeter.Proofs.Link.Unanswered
import Multimeter.Proofs.Meter.Steps
import Multimeter.Proofs.Meter.Retry
import Multimeter.Proofs.Meter.Tally
import Multimeter.Proofs.Meter.Setbacks
import Multimeter.Proofs.Codec.Padded
import Multimeter.Proofs.Codec.Display
import Multimeter.Proofs.Codec.RoundTrip
import Multimeter.Proofs.Codec.Field
import Multimeter.Proofs.Codec.Reencoding
import Multimeter.Proofs.Codec.Acceptance
import Multimeter.Proofs.Meter.Groups
import Multimeter.Proofs.Storage.Tiling
import Multimeter.Proofs.Parser.Representation
import Multimeter.Proofs.Parser.Resynchronisation
import Multimeter.Proofs.Config.RoundTrip
import Multimeter.Proofs.Parser.Damage
import Multimeter.Proofs.Link.Fragments
import Multimeter.Proofs.Link.Writes
import Multimeter.Proofs.Meter.Live
import Multimeter.Proofs.Meter.Survey
import Multimeter.Proofs.Codec.Answer
import Multimeter.Proofs.Link.Budget
import Multimeter.Proofs.Meter.Accounting
import Multimeter.Proofs.Meter.Stop
import Multimeter.Proofs.Storage.Words
import Multimeter.Proofs.Storage.Blocks
import Multimeter.Proofs.Interpretation.Flags
import Multimeter.Proofs.Interpretation.Amount
import Multimeter.Proofs.Codec.Vendor
