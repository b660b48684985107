import MeterFeed.EventBus.Reaction
import MeterFeed.Failure
import MeterFeed.Feed.Run
import MeterFeed.Forwarding
import MeterFeed.Main
import MeterFeed.Proofs.Ledger
import MeterFeed.Proofs.Tiling
import MeterFeed.Proofs.Double
import MeterFeed.Proofs.Decoding
import MeterFeed.Proofs.EpochSeconds
import MeterFeed.Proofs.Lenient
import MeterFeed.Proofs.Grammar
import MeterFeed.Proofs.TimeText
import MeterFeed.Proofs.RoundTrip
import MeterFeed.Proofs.Nesting
import MeterFeed.Proofs.Turn
import MeterFeed.Proofs.Standing
import MeterFeed.Proofs.Shift
import MeterFeed.Proofs.Phases
import MeterFeed.Proofs.Changes
import MeterFeed.Proofs.Poll
import MeterFeed.Proofs.SingleFlight
import MeterFeed.Proofs.Emission
import MeterFeed.Proofs.Cycle
import MeterFeed.Proofs.Handling
import MeterFeed.Proofs.Readiness
import MeterFeed.Proofs.Trigger
import MeterFeed.Proofs.Delivery
import MeterFeed.Proofs.Starting
import MeterFeed.Proofs.Handles
import MeterFeed.Proofs.Arming
import MeterFeed.Proofs.Acknowledgement
import MeterFeed.Proofs.Precedence
import MeterFeed.Proofs.Coercion
import MeterFeed.Proofs.Publication
import MeterFeed.Proofs.CivilInstant
import MeterFeed.Proofs.Lifecycle
import MeterFeed.Proofs.Hosting
import MeterFeed.Proofs.Scheduling
import MeterFeed.Proofs.QueryFields
import MeterFeed.Proofs.Folding
import MeterFeed.Proofs.Conservation
import MeterFeed.Proofs.Propagation
