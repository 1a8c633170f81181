import Fanout.Feed.Alone
import Fanout.Limit.LimitPool
import Fanout.Main
import Fanout.Proofs.Broker.Barrier
import Fanout.Proofs.Broker.Blocked
import Fanout.Proofs.Broker.CleanUp
import Fanout.Proofs.Broker.Failed
import Fanout.Proofs.Broker.Gates
import Fanout.Proofs.Broker.Passes
import Fanout.Proofs.Broker.Rest
import Fanout.Proofs.Broker.Shutdown
import Fanout.Proofs.Config.Faults
import Fanout.Proofs.Feed.Fetching
import Fanout.Proofs.Feed.Forwarding
import Fanout.Proofs.Limit.Conservation
import Fanout.Proofs.Log.Retention
import Fanout.Proofs.Registry.Identity
import Fanout.Proofs.Relay.CatchUp
import Fanout.Proofs.Relay.Isolation
import Fanout.Proofs.Relay.Release
import Fanout.Proofs.Sink.Delivery
import Fanout.Proofs.Stream.Sharing
import Fanout.Proofs.Web.Channels
import Fanout.Proofs.Web.Requests
import Fanout.Web.Answer
import Fanout.Web.Body
