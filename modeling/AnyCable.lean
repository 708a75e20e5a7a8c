import AnyCable.Lib.GoMap
import AnyCable.Lib.Chan
import AnyCable.Lib.Transition
import AnyCable.Lib.Float64
import AnyCable.Lib.Unicode
import AnyCable.Lib.Json
import AnyCable.Lib.JsonEncode
import AnyCable.Lib.FloatRoundTrip
import AnyCable.Lib.JsonDecode
import AnyCable.Lib.JsonNormal
import AnyCable.Common
import AnyCable.Common.SessionEnv
import AnyCable.Common.PubSub
import AnyCable.Node.Subscriptions
import AnyCable.Hub.State
import AnyCable.Hub.Broadcast
import AnyCable.Hub.Refinement
import AnyCable.Hub.Invariants
import AnyCable.Hub.Isolation
import AnyCable.Node.Shutdown
import AnyCable.Node.Lifecycle
import AnyCable.Node.DisconnectQueue
import AnyCable.Utils.GoPool
import AnyCable.Metrics.Counter
import AnyCable.Node.Replies
import AnyCable.Rpc.Controller
import AnyCable.Ws.Handler
import AnyCable.Encoders.Json
import AnyCable.Node.ReadLoop
import AnyCable.Pubsub.Adapters
import AnyCable.Pubsub.Delivery
import AnyCable.Protocol.Requests
import AnyCable.Node.Calls
import AnyCable.Metrics.Registry
import AnyCable.Rpc.Concurrency
import AnyCable.Node.Outbox
import AnyCable.Pool.ChannelPool
import AnyCable.Stats.Aggregate
import AnyCable.Lib.StopLoop
import AnyCable.Node.Stats
import AnyCable.Rpc.Accounting
import AnyCable.Node.Ping
