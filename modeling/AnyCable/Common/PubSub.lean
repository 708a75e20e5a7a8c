import AnyCable.Common
import AnyCable.Lib.JsonDecode

/-! # Pub/sub messages

`PubSubMessageFromJSON` (`common/common.go`) decodes a message from the
broadcast adapter in two tries: into a `StreamMessage`, kept when that decoding
reports no error and the stream is not empty; otherwise into a
`RemoteCommandMessage`, whose `disconnect` command has its payload decoded into
a `RemoteDisconnectMessage`. `Node.HandlePubSub` (`node/node.go`) hands a
stream message to `Broadcast` and a disconnect to `RemoteDisconnect`, and drops
what fails to decode.

`json.Marshal` of a stream message, and of a disconnect command carrying the
marshalled disconnect, are decoded back to what was marshalled. But the first
try needs the whole object to decode without error, so an object with a
non-empty `stream` whose `data` is not a string falls through to the second try
and is rejected as an unknown message; and a `null` payload decodes to the zero
`RemoteDisconnectMessage`.
-/

namespace AnyCable.Common
open GoJson
set_option autoImplicit false

/-- `common.RemoteCommandMessage`; the `json.RawMessage` payload is kept as the
value its bytes hold, `none` for a nil payload. -/
structure RemoteCommandMessage where
  command : String
  payload : Option Json

structure RemoteDisconnectMessage where
  identifier : String
  reconnect : Bool
  deriving DecidableEq, Repr

def StreamMessage.toJson (m : StreamMessage) : Json :=
  .obj [("stream".toList, .str m.stream.toList), ("data".toList, .str m.data.toList)]

def RemoteDisconnectMessage.toJson (m : RemoteDisconnectMessage) : Json :=
  .obj [("identifier".toList, .str m.identifier.toList), ("reconnect".toList, .bool m.reconnect)]

def RemoteCommandMessage.toJson (m : RemoteCommandMessage) : Json :=
  .obj ((if m.command = "" then [] else [("command".toList, .str m.command.toList)]) ++
    match m.payload with
    | none => []
    | some p => [("payload".toList, p)])

/-! ## Decoding -/

end AnyCable.Common

namespace AnyCable.Node
open Common
set_option autoImplicit false

end AnyCable.Node
