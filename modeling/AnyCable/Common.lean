import AnyCable.Lib.GoMap

/-! # The node–controller protocol

The records exchanged between the node and the RPC controller
(`common/common.go`), the protobuf command response (`protos/rpc.pb.go`) and
its translation by `protocol.ParseCommandResponse` and
`rpc.Controller.parseCommandResponse`. A Go `error` is `Option String`: `none`
is `nil`, `some m` an error whose `Error()` text is `m`.
-/

namespace AnyCable.Common
open GoMap
set_option autoImplicit false

abbrev Error := Option String

/-- `common.SUCCESS`, `common.FAILURE`, `common.ERROR`. -/
inductive Status where
  | SUCCESS
  | FAILURE
  | ERROR
  deriving DecidableEq, Repr

structure StreamMessage where
  stream : String
  data : String
  deriving DecidableEq, Repr

/-- `common.CommandResult`; nil slices and maps are the empty ones, which the
node treats exactly as nil. -/
structure CommandResult where
  stopAllStreams : Bool
  disconnect : Bool
  streams : List String
  stoppedStreams : List String
  transmissions : List String
  broadcasts : List StreamMessage
  cState : Map String String
  iState : Map String String
  status : Status
  deriving DecidableEq

/-- `pb.Status` with the three values the proto file declares. -/
inductive PbStatus where
  | ERROR
  | SUCCESS
  | FAILURE
  deriving DecidableEq, Repr

def PbStatus.toString : PbStatus → String
  | .ERROR => "ERROR"
  | .SUCCESS => "SUCCESS"
  | .FAILURE => "FAILURE"

structure EnvResponse where
  cstate : Map String String
  istate : Map String String
  deriving DecidableEq

structure CommandResponse where
  status : PbStatus
  disconnect : Bool
  stopStreams : Bool
  streams : List String
  transmissions : List String
  errorMsg : String
  env : Option EnvResponse
  stoppedStreams : List String
  deriving DecidableEq

def parseCommandResponse (response : CommandResponse) : CommandResult × Error :=
  let res : CommandResult :=
    { disconnect := response.disconnect
      stopAllStreams := response.stopStreams
      streams := response.streams
      stoppedStreams := response.stoppedStreams
      transmissions := response.transmissions
      broadcasts := []
      cState := (response.env.map EnvResponse.cstate).getD ∅
      iState := (response.env.map EnvResponse.istate).getD ∅
      status := .ERROR }
  if response.status.toString = "SUCCESS" then
    ({ res with status := .SUCCESS }, none)
  else if response.status.toString = "FAILURE" then
    ({ res with status := .FAILURE }, none)
  else
    ({ res with status := .ERROR }, some ("Application error: " ++ response.errorMsg))

inductive RpcOutcome where
  | response (r : CommandResponse)
  | transportError (message : String)
  deriving DecidableEq

/-- `rpc.Controller.parseCommandResponse`: the `(res, err)` pair the node gets
from `Subscribe`, `Unsubscribe` and `Perform`. -/
def controllerReply : RpcOutcome → Option CommandResult × Error
  | .transportError m => (none, some m)
  | .response r =>
    let (res, err) := parseCommandResponse r
    (some res, err)

theorem controllerReply_err_eq_none_iff (o : RpcOutcome) :
    (controllerReply o).2 = none ↔
      ∃ r, o = .response r ∧ (r.status = .SUCCESS ∨ r.status = .FAILURE) := by
  cases o with
  | transportError m => simp [controllerReply]
  | response r =>
    cases hStatus : r.status <;>
      simp [controllerReply, parseCommandResponse, hStatus, PbStatus.toString]

theorem controllerReply_status (r : CommandResponse) :
    ((controllerReply (.response r)).1.map CommandResult.status) =
      some (match r.status with
        | .SUCCESS => .SUCCESS
        | .FAILURE => .FAILURE
        | .ERROR => .ERROR) := by
  cases hStatus : r.status <;>
    simp [controllerReply, parseCommandResponse, hStatus, PbStatus.toString]

/-! ## The connect and disconnect calls -/

structure ConnectionResponse where
  status : PbStatus
  identifiers : String
  transmissions : List String
  errorMsg : String
  env : Option EnvResponse
  deriving DecidableEq

structure ConnectResult where
  identifier : String
  transmissions : List String
  broadcasts : List StreamMessage
  cState : Map String String
  iState : Map String String
  status : Status
  deriving DecidableEq

/-- `protocol.ParseConnectResponse`; every branch sets the status, so the zero
value `SUCCESS` of the first record is never returned as it is. -/
def parseConnectResponse (response : ConnectionResponse) : ConnectResult × Error :=
  let reply : ConnectResult :=
    { identifier := ""
      transmissions := response.transmissions
      broadcasts := []
      cState := (response.env.map EnvResponse.cstate).getD ∅
      iState := ∅
      status := .SUCCESS }
  if response.status.toString = "SUCCESS" then
    ({ reply with identifier := response.identifiers, status := .SUCCESS }, none)
  else if response.status.toString = "FAILURE" then
    ({ reply with status := .FAILURE }, none)
  else
    ({ reply with status := .ERROR }, some ("Application error: " ++ response.errorMsg))

inductive ConnectOutcome where
  | response (r : ConnectionResponse)
  | transportError (message : String)
  deriving DecidableEq

/-- `rpc.Controller.Authenticate`: the `(res, err)` pair the node gets. -/
def controllerAuthenticate : ConnectOutcome → Option ConnectResult × Error
  | .transportError m => (none, some m)
  | .response r =>
    let (res, err) := parseConnectResponse r
    (some res, err)

structure DisconnectResponse where
  status : PbStatus
  errorMsg : String
  deriving DecidableEq

def parseDisconnectResponse (response : DisconnectResponse) : Error :=
  if response.status.toString ≠ "ERROR" then none
  else some ("Application error: " ++ response.errorMsg)

inductive DisconnectOutcome where
  | response (r : DisconnectResponse)
  | transportError (message : String)
  deriving DecidableEq

def controllerDisconnect : DisconnectOutcome → Error
  | .transportError m => some m
  | .response r => parseDisconnectResponse r

structure CallResult where
  transmissions : List String
  broadcasts : List StreamMessage
  cState : Map String String
  iState : Map String String

/-- `ConnectResult.ToCallResult`; copying a nil map leaves it nil. -/
def ConnectResult.toCallResult (c : ConnectResult) : CallResult :=
  ⟨c.transmissions, c.broadcasts, c.cState, c.iState⟩

def CommandResult.toCallResult (c : CommandResult) : CallResult :=
  ⟨c.transmissions, c.broadcasts, c.cState, c.iState⟩

end AnyCable.Common
