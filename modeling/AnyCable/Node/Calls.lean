import AnyCable.Node.ReadLoop
import AnyCable.Node.Subscriptions
import AnyCable.Protocol.Requests

/-! # The RPC calls of one session

`Node.Authenticate`, `Node.HandleCommand` and `Node.DisconnectNow`
(`node/node.go`) each call the controller with a request built from the
session's env (`protocol/protocol.go`). The replies come back into the env:
`handleCommandReply` merges `IState` into the state of the command's channel
and `handleCallReply` merges `CState` into the connection state. The read loop
makes the calls of a session one after another, and `DisconnectNow` runs from
the disconnect queue once the loop has ended, so the calls are sequential here.
The hub side of a reply (its streams and broadcasts) is `Node.Replies`.

What the env holds is read through the abstract `Store`: the connection state
and one state per channel, each as contents. Every result that reaches
`handleCommandReply` patches the store, a reply with status ERROR included,
and every command request carries what the store holds for its channel
(`runCommands_spec`). A connect reply is merged only when it comes without an
error (`authenticate_cases`).
-/

namespace AnyCable.Node
open Common GoMap
set_option autoImplicit false

def closeInternalServerErr : Nat := 1011

inductive Effect where
  | register
  | transmit (msg : String)
  | disconnect (reason : String) (code : Nat)
  deriving DecidableEq

structure CallSession where
  identifiers : String
  connected : Bool
  subscriptions : Map String Bool
  env : SessionEnv

structure SessionCall (ρ : Type) where
  request : Option ρ
  session : CallSession
  effects : List Effect
  err : Error

namespace CallSession

/-- `Node.handleCallReply`; its broadcasts go to the hub. A nil map is the empty
one, as protobuf decodes an empty map field. -/
def handleCallReply (s : CallSession) (reply : CallResult) : Option (CallSession × List Effect) := do
  let env ← (if len reply.cState = 0 then some s.env else s.env.mergeConnectionState reply.cState)
  pure ({ s with env }, reply.transmissions.map .transmit)

/-- `Node.handleCommandReply` for `msg.Identifier`. -/
def handleCommandReply (s : CallSession) (identifier : String) (reply : CommandResult) :
    Option (CallSession × List Effect) := do
  let env ←
    (if len reply.iState = 0 then some s.env else s.env.mergeChannelState identifier reply.iState)
  let r ← { s with env }.handleCallReply reply.toCallResult
  pure (r.1, r.2 ++ if reply.disconnect then [.disconnect "Command Failed" closeAbnormalClosure] else [])

def authenticate (outcome : ConnectOutcome) (s : CallSession) : Option (SessionCall Protocol.ProtoEnv) := do
  let request ← Protocol.newConnectMessage s.env
  match controllerAuthenticate outcome with
  | (_, some e) => pure ⟨some request, s, [.disconnect "Auth Error" closeInternalServerErr], some e⟩
  | (res, none) =>
    let res ← res
    if res.status = .SUCCESS then
      let r ← { s with identifiers := res.identifier, connected := true }.handleCallReply res.toCallResult
      pure ⟨some request, r.1, .register :: r.2, none⟩
    else
      let r ← s.handleCallReply res.toCallResult
      pure ⟨some request, r.1, r.2 ++ [.disconnect "Auth Failed" closeNormalClosure], none⟩

/-- `Node.HandleCommand`: the subscriptions and the controller's answer as
`Node.handleCommand` gives them, the request built from the env before the
call, and `handleCommandReply` when the controller returned a result. -/
def handleCommand (answer : RpcOutcome) (s : CallSession) (msg : Message) :
    Option (SessionCall Protocol.CommandMessage) := do
  let h := Node.handleCommand answer ⟨s.subscriptions⟩ msg
  let request ← h.rpc.mapM fun rpc =>
    Protocol.newCommandMessage s.env rpc.command rpc.identifier s.identifiers rpc.data
  let s := { s with subscriptions := h.session.subscriptions }
  match h.res with
  | none => pure ⟨request, s, [], h.err⟩
  | some res =>
    let r ← s.handleCommandReply msg.identifier res
    pure ⟨request, r.1, r.2, h.err⟩

/-- `Node.DisconnectNow`: the request and the error the controller returns. -/
def disconnectNow (outcome : DisconnectOutcome) (s : CallSession) :
    Option (Protocol.DisconnectRequest × Error) :=
  (Protocol.newDisconnectMessage s.env s.identifiers (subscriptionsList s.subscriptions)).map
    fun request => (request, controllerDisconnect outcome)

def runCommands (s : CallSession) :
    List (Message × RpcOutcome) → Option (CallSession × List Protocol.CommandMessage × List Effect)
  | [] => some (s, [], [])
  | (msg, answer) :: rest => do
    let c ← s.handleCommand answer msg
    let r ← c.session.runCommands rest
    pure (r.1, c.request.toList ++ r.2.1, c.effects ++ r.2.2)

end CallSession

/-! ## The store the replies keep -/

structure Store where
  connection : Contents
  channel : String → Contents

namespace Store

def empty : Store := ⟨fun _ => none, fun _ _ => none⟩

def ofEnv (env : SessionEnv) : Store :=
  ⟨contents (env.connectionState.getD ∅), fun id => contents (GoMap.get (env.channelStates.getD ∅) id)⟩

def patchConnection (st : Store) (d : Contents) : Store :=
  { st with connection := patchAll d st.connection }

def patchChannel (st : Store) (identifier : String) (d : Contents) : Store :=
  { st with channel := Function.update st.channel identifier (patchAll d (st.channel identifier)) }

def patch (st : Store) (identifier : String) (reply : CommandResult) : Store :=
  (st.patchChannel identifier (contents reply.iState)).patchConnection (contents reply.cState)

def apply (st : Store) (e : CommandMessage × RpcOutcome) : Store :=
  (controllerReply e.2).1.elim st (st.patch e.1.identifier)

def reads (st : Store) : List (CommandMessage × RpcOutcome) → List (Contents × Contents)
  | [] => []
  | e :: log => (st.connection, st.channel e.1.identifier) :: (st.apply e).reads log

end Store

/-- The env of a session that `NewSession` made: no pointer in it is nil. -/
structure EnvReady (env : SessionEnv) : Prop where
  headers : env.headers.isSome
  connectionState : env.connectionState.isSome
  channelStates : env.channelStates.isSome

/-- `env'` is `env` with its states patched into the store `st`. -/
structure Patched (env env' : SessionEnv) (st : Store) : Prop where
  url : env'.url = env.url
  headers : env'.headers = env.headers
  ready : EnvReady env'
  store : Store.ofEnv env' = st

theorem Patched.refl {env : SessionEnv} (hReady : EnvReady env) : Patched env env (Store.ofEnv env) :=
  ⟨rfl, rfl, hReady, rfl⟩

theorem Patched.trans {e₁ e₂ e₃ : SessionEnv} {st₂ st₃ : Store} (h₁ : Patched e₁ e₂ st₂)
    (h₂ : Patched e₂ e₃ st₃) : Patched e₁ e₃ st₃ :=
  ⟨h₂.url.trans h₁.url, h₂.headers.trans h₁.headers, h₂.ready, h₂.store⟩

theorem newSessionEnv_ready (url : String) (headers : Map String String) :
    EnvReady (newSessionEnv url (some headers)) :=
  ⟨rfl, rfl, rfl⟩

@[simp] theorem patchAll_empty (c : Contents) : patchAll (fun _ => none) c = c := rfl

theorem contents_of_len_zero {m : Map String String} (hLen : len m = 0) : contents m = fun _ => none :=
  funext ((len_eq_zero_iff_lookup m).mp hLen)

theorem get_mergeChannel (states : Map String (Map String String)) (id id' : String)
    (other : Map String String) :
    GoMap.get (SessionEnv.mergeChannel states id other) id' =
      if id' = id then mergeInto (GoMap.get states id) other else GoMap.get states id' := by
  unfold GoMap.get
  rw [lookup_mergeChannel]
  split <;> rfl

/-! ## One merge, one patch -/

section Merges

variable {env : SessionEnv}

theorem mergeConnectionState_patched (hReady : EnvReady env) (other : Map String String) :
    ∃ env', (if len other = 0 then some env else env.mergeConnectionState other) = some env' ∧
      Patched env env' ((Store.ofEnv env).patchConnection (contents other)) := by
  obtain ⟨c, hc⟩ := Option.isSome_iff_exists.mp hReady.connectionState
  split
  · rename_i hLen
    refine ⟨env, rfl, ⟨rfl, rfl, hReady, ?_⟩⟩
    rw [contents_of_len_zero hLen]
    rfl
  · refine ⟨{ env with connectionState := some (mergeInto c other) }, ?_,
      ⟨rfl, rfl, ⟨hReady.headers, rfl, hReady.channelStates⟩, ?_⟩⟩
    · simp [SessionEnv.mergeConnectionState, hc]
    · simp [Store.ofEnv, Store.patchConnection, hc, contents_mergeInto]

theorem mergeChannelState_patched (hReady : EnvReady env) (id : String) (other : Map String String) :
    ∃ env', (if len other = 0 then some env else env.mergeChannelState id other) = some env' ∧
      Patched env env' ((Store.ofEnv env).patchChannel id (contents other)) := by
  obtain ⟨states, hStates⟩ := Option.isSome_iff_exists.mp hReady.channelStates
  split
  · rename_i hLen
    refine ⟨env, rfl, ⟨rfl, rfl, hReady, ?_⟩⟩
    simp [Store.patchChannel, contents_of_len_zero hLen]
  · refine ⟨{ env with channelStates := some (SessionEnv.mergeChannel states id other) }, ?_,
      ⟨rfl, rfl, ⟨hReady.headers, hReady.connectionState, rfl⟩, ?_⟩⟩
    · simp [SessionEnv.mergeChannelState, hStates]
    · simp only [Store.ofEnv, Store.patchChannel, hStates, Option.getD_some, Store.mk.injEq, true_and]
      funext id'
      rw [get_mergeChannel]
      by_cases hId : id' = id
      · subst hId
        simp [contents_mergeInto]
      · simp [hId]

end Merges

/-! ## What each call does -/

namespace CallSession

variable (s : CallSession)

theorem handleCallReply_spec (reply : CallResult) (hReady : EnvReady s.env) :
    ∃ env, s.handleCallReply reply = some ({ s with env }, reply.transmissions.map .transmit) ∧
      Patched s.env env ((Store.ofEnv s.env).patchConnection (contents reply.cState)) := by
  obtain ⟨env, hMerge, hPatched⟩ := mergeConnectionState_patched hReady reply.cState
  refine ⟨env, ?_, hPatched⟩
  unfold handleCallReply
  rw [hMerge]
  rfl

theorem handleCommandReply_spec (identifier : String) (reply : CommandResult) (hReady : EnvReady s.env) :
    ∃ env, s.handleCommandReply identifier reply =
        some ({ s with env }, reply.transmissions.map .transmit ++
          if reply.disconnect then [.disconnect "Command Failed" closeAbnormalClosure] else []) ∧
      Patched s.env env ((Store.ofEnv s.env).patch identifier reply) := by
  obtain ⟨env₁, hChannel, hPatched₁⟩ := mergeChannelState_patched hReady identifier reply.iState
  obtain ⟨env₂, hCall, hPatched₂⟩ := handleCallReply_spec { s with env := env₁ } reply.toCallResult hPatched₁.ready
  refine ⟨env₂, ?_, hPatched₁.trans ?_⟩
  · unfold handleCommandReply
    rw [hChannel]
    simp only [Option.pure_def, Option.bind_eq_bind, Option.bind_some, hCall]
    rfl
  · rw [Store.patch, ← hPatched₁.store]
    exact hPatched₂

end CallSession

/-! ## The store law of a command -/

section StoreLaw
variable (answer : RpcOutcome) (s : Session) (msg : Message) (st : Store)

def PatchesAsIssued (h : Handled) : Prop :=
  h.res.elim st (st.patch msg.identifier) = (h.rpc.map (·, answer)).toList.foldl Store.apply st

theorem subscribe_patchesAsIssued : PatchesAsIssued answer msg st (subscribe answer s msg) := by
  unfold subscribe
  split
  · rfl
  · rcases hReply : controllerReply answer with ⟨res, _ | e⟩ <;> simp [PatchesAsIssued, Store.apply, hReply]

theorem unsubscribe_patchesAsIssued : PatchesAsIssued answer msg st (unsubscribe answer s msg) := by
  unfold unsubscribe
  split
  · rfl
  · rcases hReply : controllerReply answer with ⟨_ | res, _ | e⟩ <;>
      simp [PatchesAsIssued, Store.apply, Store.patch, hReply]

theorem perform_patchesAsIssued : PatchesAsIssued answer msg st (perform answer s msg) := by
  unfold perform
  split
  · rfl
  · split
    · rfl
    · simp [PatchesAsIssued, Store.apply]

theorem handleCommand_patchesAsIssued :
    PatchesAsIssued answer msg st (handleCommand answer s msg) := by
  unfold handleCommand
  split
  · exact subscribe_patchesAsIssued answer s msg st
  · split
    · exact unsubscribe_patchesAsIssued answer s msg st
    · split
      · exact perform_patchesAsIssued answer s msg st
      · rfl

end StoreLaw

theorem Store.reads_append (st : Store) (l₁ l₂ : List (CommandMessage × RpcOutcome)) :
    st.reads (l₁ ++ l₂) = st.reads l₁ ++ (l₁.foldl Store.apply st).reads l₂ := by
  induction l₁ generalizing st with
  | nil => rfl
  | cons e l₁ ih => simp [Store.reads, ih]

/-! ## A command, and the read loop's commands -/

def rpcOf (r : Protocol.CommandMessage) : CommandMessage := ⟨r.command, r.identifier, r.data⟩

def readsOf (r : Protocol.CommandMessage) : Contents × Contents :=
  (contents r.env.cstate, contents r.env.istate)

def Carries (s : CallSession) (r : Protocol.CommandMessage) : Prop :=
  r.connectionIdentifiers = s.identifiers ∧ r.env.url = s.env.url ∧ some r.env.headers = s.env.headers

def connectState (r : ConnectionResponse) : Map String String := (r.env.map EnvResponse.cstate).getD ∅

def Encodes (text : Option String) (state : Contents) : Prop :=
  text = none ∧ state = (fun _ => none) ∨
    ∃ t members, text = some t ∧ GoJson.parseText t.toList = some (.obj members) ∧
      ∀ k, members.lookup k.toList = (state k).map fun v => .str v.toList

theorem newConnectMessage_eq {env : SessionEnv} {headers cstate : Map String String}
    (hHeaders : env.headers = some headers) (hConnection : env.connectionState = some cstate) :
    Protocol.newConnectMessage env = some ⟨env.url, headers, cstate, ∅⟩ := by
  simp [Protocol.newConnectMessage, Protocol.buildEnv, hHeaders, hConnection]

theorem newConnectMessage_of_ready {env : SessionEnv} (hReady : EnvReady env) :
    ∃ req, Protocol.newConnectMessage env = some req := by
  obtain ⟨headers, hHeaders⟩ := Option.isSome_iff_exists.mp hReady.headers
  obtain ⟨cstate, hConnection⟩ := Option.isSome_iff_exists.mp hReady.connectionState
  exact ⟨_, newConnectMessage_eq hHeaders hConnection⟩

theorem newCommandMessage_eq {env : SessionEnv} {headers cstate : Map String String}
    {states : Map String (Map String String)} (hHeaders : env.headers = some headers)
    (hConnection : env.connectionState = some cstate) (hStates : env.channelStates = some states)
    (command channel identifiers data : String) :
    Protocol.newCommandMessage env command channel identifiers data =
      some ⟨command, channel, identifiers, data, ⟨env.url, headers, cstate, GoMap.get states channel⟩⟩ := by
  unfold GoMap.get
  cases hState : states.lookup channel <;>
    simp [Protocol.newCommandMessage, Protocol.buildChannelEnv, Protocol.buildEnv, hHeaders, hConnection,
      hStates, hState]

namespace CallSession

variable (s : CallSession)

theorem handleCommand_spec (answer : RpcOutcome) (msg : Message) (hReady : EnvReady s.env) :
    ∃ c, s.handleCommand answer msg = some c ∧
      c.request.toList.map rpcOf =
        ((Node.handleCommand answer ⟨s.subscriptions⟩ msg).rpc.map (·, answer)).toList.map Prod.fst ∧
      (∀ r ∈ c.request, Carries s r) ∧
      c.request.toList.map readsOf =
        (Store.ofEnv s.env).reads ((Node.handleCommand answer ⟨s.subscriptions⟩ msg).rpc.map (·, answer)).toList ∧
      c.session.identifiers = s.identifiers ∧
      c.session.subscriptions = (Node.handleCommand answer ⟨s.subscriptions⟩ msg).session.subscriptions ∧
      Patched s.env c.session.env
        (((Node.handleCommand answer ⟨s.subscriptions⟩ msg).rpc.map (·, answer)).toList.foldl Store.apply
          (Store.ofEnv s.env)) := by
  obtain ⟨headers, hHeaders⟩ := Option.isSome_iff_exists.mp hReady.headers
  obtain ⟨cstate, hConnection⟩ := Option.isSome_iff_exists.mp hReady.connectionState
  obtain ⟨states, hStates⟩ := Option.isSome_iff_exists.mp hReady.channelStates
  have hStore := handleCommand_patchesAsIssued answer ⟨s.subscriptions⟩ msg (Store.ofEnv s.env)
  unfold handleCommand
  generalize Node.handleCommand answer ⟨s.subscriptions⟩ msg = h at hStore ⊢
  let request : CommandMessage → Protocol.CommandMessage := fun rpc =>
    ⟨rpc.command, rpc.identifier, s.identifiers, rpc.data, ⟨s.env.url, headers, cstate, GoMap.get states rpc.identifier⟩⟩
  have hRequest : h.rpc.mapM (fun rpc =>
      Protocol.newCommandMessage s.env rpc.command rpc.identifier s.identifiers rpc.data) = some (h.rpc.map request) := by
    cases h.rpc with
    | none => rfl
    | some rpc => simp [newCommandMessage_eq hHeaders hConnection hStates, request]
  have hRequests : (h.rpc.map request).toList.map rpcOf = (h.rpc.map (·, answer)).toList.map Prod.fst ∧
      (∀ r ∈ h.rpc.map request, Carries s r) ∧
      (h.rpc.map request).toList.map readsOf = (Store.ofEnv s.env).reads (h.rpc.map (·, answer)).toList := by
    cases h.rpc with
    | none => simp [Store.reads]
    | some rpc =>
      simp [request, rpcOf, readsOf, Carries, Store.reads, Store.ofEnv, hHeaders, hConnection, hStates]
  cases hRes : h.res with
  | none =>
    refine ⟨⟨h.rpc.map request, { s with subscriptions := h.session.subscriptions }, [], h.err⟩, ?_,
      hRequests.1, hRequests.2.1, hRequests.2.2, rfl, rfl, ?_⟩
    · simp [hRequest, hRes]
    · rw [← hStore, hRes]
      exact Patched.refl hReady
  | some res =>
    obtain ⟨env, hReply, hPatched⟩ :=
      handleCommandReply_spec { s with subscriptions := h.session.subscriptions } msg.identifier res hReady
    refine ⟨⟨h.rpc.map request, { s with subscriptions := h.session.subscriptions, env },
      res.transmissions.map .transmit ++
        if res.disconnect then [.disconnect "Command Failed" closeAbnormalClosure] else [], h.err⟩, ?_,
      hRequests.1, hRequests.2.1, hRequests.2.2, rfl, rfl, ?_⟩
    · simp [hRequest, hRes, hReply]
    · rw [← hStore, hRes]
      exact hPatched

structure CommandsRun (cmds : List (Message × RpcOutcome)) (s' : CallSession)
    (requests : List Protocol.CommandMessage) : Prop where
  rpcs : requests.map rpcOf = (run ⟨s.subscriptions⟩ cmds).2.map Prod.fst
  carry : ∀ r ∈ requests, Carries s r
  reads : requests.map readsOf = (Store.ofEnv s.env).reads (run ⟨s.subscriptions⟩ cmds).2
  identifiers : s'.identifiers = s.identifiers
  subscriptions : s'.subscriptions = (run ⟨s.subscriptions⟩ cmds).1.subscriptions
  patched : Patched s.env s'.env ((run ⟨s.subscriptions⟩ cmds).2.foldl Store.apply (Store.ofEnv s.env))

theorem run_cons (t : Session) (msg : Message) (answer : RpcOutcome) (rest : List (Message × RpcOutcome)) :
    run t ((msg, answer) :: rest) =
      ((run (Node.handleCommand answer t msg).session rest).1,
        ((Node.handleCommand answer t msg).rpc.map (·, answer)).toList ++
          (run (Node.handleCommand answer t msg).session rest).2) := rfl

theorem runCommands_spec (cmds : List (Message × RpcOutcome)) (hReady : EnvReady s.env) :
    ∃ s' requests effects, s.runCommands cmds = some (s', requests, effects) ∧
      s.CommandsRun cmds s' requests := by
  induction cmds generalizing s with
  | nil => exact ⟨s, [], [], rfl, ⟨rfl, by simp, rfl, rfl, rfl, Patched.refl hReady⟩⟩
  | cons cmd rest ih =>
    obtain ⟨msg, answer⟩ := cmd
    obtain ⟨c, hCall, hRpcs, hCarry, hReads, hIdentifiers, hSubscriptions, hPatched⟩ :=
      s.handleCommand_spec answer msg hReady
    obtain ⟨s', requests, effects, hRun, hRest⟩ := ih c.session hPatched.ready
    have hSession : (⟨c.session.subscriptions⟩ : Session) = (Node.handleCommand answer ⟨s.subscriptions⟩ msg).session := by
      rw [hSubscriptions]
    have hRestReads := hRest.reads
    rw [hSession, hPatched.store] at hRestReads
    refine ⟨s', c.request.toList ++ requests, c.effects ++ effects, by simp [runCommands, hCall, hRun], ?_⟩
    constructor
    · rw [run_cons, List.map_append, hRpcs, hRest.rpcs, hSession, List.map_append]
    · intro r hr
      rcases List.mem_append.mp hr with hr | hr
      · exact hCarry r (Option.mem_toList.mp hr)
      · obtain ⟨hIds, hUrl, hHeaders⟩ := hRest.carry r hr
        exact ⟨hIds.trans hIdentifiers, hUrl.trans hPatched.url, hHeaders.trans hPatched.headers⟩
    · rw [run_cons, List.map_append, hReads, hRestReads, Store.reads_append]
    · rw [hRest.identifiers, hIdentifiers]
    · rw [hRest.subscriptions, hSession, run_cons]
    · have hRestPatched := hRest.patched
      rw [hSession, hPatched.store, ← List.foldl_append] at hRestPatched
      rw [run_cons]
      exact hPatched.trans hRestPatched

theorem disconnectNow_spec (outcome : DisconnectOutcome) (hReady : EnvReady s.env) :
    ∃ d, s.disconnectNow outcome = some (d, controllerDisconnect outcome) ∧
      d.identifiers = s.identifiers ∧ d.subscriptions = subscriptionsList s.subscriptions ∧
      d.env.url = s.env.url ∧ some d.env.headers = s.env.headers ∧
      contents d.env.cstate = (Store.ofEnv s.env).connection ∧
      ∀ id, Encodes (d.env.istate.lookup id) ((Store.ofEnv s.env).channel id) := by
  obtain ⟨headers, hHeaders⟩ := Option.isSome_iff_exists.mp hReady.headers
  obtain ⟨cstate, hConnection⟩ := Option.isSome_iff_exists.mp hReady.connectionState
  obtain ⟨states, hStates⟩ := Option.isSome_iff_exists.mp hReady.channelStates
  have hRequest : Protocol.newDisconnectMessage s.env s.identifiers (subscriptionsList s.subscriptions) =
      some ⟨s.identifiers, subscriptionsList s.subscriptions,
        ⟨s.env.url, headers, cstate, Protocol.encodeChannelStates states⟩⟩ := by
    simp [Protocol.newDisconnectMessage, Protocol.buildDisconnectEnv, Protocol.buildEnv, hHeaders, hConnection,
      hStates]
  refine ⟨_, by rw [disconnectNow, hRequest]; rfl, rfl, rfl, rfl, hHeaders.symm,
    by simp [Store.ofEnv, hConnection], fun id => ?_⟩
  simp only [Store.ofEnv, hStates, Option.getD_some, Protocol.lookup_encodeChannelStates]
  unfold GoMap.get
  cases hState : states.lookup id with
  | none => exact .inl ⟨rfl, rfl⟩
  | some state =>
    obtain ⟨hRead, hLookup⟩ := Protocol.stringMapMembers_readBack state
    exact .inr ⟨_, _, rfl, by rw [String.toList_ofList]; exact hRead, hLookup⟩

section Authenticate

variable (hReady : EnvReady s.env)
include hReady

theorem authenticate_error (outcome : ConnectOutcome) {e : String}
    (hErr : (controllerAuthenticate outcome).2 = some e) :
    s.authenticate outcome =
      some ⟨Protocol.newConnectMessage s.env, s, [.disconnect "Auth Error" closeInternalServerErr], some e⟩ := by
  obtain ⟨req, hRequest⟩ := newConnectMessage_of_ready hReady
  rcases hAuth : controllerAuthenticate outcome with ⟨res, _ | e'⟩
  · rw [hAuth] at hErr
    cases hErr
  · rw [hAuth] at hErr
    cases hErr
    simp [authenticate, hRequest, hAuth]

theorem authenticate_rejected (r : ConnectionResponse) (hFailure : r.status = .FAILURE) :
    ∃ env, s.authenticate (.response r) =
        some ⟨Protocol.newConnectMessage s.env, { s with env },
          r.transmissions.map .transmit ++ [.disconnect "Auth Failed" closeNormalClosure], none⟩ ∧
      Patched s.env env ((Store.ofEnv s.env).patchConnection (contents (connectState r))) := by
  obtain ⟨req, hRequest⟩ := newConnectMessage_of_ready hReady
  let reply : ConnectResult := ⟨"", r.transmissions, [], connectState r, ∅, .FAILURE⟩
  have hParse : parseConnectResponse r = (reply, none) := by
    simp [parseConnectResponse, hFailure, PbStatus.toString, reply, connectState]
  obtain ⟨env, hCall, hPatched⟩ := s.handleCallReply_spec reply.toCallResult hReady
  refine ⟨env, ?_, hPatched⟩
  simp [authenticate, hRequest, controllerAuthenticate, hParse, hCall, reply]
  rfl

theorem authenticate_accepted (r : ConnectionResponse) (hSuccess : r.status = .SUCCESS) :
    ∃ env, s.authenticate (.response r) =
        some ⟨Protocol.newConnectMessage s.env, { s with identifiers := r.identifiers, connected := true, env },
          .register :: r.transmissions.map .transmit, none⟩ ∧
      Patched s.env env ((Store.ofEnv s.env).patchConnection (contents (connectState r))) := by
  obtain ⟨req, hRequest⟩ := newConnectMessage_of_ready hReady
  let reply : ConnectResult := ⟨r.identifiers, r.transmissions, [], connectState r, ∅, .SUCCESS⟩
  have hParse : parseConnectResponse r = (reply, none) := by
    simp [parseConnectResponse, hSuccess, PbStatus.toString, reply, connectState]
  obtain ⟨env, hCall, hPatched⟩ :=
    handleCallReply_spec { s with identifiers := r.identifiers, connected := true } reply.toCallResult hReady
  refine ⟨env, ?_, hPatched⟩
  simp [authenticate, hRequest, controllerAuthenticate, hParse, hCall, reply]
  rfl

end Authenticate

theorem authenticate_cases (outcome : ConnectOutcome) (hReady : EnvReady s.env) :
    ∃ c, s.authenticate outcome = some c ∧ c.request = Protocol.newConnectMessage s.env ∧
      ((∃ m, outcome = .transportError m ∧ c.session = s ∧
          c.effects = [.disconnect "Auth Error" closeInternalServerErr] ∧ c.err = some m) ∨
        (∃ r, outcome = .response r ∧ r.status = .ERROR ∧ c.session = s ∧
          c.effects = [.disconnect "Auth Error" closeInternalServerErr] ∧
          c.err = some ("Application error: " ++ r.errorMsg)) ∨
        (∃ r env, outcome = .response r ∧ r.status = .FAILURE ∧ c.session = { s with env } ∧
          Patched s.env env ((Store.ofEnv s.env).patchConnection (contents (connectState r))) ∧
          c.effects = r.transmissions.map .transmit ++ [.disconnect "Auth Failed" closeNormalClosure] ∧
          c.err = none) ∨
        (∃ r env, outcome = .response r ∧ r.status = .SUCCESS ∧
          c.session = { s with identifiers := r.identifiers, connected := true, env } ∧
          Patched s.env env ((Store.ofEnv s.env).patchConnection (contents (connectState r))) ∧
          c.effects = .register :: r.transmissions.map .transmit ∧ c.err = none)) := by
  cases outcome with
  | transportError m =>
    exact ⟨_, s.authenticate_error hReady (.transportError m) rfl, rfl, .inl ⟨m, rfl, rfl, rfl, rfl⟩⟩
  | response r =>
    cases hStatus : r.status with
    | ERROR =>
      have hErr : (controllerAuthenticate (.response r)).2 = some ("Application error: " ++ r.errorMsg) := by
        simp [controllerAuthenticate, parseConnectResponse, hStatus, PbStatus.toString]
      exact ⟨_, s.authenticate_error hReady _ hErr, rfl, .inr (.inl ⟨r, rfl, hStatus, rfl, rfl, rfl⟩)⟩
    | FAILURE =>
      obtain ⟨env, hAuth, hPatched⟩ := s.authenticate_rejected hReady r hStatus
      exact ⟨_, hAuth, rfl, .inr (.inr (.inl ⟨r, env, rfl, hStatus, rfl, hPatched, rfl, rfl⟩))⟩
    | SUCCESS =>
      obtain ⟨env, hAuth, hPatched⟩ := s.authenticate_accepted hReady r hStatus
      exact ⟨_, hAuth, rfl, .inr (.inr (.inr ⟨r, env, rfl, hStatus, rfl, hPatched, rfl, rfl⟩))⟩

end CallSession

theorem ofEnv_newSessionEnv (url : String) (headers : Map String String) :
    Store.ofEnv (newSessionEnv url (some headers)) = Store.empty := rfl

/-- A session as `NewSession` makes it, accepted by the controller and then
handling any commands: every request it sends carries the reply's identifiers,
every command request the states the earlier replies left (`Store.reads` along
the log of issued RPCs), and the disconnect request the final states, each
channel's as JSON text. -/
theorem session_states (url : String) (headers : Map String String) (r : ConnectionResponse)
    (hSuccess : r.status = .SUCCESS) (cmds : List (Message × RpcOutcome)) (outcome : DisconnectOutcome) :
    ∃ connect s requests effects d,
      (⟨"", false, ∅, newSessionEnv url (some headers)⟩ : CallSession).authenticate (.response r) = some connect ∧
      connect.request = some ⟨url, headers, ∅, ∅⟩ ∧
      connect.effects = .register :: r.transmissions.map .transmit ∧
      connect.session.runCommands cmds = some (s, requests, effects) ∧
      requests.map rpcOf = (run ⟨∅⟩ cmds).2.map Prod.fst ∧
      (∀ q ∈ requests, q.connectionIdentifiers = r.identifiers) ∧
      requests.map readsOf =
        (Store.empty.patchConnection (contents (connectState r))).reads (run ⟨∅⟩ cmds).2 ∧
      s.disconnectNow outcome = some (d, controllerDisconnect outcome) ∧
      d.identifiers = r.identifiers ∧ d.subscriptions = subscriptionsList (run ⟨∅⟩ cmds).1.subscriptions ∧
      contents d.env.cstate =
        ((run ⟨∅⟩ cmds).2.foldl Store.apply (Store.empty.patchConnection (contents (connectState r)))).connection ∧
      ∀ id, Encodes (d.env.istate.lookup id)
        (((run ⟨∅⟩ cmds).2.foldl Store.apply (Store.empty.patchConnection (contents (connectState r)))).channel id) := by
  have hReady := newSessionEnv_ready url headers
  obtain ⟨env, hAuth, hPatched⟩ :=
    CallSession.authenticate_accepted ⟨"", false, ∅, newSessionEnv url (some headers)⟩ hReady r hSuccess
  rw [ofEnv_newSessionEnv] at hPatched
  let connected : CallSession := ⟨r.identifiers, true, ∅, env⟩
  obtain ⟨s, requests, effects, hRun, hCommands⟩ := connected.runCommands_spec cmds hPatched.ready
  obtain ⟨d, hDisconnect, hIds, hSubs, -, -, hConnection, hChannels⟩ :=
    s.disconnectNow_spec outcome hCommands.patched.ready
  have hFinal := hCommands.patched.store
  rw [show Store.ofEnv connected.env = _ from hPatched.store] at hFinal
  rw [hFinal] at hConnection hChannels
  refine ⟨_, s, requests, effects, d, hAuth, ?_, rfl, hRun, hCommands.rpcs, fun q hq => (hCommands.carry q hq).1,
    by rw [hCommands.reads, show Store.ofEnv connected.env = _ from hPatched.store], hDisconnect,
    hIds.trans hCommands.identifiers, hSubs.trans (by rw [hCommands.subscriptions]), hConnection, hChannels⟩
  rw [newConnectMessage_eq rfl rfl]
  rfl

theorem session_states_chat :
    (⟨.SUCCESS, "alice", ["welcome"], "", none⟩ : ConnectionResponse).status = .SUCCESS ∧
      ∃ connect, (⟨"", false, ∅, newSessionEnv "ws://demo" (some ∅)⟩ : CallSession).authenticate
        (.response ⟨.SUCCESS, "alice", ["welcome"], "", none⟩) = some connect := by
  obtain ⟨connect, -, -, -, -, hAuth, -⟩ := session_states "ws://demo" ∅ ⟨.SUCCESS, "alice", ["welcome"], "", none⟩
    rfl [(⟨"subscribe", "chat", .other "<nil>"⟩, .response rejection)] (.response ⟨.SUCCESS, ""⟩)
  exact ⟨rfl, connect, hAuth⟩

end AnyCable.Node
