import AnyCable.Common

/-! # Channel subscriptions of one session

`Node.Subscribe`, `Node.Unsubscribe` and `Node.Perform` (`node/node.go`) guard
the controller with the set `s.subscriptions`, and update it on the error value
the controller returns. Since `ParseCommandResponse` answers a rejection
(status FAILURE) with a nil error, a rejected identifier is recorded as
subscribed: the law of the set is "the last subscribe RPC of the identifier was
answered without error and no unsubscribe RPC has since succeeded"
(`mem_run_subscriptions_iff`), which differs from the confirmed subscriptions.
-/

namespace AnyCable.Node
open Common GoMap
set_option autoImplicit false

/-- `common.Message.Data` as `Perform` sees it: a JSON string or another value,
kept by how `%v` prints it. -/
inductive MessageData where
  | string (s : String)
  | other (printed : String)
  deriving DecidableEq

structure Message where
  command : String
  identifier : String
  data : MessageData
  deriving DecidableEq

structure CommandMessage where
  command : String
  identifier : String
  data : String
  deriving DecidableEq

structure Session where
  subscriptions : Map String Bool

structure Handled where
  session : Session
  res : Option CommandResult
  err : Error
  rpc : Option CommandMessage

/-- `Node.Subscribe`; `answer` is what the controller returns if it is called. -/
def subscribe (answer : RpcOutcome) (s : Session) (msg : Message) : Handled :=
  if msg.identifier ∈ s.subscriptions then
    ⟨s, none, some ("Already subscribed to " ++ msg.identifier), none⟩
  else
    let rpc : CommandMessage := ⟨"subscribe", msg.identifier, ""⟩
    match controllerReply answer with
    | (res, some e) => ⟨s, res, some e, some rpc⟩
    | (res, none) => ⟨⟨s.subscriptions.insert msg.identifier true⟩, res, none, some rpc⟩

/-- `Node.Unsubscribe`; a successful reply is forced to stop all streams. -/
def unsubscribe (answer : RpcOutcome) (s : Session) (msg : Message) : Handled :=
  if msg.identifier ∉ s.subscriptions then
    ⟨s, none, some ("Unknown subscription " ++ msg.identifier), none⟩
  else
    let rpc : CommandMessage := ⟨"unsubscribe", msg.identifier, ""⟩
    match controllerReply answer with
    | (res, some e) => ⟨s, res, some e, some rpc⟩
    | (res, none) =>
      ⟨⟨s.subscriptions.erase msg.identifier⟩, res.map ({ · with stopAllStreams := true }), none,
        some rpc⟩

def perform (answer : RpcOutcome) (s : Session) (msg : Message) : Handled :=
  if msg.identifier ∉ s.subscriptions then
    ⟨s, none, some ("Unknown subscription " ++ msg.identifier), none⟩
  else
    match msg.data with
    | .other printed => ⟨s, none, some ("Perform data must be a string, got " ++ printed), none⟩
    | .string data =>
      let (res, err) := controllerReply answer
      ⟨s, res, err, some ⟨"message", msg.identifier, data⟩⟩

def handleCommand (answer : RpcOutcome) (s : Session) (msg : Message) : Handled :=
  if msg.command = "subscribe" then subscribe answer s msg
  else if msg.command = "unsubscribe" then unsubscribe answer s msg
  else if msg.command = "message" then perform answer s msg
  else ⟨s, none, some ("Unknown command: " ++ msg.command), none⟩

/-- `subscriptionsList`: the identifiers `DisconnectNow` reports to the controller. -/
def subscriptionsList (m : Map String Bool) : List String := m.keys

/-- `Node.DisconnectNow`: the subscriptions passed to `controller.Disconnect`. -/
def disconnectNow (s : Session) : List String := subscriptionsList s.subscriptions

/-! ### What one command does to the set -/

def Accepts (id : String) (e : CommandMessage × RpcOutcome) : Prop :=
  e.1 = ⟨"subscribe", id, ""⟩ ∧ (controllerReply e.2).2 = none

def Touches (id : String) (e : CommandMessage × RpcOutcome) : Prop :=
  e.1 = ⟨"subscribe", id, ""⟩ ∨ (e.1 = ⟨"unsubscribe", id, ""⟩ ∧ (controllerReply e.2).2 = none)

instance (id : String) (e : CommandMessage × RpcOutcome) : Decidable (Accepts id e) := by
  unfold Accepts; infer_instance

instance (id : String) (e : CommandMessage × RpcOutcome) : Decidable (Touches id e) := by
  unfold Touches; infer_instance

def run (s : Session) : List (Message × RpcOutcome) → Session × List (CommandMessage × RpcOutcome)
  | [] => (s, [])
  | (msg, answer) :: rest =>
    let h := handleCommand answer s msg
    let (s', log) := run h.session rest
    (s', (h.rpc.map (·, answer)).toList ++ log)

def LastTouch (id : String) (prev : Prop) (log : List (CommandMessage × RpcOutcome)) : Prop :=
  match (log.filter (fun e => decide (Touches id e))).getLast? with
  | some e => Accepts id e
  | none => prev

theorem lastTouch_nil (id : String) (prev : Prop) : LastTouch id prev [] ↔ prev := Iff.rfl

theorem lastTouch_append (id : String) (prev : Prop) (l₀ l₁ : List (CommandMessage × RpcOutcome)) :
    LastTouch id (LastTouch id prev l₀) l₁ ↔ LastTouch id prev (l₀ ++ l₁) := by
  unfold LastTouch
  rw [List.filter_append, List.getLast?_append]
  cases (l₁.filter (fun e => decide (Touches id e))).getLast? <;> simp

theorem lastTouch_single (id : String) (prev : Prop) (e : CommandMessage × RpcOutcome) :
    LastTouch id prev [e] ↔ if Touches id e then Accepts id e else prev := by
  unfold LastTouch
  by_cases h : Touches id e <;> simp [h]

section Step
variable (answer : RpcOutcome) (s : Session) (msg : Message) (id : String)

def KeepsLaw (h : Handled) : Prop :=
  id ∈ h.session.subscriptions ↔ LastTouch id (id ∈ s.subscriptions) (h.rpc.map (·, answer)).toList

theorem keepsLaw_of_silent (h : Handled) (hSession : h.session = s) (hRpc : h.rpc = none) :
    KeepsLaw answer s id h := by
  rw [KeepsLaw, hSession, hRpc]
  rfl

theorem subscribe_keepsLaw : KeepsLaw answer s id (subscribe answer s msg) := by
  unfold subscribe
  split
  · exact keepsLaw_of_silent answer s id _ rfl rfl
  · rename_i hNew
    rcases hReply : controllerReply answer with ⟨res, _ | e⟩
    · by_cases hId : id = msg.identifier
      · subst hId
        simp [KeepsLaw, lastTouch_single, Touches, Accepts, hReply]
      · simp [KeepsLaw, lastTouch_single, Touches, hReply, Ne.symm hId, AList.mem_insert, hId]
    · by_cases hId : id = msg.identifier
      · subst hId
        simp [KeepsLaw, lastTouch_single, Touches, Accepts, hReply, hNew]
      · simp [KeepsLaw, lastTouch_single, Touches, hReply, Ne.symm hId]

theorem unsubscribe_keepsLaw : KeepsLaw answer s id (unsubscribe answer s msg) := by
  unfold unsubscribe
  split
  · exact keepsLaw_of_silent answer s id _ rfl rfl
  · rcases hReply : controllerReply answer with ⟨res, _ | e⟩
    · by_cases hId : id = msg.identifier
      · subst hId
        simp [KeepsLaw, lastTouch_single, Touches, Accepts, hReply]
      · simp [KeepsLaw, lastTouch_single, Touches, hReply, Ne.symm hId, hId]
    · simp [KeepsLaw, lastTouch_single, Touches, hReply]

theorem perform_keepsLaw : KeepsLaw answer s id (perform answer s msg) := by
  unfold perform
  split
  · exact keepsLaw_of_silent answer s id _ rfl rfl
  · split
    · exact keepsLaw_of_silent answer s id _ rfl rfl
    · simp [KeepsLaw, lastTouch_single, Touches]

theorem mem_handleCommand_iff :
    id ∈ (handleCommand answer s msg).session.subscriptions ↔
      LastTouch id (id ∈ s.subscriptions) ((handleCommand answer s msg).rpc.map (·, answer)).toList := by
  unfold handleCommand
  split
  · exact subscribe_keepsLaw answer s msg id
  · split
    · exact unsubscribe_keepsLaw answer s msg id
    · split
      · exact perform_keepsLaw answer s msg id
      · exact keepsLaw_of_silent answer s id _ rfl rfl

end Step

/-- The law of `s.subscriptions` over a whole run. -/
theorem mem_run_subscriptions_iff (s : Session) (cmds : List (Message × RpcOutcome)) (id : String) :
    id ∈ (run s cmds).1.subscriptions ↔ LastTouch id (id ∈ s.subscriptions) (run s cmds).2 := by
  induction cmds generalizing s with
  | nil => exact (lastTouch_nil id _).symm
  | cons cmd rest ih =>
    obtain ⟨msg, answer⟩ := cmd
    rw [run, ih, ← lastTouch_append, ← mem_handleCommand_iff]

def rejection : CommandResponse :=
  { status := .FAILURE, disconnect := false, stopStreams := false, streams := [],
    transmissions := [], errorMsg := "", env := none, stoppedStreams := [] }

def rejectedSubscribe : Handled :=
  handleCommand (.response rejection) ⟨∅⟩ ⟨"subscribe", "chat", .other "<nil>"⟩

/-- A rejected subscribe returns no error and is recorded: a retry is refused as
already subscribed, a perform on it reaches the controller, and
`DisconnectNow` reports it. -/
theorem rejected_subscription_recorded :
    rejectedSubscribe.err = none ∧ rejectedSubscribe.res.map CommandResult.status = some .FAILURE ∧
      "chat" ∈ rejectedSubscribe.session.subscriptions ∧
      (handleCommand (.response rejection) rejectedSubscribe.session
        ⟨"subscribe", "chat", .other "<nil>"⟩).err = some "Already subscribed to chat" ∧
      (handleCommand (.response rejection) rejectedSubscribe.session
        ⟨"message", "chat", .string "speak"⟩).rpc = some ⟨"message", "chat", "speak"⟩ ∧
      disconnectNow rejectedSubscribe.session = ["chat"] := by
  decide

end AnyCable.Node
