import AnyCable.Common
import AnyCable.Hub.Refinement
import AnyCable.Lib.Chan
import AnyCable.Lib.Transition
import Mathlib.Data.List.Perm.Basic

/-! # The hub requests of command replies

`Node.handleCommandReply` (`node/node.go`) turns a reply of the controller for
`msg.Identifier` into hub requests along three paths. The removals
(`StopAllStreams`, else `StoppedStreams`) are sent on the buffered channel
`h.subscribe`; the additions (`Streams`) call `Hub.subscribeSession` directly,
under `streamsMu`; the broadcasts of `handleCallReply` are sent on
`h.broadcast`. `Hub.Run` drains both channels, choosing at random among the
ready ones.

One session goroutine handles a list of replies in order while `Hub.Run`
drains. Each channel operation and each locked section is one atomic step, and
the pool task of a broadcast runs against the hub as `Hub.Run` takes it, which
is one of the schedules the pool allows. The log `applied` records the
requests in the order the hub carried them out.

Nothing is lost or duplicated and each path keeps its order
(`drained_applied`), so the drained hub stands for the relation that the hub
functions of the requests make, in some merge of the paths
(`drained_represents`). But the paths merge in any order: an addition called
directly overtakes a removal still in `h.subscribe`, so a reply that stops all
streams and starts one leaves the session unsubscribed
(`stop_and_start_unsubscribes`).
-/

namespace AnyCable.Node
open Common Hub
set_option autoImplicit false

def subscribeCap : Nat := 128

def broadcastCap : Nat := 256

inductive Request where
  | subscription (info : HubSubscription)
  | subscribeSession (sid stream identifier : String)
  | broadcast (msg : StreamMessage)
  deriving DecidableEq

inductive Path where
  | subscribe
  | direct
  | broadcast
  deriving DecidableEq

def Request.path : Request → Path
  | .subscription _ => .subscribe
  | .subscribeSession .. => .direct
  | .broadcast _ => .broadcast

/-- `handleCallReply`: its broadcasts. The connection state and the
transmissions stay with the session. -/
def handleCallReply (reply : CommandResult) : List Request :=
  reply.broadcasts.map .broadcast

/-- `handleCommandReply` for the session `sid` and `msg.Identifier`. -/
def handleCommandReply (sid identifier : String) (reply : CommandResult) : List Request :=
  (if reply.stopAllStreams then [.subscription ⟨"removeAll", sid, "", identifier⟩]
    else reply.stoppedStreams.map fun stream => .subscription ⟨"remove", sid, stream, identifier⟩) ++
  reply.streams.map (fun stream => .subscribeSession sid stream identifier) ++
  handleCallReply reply

def replyRequests (sid : String) (replies : List (String × CommandResult)) : List Request :=
  replies.flatMap fun reply => handleCommandReply sid reply.1 reply.2

def applyRequest (h : Hub) : Request → Hub
  | .subscription info => handleSubscription h info
  | .subscribeSession sid stream identifier => h.subscribeSession sid stream identifier
  | .broadcast _ => h

def broadcastsRun (h : Hub) : List Request → List (StreamMessage × Hub)
  | [] => []
  | req :: rest =>
    (match req with
      | .broadcast msg => [(msg, h)]
      | _ => []) ++ broadcastsRun (applyRequest h req) rest

def sequential (h : Hub) (sid : String) (replies : List (String × CommandResult)) : Hub :=
  (replyRequests sid replies).foldl applyRequest h

structure Replies where
  hub : Hub
  subscribe : GoChan.Chan HubSubscription
  broadcast : GoChan.Chan StreamMessage
  todo : List Request
  applied : List Request

def repliesStart (h : Hub) (sid : String) (replies : List (String × CommandResult)) : Replies :=
  ⟨h, GoChan.make subscribeCap, GoChan.make broadcastCap, replyRequests sid replies, []⟩

inductive ReplyStep : Replies → Replies → Prop
  | sendSubscription (r : Replies) (info : HubSubscription) (rest : List Request)
      (c : GoChan.Chan HubSubscription) (hTodo : r.todo = .subscription info :: rest)
      (hSend : GoChan.send r.subscribe info = some c) :
      ReplyStep r { r with subscribe := c, todo := rest }
  | callSubscribeSession (r : Replies) (sid stream identifier : String) (rest : List Request)
      (hTodo : r.todo = .subscribeSession sid stream identifier :: rest) :
      ReplyStep r
        { r with hub := r.hub.subscribeSession sid stream identifier, todo := rest,
                 applied := r.applied ++ [.subscribeSession sid stream identifier] }
  | sendBroadcast (r : Replies) (msg : StreamMessage) (rest : List Request)
      (c : GoChan.Chan StreamMessage) (hTodo : r.todo = .broadcast msg :: rest)
      (hSend : GoChan.send r.broadcast msg = some c) :
      ReplyStep r { r with broadcast := c, todo := rest }
  | runSubscription (r : Replies) (info : HubSubscription) (c : GoChan.Chan HubSubscription)
      (hRecv : GoChan.recv r.subscribe = some (info, c)) :
      ReplyStep r
        { r with hub := handleSubscription r.hub info, subscribe := c,
                 applied := r.applied ++ [.subscription info] }
  | runBroadcast (r : Replies) (msg : StreamMessage) (c : GoChan.Chan StreamMessage)
      (hRecv : GoChan.recv r.broadcast = some (msg, c)) :
      ReplyStep r { r with broadcast := c, applied := r.applied ++ [.broadcast msg] }

/-! ### Each path is a FIFO -/

def inFlight (r : Replies) : Path → List Request
  | .subscribe => r.subscribe.buf.map .subscription
  | .direct => []
  | .broadcast => r.broadcast.buf.map .broadcast

def onPath (p : Path) (l : List Request) : List Request := l.filter fun req => req.path = p

@[simp] theorem onPath_nil (p : Path) : onPath p [] = [] := rfl

@[simp] theorem onPath_append (p : Path) (l l' : List Request) :
    onPath p (l ++ l') = onPath p l ++ onPath p l' :=
  List.filter_append _ _

@[simp] theorem onPath_cons (p : Path) (req : Request) (l : List Request) :
    onPath p (req :: l) = if req.path = p then req :: onPath p l else onPath p l := by
  unfold onPath
  rw [List.filter_cons]
  simp only [decide_eq_true_eq]

/-- On each path the hub has carried out the oldest requests, the channel
holds the next ones and the session the rest; the hub is the initial one with
the log carried out. -/
structure InFlightInv (h₀ : Hub) (all : List Request) (r : Replies) : Prop where
  hub_eq : r.hub = r.applied.foldl applyRequest h₀
  fifo : ∀ p, onPath p r.applied ++ inFlight r p ++ onPath p r.todo = onPath p all

theorem fifo_send (r r' : Replies) (all : List Request) (req : Request) (rest : List Request)
    (hFifo : ∀ p, onPath p r.applied ++ inFlight r p ++ onPath p r.todo = onPath p all)
    (hTodo : r.todo = req :: rest) (hApplied : r'.applied = r.applied) (hTodo' : r'.todo = rest)
    (hIn : ∀ p, inFlight r' p = if req.path = p then inFlight r p ++ [req] else inFlight r p) :
    ∀ p, onPath p r'.applied ++ inFlight r' p ++ onPath p r'.todo = onPath p all := by
  intro p
  rw [← hFifo p, hApplied, hTodo', hIn p, hTodo, onPath_cons]
  split <;> simp

theorem fifo_call (r r' : Replies) (all : List Request) (req : Request) (rest : List Request)
    (hFifo : ∀ p, onPath p r.applied ++ inFlight r p ++ onPath p r.todo = onPath p all)
    (hTodo : r.todo = req :: rest) (hApplied : r'.applied = r.applied ++ [req])
    (hTodo' : r'.todo = rest) (hIn : ∀ p, inFlight r' p = inFlight r p)
    (hDirect : inFlight r req.path = []) :
    ∀ p, onPath p r'.applied ++ inFlight r' p ++ onPath p r'.todo = onPath p all := by
  intro p
  rw [← hFifo p, hApplied, hTodo', hIn p, hTodo, onPath_cons]
  split
  · rename_i hPath
    rw [← hPath, hDirect]
    simp [hPath]
  · simp [*]

theorem fifo_run (r r' : Replies) (all : List Request) (req : Request)
    (hFifo : ∀ p, onPath p r.applied ++ inFlight r p ++ onPath p r.todo = onPath p all)
    (hApplied : r'.applied = r.applied ++ [req]) (hTodo' : r'.todo = r.todo)
    (hIn : ∀ p, inFlight r p = if req.path = p then req :: inFlight r' p else inFlight r' p) :
    ∀ p, onPath p r'.applied ++ inFlight r' p ++ onPath p r'.todo = onPath p all := by
  intro p
  rw [← hFifo p, hApplied, hTodo', hIn p]
  split <;> simp_all

theorem inFlightInv_step (h₀ : Hub) (all : List Request) (r r' : Replies)
    (hInv : InFlightInv h₀ all r) (hStep : ReplyStep r r') : InFlightInv h₀ all r' := by
  obtain ⟨hHub, hFifo⟩ := hInv
  cases hStep with
  | sendSubscription info rest c hTodo hSend =>
    obtain ⟨-, -, hBuf⟩ := (GoChan.send_eq_some_iff _ _ _).mp hSend
    refine ⟨hHub, fifo_send r _ all _ rest hFifo hTodo rfl rfl fun p => ?_⟩
    cases p <;> simp [inFlight, Request.path, hBuf]
  | callSubscribeSession sid stream identifier rest hTodo =>
    exact ⟨by simp [hHub, applyRequest],
      fifo_call r _ all _ rest hFifo hTodo rfl rfl (fun _ => rfl) rfl⟩
  | sendBroadcast msg rest c hTodo hSend =>
    obtain ⟨-, -, hBuf⟩ := (GoChan.send_eq_some_iff _ _ _).mp hSend
    refine ⟨hHub, fifo_send r _ all _ rest hFifo hTodo rfl rfl fun p => ?_⟩
    cases p <;> simp [inFlight, Request.path, hBuf]
  | runSubscription info c hRecv =>
    obtain ⟨hBuf, -⟩ := (GoChan.recv_eq_some_iff _ _ _).mp hRecv
    refine ⟨by simp [hHub, applyRequest], fifo_run r _ all _ hFifo rfl rfl fun p => ?_⟩
    cases p <;> simp [inFlight, Request.path, hBuf]
  | runBroadcast msg c hRecv =>
    obtain ⟨hBuf, -⟩ := (GoChan.recv_eq_some_iff _ _ _).mp hRecv
    refine ⟨by simp [hHub, applyRequest], fifo_run r _ all _ hFifo rfl rfl fun p => ?_⟩
    cases p <;> simp [inFlight, Request.path, hBuf]

theorem inFlightInv_run (h₀ : Hub) (sid : String) (replies : List (String × CommandResult))
    (r : Replies) (hRun : Relation.ReflTransGen ReplyStep (repliesStart h₀ sid replies) r) :
    InFlightInv h₀ (replyRequests sid replies) r := by
  have hStart : InFlightInv h₀ (replyRequests sid replies) (repliesStart h₀ sid replies) :=
    ⟨rfl, fun p => by cases p <;> simp [repliesStart, inFlight]⟩
  exact Transition.invariant hStart (fun r r' h hs => inFlightInv_step h₀ _ r r' h hs) hRun

theorem perm_of_onPath (l l' : List Request) (hPaths : ∀ p, onPath p l = onPath p l') :
    List.Perm l l' := by
  refine List.perm_iff_count.mpr fun req => ?_
  have hCount : ∀ l : List Request, (onPath req.path l).count req = l.count req := fun _ =>
    List.count_filter (by simp)
  rw [← hCount l, ← hCount l', hPaths]

theorem drained_applied (h₀ : Hub) (sid : String) (replies : List (String × CommandResult))
    (r : Replies) (hRun : Relation.ReflTransGen ReplyStep (repliesStart h₀ sid replies) r)
    (hTodo : r.todo = []) (hSubscribe : r.subscribe.buf = []) (hBroadcast : r.broadcast.buf = []) :
    r.hub = r.applied.foldl applyRequest h₀ ∧
      (∀ p, onPath p r.applied = onPath p (replyRequests sid replies)) ∧
      List.Perm r.applied (replyRequests sid replies) := by
  obtain ⟨hHub, hFifo⟩ := inFlightInv_run h₀ sid replies r hRun
  have hPaths : ∀ p, onPath p r.applied = onPath p (replyRequests sid replies) := by
    intro p
    rw [← hFifo p, hTodo]
    cases p <;> simp [inFlight, hSubscribe, hBroadcast]
  exact ⟨hHub, hPaths, perm_of_onPath _ _ hPaths⟩

/-! ### The relation the drained hub stands for -/

def subscriptionOp (info : HubSubscription) : Op :=
  if info.event = "add" then .subscribeSession info.session info.stream info.identifier
  else if info.event = "removeAll" then .unsubscribeSessionFromChannel info.session info.identifier
  else .unsubscribeSession info.session info.stream info.identifier

theorem apply_subscriptionOp (h : Hub) (info : HubSubscription) :
    apply h (subscriptionOp info) = handleSubscription h info := by
  unfold subscriptionOp handleSubscription
  split_ifs <;> rfl

def Request.op : Request → Option Op
  | .subscription info => some (subscriptionOp info)
  | .subscribeSession sid stream identifier => some (.subscribeSession sid stream identifier)
  | .broadcast _ => none

theorem filterMap_op_handleCommandReply (sid identifier : String) (reply : CommandResult) :
    (handleCommandReply sid identifier reply).filterMap Request.op =
      (if reply.stopAllStreams then [.unsubscribeSessionFromChannel sid identifier]
        else reply.stoppedStreams.map fun stream => .unsubscribeSession sid stream identifier) ++
      reply.streams.map fun stream => .subscribeSession sid stream identifier := by
  unfold handleCommandReply handleCallReply
  split <;> simp [List.filterMap_map, Function.comp_def, Request.op, subscriptionOp]

theorem foldl_applyRequest (h : Hub) (l : List Request) :
    l.foldl applyRequest h = run h (l.filterMap Request.op) := by
  induction l generalizing h with
  | nil => rfl
  | cons req rest ih =>
    cases req with
    | subscription info => simp [run, Request.op, applyRequest, ih, apply_subscriptionOp]
    | subscribeSession sid stream identifier => simp [run, Request.op, applyRequest, ih, apply]
    | broadcast msg => simp [Request.op, applyRequest, ih, List.filterMap_cons]

def Request.ForSession (sid : String) : Request → Prop
  | .subscription info => info.session = sid
  | .subscribeSession sid' _ _ => sid' = sid
  | .broadcast _ => True

theorem forSession_replyRequests (sid : String) (replies : List (String × CommandResult)) :
    ∀ req ∈ replyRequests sid replies, req.ForSession sid := by
  intro req hReq
  simp only [replyRequests, handleCommandReply, handleCallReply, List.mem_flatMap,
    List.mem_append, List.mem_map] at hReq
  obtain ⟨reply, -, hReq⟩ := hReq
  split at hReq <;> grind [Request.ForSession]

theorem admittedRun_of_forSession (h : Hub) (sid : String) (hReg : sid ∈ h.sessions)
    (l : List Request) (hFor : ∀ req ∈ l, req.ForSession sid) :
    AdmittedRun h (l.filterMap Request.op) := by
  induction l generalizing h with
  | nil => trivial
  | cons req rest ih =>
    have hRest : ∀ h', sid ∈ h'.sessions → AdmittedRun h' (rest.filterMap Request.op) :=
      fun h' hReg' => ih h' hReg' fun req hReq => hFor req (List.mem_cons_of_mem _ hReq)
    have hHead := hFor req List.mem_cons_self
    cases req with
    | subscription info =>
      refine ⟨?_, ?_⟩
      · unfold subscriptionOp
        split_ifs <;> simp_all [Admitted, Request.ForSession]
      · refine hRest _ ?_
        rw [apply_subscriptionOp]
        unfold handleSubscription
        split_ifs <;> simpa using hReg
    | subscribeSession sid' stream identifier =>
      simp only [Request.ForSession] at hHead
      subst hHead
      exact ⟨hReg, hRest _ (by simpa [apply] using hReg)⟩
    | broadcast msg => exact hRest h hReg

/-- Drained, the hub stands for the relation that the hub functions of its log
make of the one the initial hub stood for; the log's hub functions are those of
the replies, in a merge of the paths that keeps the order of each path. -/
theorem drained_represents (h₀ : Hub) (R₀ : Triples) (hInv : IndexInv h₀)
    (hRep : Represents h₀ R₀) (sid : String) (hReg : sid ∈ h₀.sessions)
    (replies : List (String × CommandResult)) (r : Replies)
    (hRun : Relation.ReflTransGen ReplyStep (repliesStart h₀ sid replies) r)
    (hTodo : r.todo = []) (hSubscribe : r.subscribe.buf = []) (hBroadcast : r.broadcast.buf = []) :
    Represents r.hub (absRun R₀ (r.applied.filterMap Request.op)) ∧
      (∀ p, onPath p r.applied = onPath p (replyRequests sid replies)) ∧
      List.Perm (r.applied.filterMap Request.op) ((replyRequests sid replies).filterMap Request.op) := by
  obtain ⟨hHub, hPaths, hPerm⟩ := drained_applied h₀ sid replies r hRun hTodo hSubscribe hBroadcast
  have hFor : ∀ req ∈ r.applied, req.ForSession sid := fun req hReq =>
    forSession_replyRequests sid replies req (hPerm.mem_iff.mp hReq)
  have hRefines := run_refines h₀ R₀ _ hInv hRep (admittedRun_of_forSession h₀ sid hReg _ hFor)
  rw [hHub, foldl_applyRequest]
  exact ⟨hRefines.2, hPaths, hPerm.filterMap _⟩

def stopAndStart : CommandResult :=
  { stopAllStreams := true, disconnect := false, streams := ["x"], stoppedStreams := [],
    transmissions := [], broadcasts := [⟨"x", "hi"⟩], cState := ∅, iState := ∅, status := .SUCCESS }

def connectedHub : Hub := newHub.addSession ⟨1, "s", "ids", "json"⟩

def stopAndStartDrained : Replies :=
  ⟨handleSubscription (connectedHub.subscribeSession "s" "x" "chat") ⟨"removeAll", "s", "", "chat"⟩,
    GoChan.make subscribeCap, GoChan.make broadcastCap, [],
    [.subscribeSession "s" "x" "chat", .subscription ⟨"removeAll", "s", "", "chat"⟩, .broadcast ⟨"x", "hi"⟩]⟩

theorem drained_represents_stop_and_start :
    Represents stopAndStartDrained.hub
        (absRun (absRun ∅ [.addSession ⟨1, "s", "ids", "json"⟩])
          (stopAndStartDrained.applied.filterMap Request.op)) ∧
      (∀ p, onPath p stopAndStartDrained.applied = onPath p (replyRequests "s" [("chat", stopAndStart)])) ∧
      List.Perm (stopAndStartDrained.applied.filterMap Request.op)
        ((replyRequests "s" [("chat", stopAndStart)]).filterMap Request.op) := by
  have hRefines := run_refines newHub ∅ [.addSession ⟨1, "s", "ids", "json"⟩] indexInv_newHub
    represents_newHub (by decide)
  have hRun : Relation.ReflTransGen ReplyStep (repliesStart connectedHub "s" [("chat", stopAndStart)])
      stopAndStartDrained :=
    ((((Relation.ReflTransGen.single
      (ReplyStep.sendSubscription (repliesStart connectedHub "s" [("chat", stopAndStart)])
        ⟨"removeAll", "s", "", "chat"⟩ _ _ rfl rfl)).tail
      (ReplyStep.callSubscribeSession _ "s" "x" "chat" _ rfl)).tail
      (ReplyStep.sendBroadcast _ ⟨"x", "hi"⟩ [] _ rfl rfl)).tail
      (ReplyStep.runSubscription _ ⟨"removeAll", "s", "", "chat"⟩ _ rfl)).tail
      (ReplyStep.runBroadcast _ ⟨"x", "hi"⟩ _ rfl)
  exact drained_represents connectedHub _ hRefines.1 hRefines.2 "s" (by decide) _ _ hRun rfl rfl rfl

/-! ### An addition overtakes a removal -/

/-- The session sends the removal, calls `subscribeSession` for "x" and sends
the broadcast before `Hub.Run` takes anything; the removal then deletes "x"
again and the broadcast finds the session unsubscribed. Handled sequentially,
the reply leaves the session subscribed to "x" and the broadcast reaches it. -/
theorem stop_and_start_unsubscribes :
    ∃ r, Relation.ReflTransGen ReplyStep (repliesStart connectedHub "s" [("chat", stopAndStart)]) r ∧
      r.todo = [] ∧ r.subscribe.buf = [] ∧ r.broadcast.buf = [] ∧
      ¬ Subscribed r.hub.streams "x" "s" "chat" ∧
      (∀ b ∈ broadcastsRun connectedHub r.applied, ¬ Subscribed b.2.streams "x" "s" "chat") ∧
      Subscribed (sequential connectedHub "s" [("chat", stopAndStart)]).streams "x" "s" "chat" ∧
      (∀ b ∈ broadcastsRun connectedHub (replyRequests "s" [("chat", stopAndStart)]),
        Subscribed b.2.streams "x" "s" "chat") := by
  have hRun := ((((Relation.ReflTransGen.single
      (ReplyStep.sendSubscription (repliesStart connectedHub "s" [("chat", stopAndStart)])
        ⟨"removeAll", "s", "", "chat"⟩ _ _ rfl rfl)).tail
      (ReplyStep.callSubscribeSession _ "s" "x" "chat" _ rfl)).tail
      (ReplyStep.sendBroadcast _ ⟨"x", "hi"⟩ [] _ rfl rfl)).tail
      (ReplyStep.runSubscription _ ⟨"removeAll", "s", "", "chat"⟩ _ rfl)).tail
      (ReplyStep.runBroadcast _ ⟨"x", "hi"⟩ _ rfl)
  exact ⟨_, hRun, rfl, rfl, rfl, by decide, by decide, by decide, by decide⟩

end AnyCable.Node
