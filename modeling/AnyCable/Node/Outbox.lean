import AnyCable.Lib.Transition
import Mathlib.Data.List.Infix

/-! # The frames a session sends

`Session.sendFrame` (`node/session.go`) puts a frame into the buffered channel
`sendCh` under the session mutex, and `SendMessages` writes the frames it takes
from the channel to the connection, one after another. A frame is dropped when
`sendCh` is nil. When the buffer is full, `sendFrame` closes the channel and
sets it to nil, so that every later frame is dropped too. `SendMessages` stops
at the first write that fails, at a close frame (`writeFrame` closes the
connection with it), or when the closed channel is drained. Two writes bypass
the channel: `disconnectNow` writes its close frame directly, and the ping timer
writes each ping directly. Once a close frame is sent, `conn.Close` has closed
the connection, and every later write fails.

The senders (`Send`, `SendJSONTransmission`, the close frame of
`Session.Disconnect`), `SendMessages`, the ping timer and the read loop run at
once, and each step below is one atomic section of one of them; a
`disconnectNow` or a `Disconnect` may come at any point.

The frames sent from the channel are always, in order, a prefix of the frames
offered to `sendFrame`: a client never receives a frame after missing an
earlier one. Nothing is sent after a close frame (`outbox_run`).
-/

namespace AnyCable.Node
set_option autoImplicit false

def sendChCap : Nat := 256

/-- `ws.SentFrame` by its `FrameType`. -/
inductive Frame where
  | text (payload : List Char)
  | binary (payload : List Char)
  | close (code : Nat) (reason : String)
  deriving DecidableEq

def Frame.isClose : Frame → Bool
  | .close _ _ => true
  | _ => false

inductive Written where
  | queued (f : Frame)
  | ping
  | closeNow (code : Nat) (reason : String)
  deriving DecidableEq

def Written.queuedFrame : Written → Option Frame
  | .queued f => some f
  | _ => none

def Written.closes : Written → Bool
  | .queued f => f.isClose
  | .ping => false
  | .closeNow _ _ => true

structure Outbox where
  sendCh : Bool
  buf : List Frame
  closed : Bool
  writing : Bool
  connOpen : Bool
  offered : List Frame
  taken : List Frame
  sent : List Written
  deriving DecidableEq

/-- `NewSession`: `sendCh` made and `SendMessages` started. -/
def outboxStart : Outbox := ⟨true, [], false, true, true, [], [], []⟩

/-- `conn.Close` with a close frame: sent on an open connection, which it
closes; on a closed one the write fails. -/
def Outbox.connClose (o : Outbox) (w : Written) : Outbox :=
  if o.connOpen then { o with connOpen := false, sent := o.sent ++ [w] } else o

inductive OutboxStep : Outbox → Outbox → Prop
  | drop (o : Outbox) (f : Frame) (hNil : o.sendCh = false) :
      OutboxStep o { o with offered := o.offered ++ [f] }
  | enqueue (o : Outbox) (f : Frame) (hCh : o.sendCh = true) (hRoom : o.buf.length < sendChCap) :
      OutboxStep o { o with buf := o.buf ++ [f], offered := o.offered ++ [f] }
  | overflow (o : Outbox) (f : Frame) (hCh : o.sendCh = true) (hFull : sendChCap ≤ o.buf.length) :
      OutboxStep o { o with sendCh := false, closed := true, offered := o.offered ++ [f] }
  | closeNow (o : Outbox) (code : Nat) (reason : String) :
      OutboxStep o (o.connClose (.closeNow code reason))
  | closeSendCh (o : Outbox) (hCh : o.sendCh = true) :
      OutboxStep o { o with sendCh := false, closed := true }
  | ping (o : Outbox) (hOpen : o.connOpen = true) : OutboxStep o { o with sent := o.sent ++ [.ping] }
  | write (o : Outbox) (f : Frame) (rest : List Frame) (hWriting : o.writing = true) (hBuf : o.buf = f :: rest)
      (hData : f.isClose = false) (hOpen : o.connOpen = true) :
      OutboxStep o { o with buf := rest, taken := o.taken ++ [f], sent := o.sent ++ [.queued f] }
  | writeFail (o : Outbox) (f : Frame) (rest : List Frame) (hWriting : o.writing = true)
      (hBuf : o.buf = f :: rest) (hData : f.isClose = false) :
      OutboxStep o { o with buf := rest, taken := o.taken ++ [f], writing := false }
  | writeClose (o : Outbox) (code : Nat) (reason : String) (rest : List Frame) (hWriting : o.writing = true)
      (hBuf : o.buf = .close code reason :: rest) :
      OutboxStep o
        (Outbox.connClose { o with buf := rest, taken := o.taken ++ [.close code reason], writing := false }
          (.queued (.close code reason)))
  | drained (o : Outbox) (hWriting : o.writing = true) (hBuf : o.buf = []) (hClosed : o.closed = true) :
      OutboxStep o { o with writing := false }

/-! ## The frames sent are a prefix of the frames offered -/

/-- What a reachable outbox satisfies. -/
structure OutboxInv (o : Outbox) : Prop where
  channel : o.taken ++ o.buf <+: o.offered
  undropped : o.sendCh = true → o.taken ++ o.buf = o.offered
  writing : o.writing = true → o.sent.filterMap Written.queuedFrame = o.taken
  sentQueued : o.sent.filterMap Written.queuedFrame <+: o.taken
  openNoClose : o.connOpen = true → ∀ w ∈ o.sent, w.closes = false
  lastClose : ∀ w ∈ o.sent.dropLast, w.closes = false

theorem outboxInv_start : OutboxInv outboxStart :=
  ⟨List.prefix_refl _, fun _ => rfl, fun _ => rfl, List.prefix_refl _, by simp [outboxStart],
    by simp [outboxStart]⟩

theorem lastClose_append_of_open {o : Outbox} (hInv : OutboxInv o) (hOpen : o.connOpen = true) (w : Written) :
    ∀ w' ∈ (o.sent ++ [w]).dropLast, w'.closes = false := by
  rw [List.dropLast_concat]
  exact hInv.openNoClose hOpen

theorem openNoClose_append {o : Outbox} (hInv : OutboxInv o) (hOpen : o.connOpen = true) {w : Written}
    (hw : w.closes = false) : ∀ w' ∈ o.sent ++ [w], w'.closes = false := by
  intro w' hw'
  rcases List.mem_append.mp hw' with hw' | hw'
  · exact hInv.openNoClose hOpen w' hw'
  · rw [List.mem_singleton.mp hw']
    exact hw

theorem outboxInv_connClose {o : Outbox} (hInv : OutboxInv o) (w : Written)
    (hSent : o.connOpen = true → (o.sent ++ [w]).filterMap Written.queuedFrame <+: o.taken)
    (hWriting : o.connOpen = true → o.writing = true → (o.sent ++ [w]).filterMap Written.queuedFrame = o.taken) :
    OutboxInv (o.connClose w) := by
  unfold Outbox.connClose
  split
  · rename_i hOpen
    exact ⟨hInv.channel, hInv.undropped, hWriting hOpen, hSent hOpen, fun h => by simp at h,
      lastClose_append_of_open hInv hOpen w⟩
  · exact hInv

theorem filterMap_append_unqueued (l : List Written) {w : Written} (hw : w.queuedFrame = none) :
    (l ++ [w]).filterMap Written.queuedFrame = l.filterMap Written.queuedFrame := by
  simp [List.filterMap_append, hw]

theorem filterMap_append_queued (l : List Written) (f : Frame) :
    (l ++ [Written.queued f]).filterMap Written.queuedFrame = l.filterMap Written.queuedFrame ++ [f] := by
  simp [List.filterMap_append, Written.queuedFrame]

theorem outboxInv_step {o o' : Outbox} (hInv : OutboxInv o) (hStep : OutboxStep o o') : OutboxInv o' := by
  cases hStep with
  | drop f hNil =>
    exact ⟨hInv.channel.trans (List.prefix_append _ _), fun h => by simp [hNil] at h, hInv.writing,
      hInv.sentQueued, hInv.openNoClose, hInv.lastClose⟩
  | enqueue f hCh hRoom =>
    have hEq : o.taken ++ (o.buf ++ [f]) = o.offered ++ [f] := by
      rw [← List.append_assoc, hInv.undropped hCh]
    exact ⟨hEq ▸ List.prefix_refl _, fun _ => hEq, hInv.writing, hInv.sentQueued, hInv.openNoClose,
      hInv.lastClose⟩
  | overflow f hCh hFull =>
    exact ⟨hInv.channel.trans (List.prefix_append _ _), fun h => by simp at h, hInv.writing,
      hInv.sentQueued, hInv.openNoClose, hInv.lastClose⟩
  | closeNow code reason =>
    have hQueued := filterMap_append_unqueued o.sent (w := .closeNow code reason) rfl
    exact outboxInv_connClose hInv _ (fun _ => hQueued ▸ hInv.sentQueued)
      (fun _ hW => hQueued ▸ hInv.writing hW)
  | closeSendCh hCh =>
    exact ⟨hInv.channel, fun h => by simp at h, hInv.writing, hInv.sentQueued, hInv.openNoClose,
      hInv.lastClose⟩
  | ping hOpen =>
    have hQueued := filterMap_append_unqueued o.sent (w := .ping) rfl
    exact ⟨hInv.channel, hInv.undropped, fun h => hQueued ▸ hInv.writing h, hQueued ▸ hInv.sentQueued,
      fun _ => openNoClose_append hInv hOpen rfl, lastClose_append_of_open hInv hOpen .ping⟩
  | write f rest hW hBuf hData hOpen =>
    have hMove : o.taken ++ [f] ++ rest = o.taken ++ o.buf := by simp [hBuf]
    have hQueued : (o.sent ++ [Written.queued f]).filterMap Written.queuedFrame = o.taken ++ [f] := by
      rw [filterMap_append_queued, hInv.writing hW]
    exact ⟨hMove ▸ hInv.channel, fun h => hMove ▸ hInv.undropped h, fun _ => hQueued,
      hQueued ▸ List.prefix_refl _, fun _ => openNoClose_append hInv hOpen hData,
      lastClose_append_of_open hInv hOpen _⟩
  | writeFail f rest hW hBuf hData =>
    have hMove : o.taken ++ [f] ++ rest = o.taken ++ o.buf := by simp [hBuf]
    exact ⟨hMove ▸ hInv.channel, fun h => hMove ▸ hInv.undropped h, fun h => by simp at h,
      hInv.sentQueued.trans (List.prefix_append _ _), hInv.openNoClose, hInv.lastClose⟩
  | writeClose code reason rest hW hBuf =>
    have hMove : o.taken ++ [.close code reason] ++ rest = o.taken ++ o.buf := by simp [hBuf]
    have hTaken : OutboxInv { o with buf := rest, taken := o.taken ++ [Frame.close code reason], writing := false } :=
      ⟨hMove ▸ hInv.channel, fun h => hMove ▸ hInv.undropped h, fun h => by simp at h,
        hInv.sentQueued.trans (List.prefix_append _ _), hInv.openNoClose, hInv.lastClose⟩
    refine outboxInv_connClose hTaken _ (fun _ => ?_) (fun _ h => by simp at h)
    show (o.sent ++ [Written.queued (.close code reason)]).filterMap Written.queuedFrame <+: o.taken ++ [.close code reason]
    rw [filterMap_append_queued, hInv.writing hW]
  | drained hW hBuf hClosed =>
    exact ⟨hInv.channel, hInv.undropped, fun h => by simp at h, hInv.sentQueued, hInv.openNoClose,
      hInv.lastClose⟩

/-- In every interleaving of a session's senders, its write loop, its ping
timer and its disconnect paths, the frames sent from `sendCh` are, in order, a
prefix of the frames offered to `sendFrame`, and nothing is sent after a close
frame. -/
theorem outbox_run (o : Outbox) (hRun : Relation.ReflTransGen OutboxStep outboxStart o) :
    o.sent.filterMap Written.queuedFrame <+: o.offered ∧ ∀ w ∈ o.sent.dropLast, w.closes = false := by
  have hInv := Transition.invariant outboxInv_start (fun _ _ h hStep => outboxInv_step h hStep) hRun
  exact ⟨hInv.sentQueued.trans ((List.prefix_append _ _).trans hInv.channel), hInv.lastClose⟩

def outboxAfterDisconnect : Outbox :=
  ⟨false, [], true, false, false, [.text ['a'], .text ['b'], .text ['c']], [.text ['a'], .text ['b']],
    [.queued (.text ['a']), .ping, .closeNow 1006 "Read failed"]⟩

theorem outbox_run_after_disconnect :
    Relation.ReflTransGen OutboxStep outboxStart outboxAfterDisconnect ∧
      outboxAfterDisconnect.sent.filterMap Written.queuedFrame <+: outboxAfterDisconnect.offered ∧
      ∀ w ∈ outboxAfterDisconnect.sent.dropLast, w.closes = false :=
  have hRun : Relation.ReflTransGen OutboxStep outboxStart outboxAfterDisconnect :=
    (((((((Relation.ReflTransGen.single (OutboxStep.enqueue outboxStart (.text ['a']) rfl (by decide))).tail
      (OutboxStep.enqueue _ (.text ['b']) rfl (by decide))).tail
      (OutboxStep.write _ (.text ['a']) [.text ['b']] rfl rfl rfl rfl)).tail (OutboxStep.ping _ rfl)).tail
      (OutboxStep.closeNow _ 1006 "Read failed")).tail (OutboxStep.closeSendCh _ rfl)).tail
      (OutboxStep.drop _ (.text ['c']) rfl)).tail (OutboxStep.writeFail _ (.text ['b']) [] rfl rfl rfl)
  ⟨hRun, outbox_run _ hRun⟩

end AnyCable.Node
