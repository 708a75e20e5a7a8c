import AnyCable.Lib.Transition
import Mathlib.Data.List.Basic

/-! # A session's registration and disconnect paths

One session, with each mutex-protected section of `node/session.go` and
`node/node.go` as one atomic step. `Node.Authenticate` sets `Connected` after
the controller answers, without the session mutex, and then registers the
session synchronously with `hub.addSession`. Every disconnect path runs
`disconnectFromNode`, which clears `Connected` under the mutex and, if it was
set, calls `Node.Disconnect`; that queues a removal on `h.register`, which the
hub loop applies later and ignores for an unregistered UID.

`NewSession` starts the ping timer and the write loop before `Authenticate`,
and `Serve` starts the read loop only after it returned: while it runs, a
failed ping can call `Session.Disconnect`, and the write loop can fail only on
the close frame that call queues. Command replies, remote disconnects and
`Shutdown` reach registered sessions only.

The flag makes `Node.Disconnect` happen at most once
(`disconnectCalls_le_one`), and the nil check on `sendCh` makes its close
happen at most once (`sendChCloses_le_one`). But a ping failure between the two
steps of `Authenticate` unregisters nothing, and the session it disconnected is
then registered for good (`registered_after_disconnect`).

The session's UID is its own; `close()` changes nothing here.
-/

namespace AnyCable.Node
set_option autoImplicit false

inductive PathPc where
  | start (now : Bool)
  | nodeDisconnect (now : Bool)
  | finish (now : Bool)
  deriving DecidableEq

inductive AuthPc where
  | calling
  | succeeded
  | done
  deriving DecidableEq

structure Lifecycle where
  auth : AuthPc
  connected : Bool
  registered : Bool
  pendingRemovals : Nat
  paths : List PathPc
  sendChOpen : Bool
  closeQueued : Bool
  disconnectCalls : Nat
  sendChCloses : Nat
  deriving DecidableEq

/-- `NewSession`, before `Authenticate`. -/
def sessionStart : Lifecycle := ⟨.calling, false, false, 0, [], true, false, 0, 0⟩

inductive LifecycleStep : Lifecycle → Lifecycle → Prop
  | authSucceed (s : Lifecycle) (hAuth : s.auth = .calling) :
      LifecycleStep s { s with auth := .succeeded, connected := true }
  | authRegister (s : Lifecycle) (hAuth : s.auth = .succeeded) :
      LifecycleStep s { s with auth := .done, registered := true }
  | authFail (s : Lifecycle) (hAuth : s.auth = .calling) :
      LifecycleStep s { s with auth := .done, paths := .start false :: s.paths }
  | spawnDisconnect (s : Lifecycle) : LifecycleStep s { s with paths := .start false :: s.paths }
  | spawnNow (s : Lifecycle) (hLoop : s.auth = .done ∨ s.closeQueued = true) :
      LifecycleStep s { s with paths := .start true :: s.paths }
  | fromNodeOn (s : Lifecycle) (now : Bool) (hPc : .start now ∈ s.paths) (hOn : s.connected = true) :
      LifecycleStep s
        { s with connected := false, paths := .nodeDisconnect now :: s.paths.erase (.start now) }
  | fromNodeOff (s : Lifecycle) (now : Bool) (hPc : .start now ∈ s.paths)
      (hOff : s.connected = false) :
      LifecycleStep s { s with paths := .finish now :: s.paths.erase (.start now) }
  | nodeDisconnect (s : Lifecycle) (now : Bool) (hPc : .nodeDisconnect now ∈ s.paths) :
      LifecycleStep s
        { s with disconnectCalls := s.disconnectCalls + 1, pendingRemovals := s.pendingRemovals + 1,
                 paths := .finish now :: s.paths.erase (.nodeDisconnect now) }
  | finishNow (s : Lifecycle) (hPc : .finish true ∈ s.paths) :
      LifecycleStep s
        { s with paths := s.paths.erase (.finish true), sendChOpen := false,
                 sendChCloses := s.sendChCloses + if s.sendChOpen then 1 else 0 }
  | finishDisconnect (s : Lifecycle) (hPc : .finish false ∈ s.paths) :
      LifecycleStep s
        { s with paths := s.paths.erase (.finish false), closeQueued := s.closeQueued || s.sendChOpen }
  | overflow (s : Lifecycle) (hOpen : s.sendChOpen = true) (hAuth : s.auth = .done) :
      LifecycleStep s
        { s with sendChOpen := false, sendChCloses := s.sendChCloses + 1,
                 paths := .start false :: s.paths }
  | hubRemove (s : Lifecycle) (hPending : 0 < s.pendingRemovals) :
      LifecycleStep s { s with pendingRemovals := s.pendingRemovals - 1, registered := false }

/-! ### A ping failure during `Authenticate` -/

def lateRegistration : Lifecycle := ⟨.done, false, true, 0, [.finish false], true, false, 1, 0⟩

theorem reach_lateRegistration : Relation.ReflTransGen LifecycleStep sessionStart lateRegistration := by
  have hAccepted : LifecycleStep sessionStart ⟨.succeeded, true, false, 0, [], true, false, 0, 0⟩ :=
    .authSucceed _ rfl
  have hPingFails : LifecycleStep ⟨.succeeded, true, false, 0, [], true, false, 0, 0⟩
      ⟨.succeeded, true, false, 0, [.start false], true, false, 0, 0⟩ := .spawnDisconnect _
  have hCleared : LifecycleStep ⟨.succeeded, true, false, 0, [.start false], true, false, 0, 0⟩
      ⟨.succeeded, false, false, 0, [.nodeDisconnect false], true, false, 0, 0⟩ :=
    .fromNodeOn _ false (by decide) rfl
  have hRemoval : LifecycleStep ⟨.succeeded, false, false, 0, [.nodeDisconnect false], true, false, 0, 0⟩
      ⟨.succeeded, false, false, 1, [.finish false], true, false, 1, 0⟩ := .nodeDisconnect _ false (by decide)
  have hIgnored : LifecycleStep ⟨.succeeded, false, false, 1, [.finish false], true, false, 1, 0⟩
      ⟨.succeeded, false, false, 0, [.finish false], true, false, 1, 0⟩ := .hubRemove _ (by decide)
  have hRegistered : LifecycleStep ⟨.succeeded, false, false, 0, [.finish false], true, false, 1, 0⟩
      lateRegistration := .authRegister _ rfl
  exact (Relation.ReflTransGen.single hAccepted).tail hPingFails |>.tail hCleared |>.tail hRemoval
    |>.tail hIgnored |>.tail hRegistered

theorem reach_closedAfterLateRegistration :
    Relation.ReflTransGen LifecycleStep sessionStart ⟨.done, false, true, 0, [], false, true, 1, 1⟩ := by
  have hQueued : LifecycleStep lateRegistration ⟨.done, false, true, 0, [], true, true, 1, 0⟩ :=
    .finishDisconnect _ (by decide)
  have hWriteFails : LifecycleStep ⟨.done, false, true, 0, [], true, true, 1, 0⟩
      ⟨.done, false, true, 0, [.start true], true, true, 1, 0⟩ := .spawnNow _ (Or.inl rfl)
  have hFlagClear : LifecycleStep ⟨.done, false, true, 0, [.start true], true, true, 1, 0⟩
      ⟨.done, false, true, 0, [.finish true], true, true, 1, 0⟩ := .fromNodeOff _ true (by decide) rfl
  have hClosed : LifecycleStep ⟨.done, false, true, 0, [.finish true], true, true, 1, 0⟩
      ⟨.done, false, true, 0, [], false, true, 1, 1⟩ := .finishNow _ (by decide)
  exact reach_lateRegistration.tail hQueued |>.tail hWriteFails |>.tail hFlagClear |>.tail hClosed

/-! ### At most one `Node.Disconnect`, at most one close -/

def PathPc.IsNodeDisconnect : PathPc → Bool
  | .nodeDisconnect _ => true
  | _ => false

def disconnectBudget (s : Lifecycle) : Nat :=
  s.disconnectCalls + s.paths.countP PathPc.IsNodeDisconnect + s.connected.toNat +
    (decide (s.auth = .calling)).toNat

def closeBudget (s : Lifecycle) : Nat := s.sendChCloses + s.sendChOpen.toNat

theorem countP_erase_add {α : Type} [DecidableEq α] (p : α → Bool) {l : List α} {a : α}
    (ha : a ∈ l) : (l.erase a).countP p + (if p a then 1 else 0) = l.countP p := by
  rw [(List.perm_cons_erase ha).countP_eq p, List.countP_cons]

theorem countP_erase_of_not (l : List PathPc) (pc : PathPc) (hPc : pc ∈ l)
    (hNot : pc.IsNodeDisconnect = false) :
    (l.erase pc).countP PathPc.IsNodeDisconnect = l.countP PathPc.IsNodeDisconnect := by
  simpa [hNot] using countP_erase_add PathPc.IsNodeDisconnect hPc

theorem countP_erase_nodeDisconnect (l : List PathPc) (now : Bool) (hPc : .nodeDisconnect now ∈ l) :
    (l.erase (.nodeDisconnect now)).countP PathPc.IsNodeDisconnect + 1 =
      l.countP PathPc.IsNodeDisconnect := by
  simpa [PathPc.IsNodeDisconnect] using countP_erase_add PathPc.IsNodeDisconnect hPc

theorem budgets_step (s s' : Lifecycle) (hStep : LifecycleStep s s') :
    disconnectBudget s' ≤ disconnectBudget s ∧ closeBudget s' ≤ closeBudget s := by
  cases hStep with
  | authSucceed hAuth => simp [disconnectBudget, closeBudget, hAuth]
  | authRegister hAuth => simp [disconnectBudget, closeBudget, hAuth]
  | authFail hAuth => simp [disconnectBudget, closeBudget, hAuth, PathPc.IsNodeDisconnect]
  | spawnDisconnect => simp [disconnectBudget, closeBudget, PathPc.IsNodeDisconnect]
  | spawnNow => simp [disconnectBudget, closeBudget, PathPc.IsNodeDisconnect]
  | fromNodeOn now hPc hOn =>
    have hCount := countP_erase_of_not s.paths _ hPc rfl
    simp [disconnectBudget, closeBudget, List.countP_cons, PathPc.IsNodeDisconnect, hOn, hCount]
    omega
  | fromNodeOff now hPc hOff =>
    have hCount := countP_erase_of_not s.paths _ hPc rfl
    simp [disconnectBudget, closeBudget, PathPc.IsNodeDisconnect, hCount]
  | nodeDisconnect now hPc =>
    have hCount := countP_erase_nodeDisconnect s.paths now hPc
    simp [disconnectBudget, closeBudget, PathPc.IsNodeDisconnect]
    omega
  | finishNow hPc =>
    have hCount := countP_erase_of_not s.paths _ hPc rfl
    simp only [disconnectBudget, closeBudget, hCount]
    cases s.sendChOpen <;> simp
  | finishDisconnect hPc =>
    have hCount := countP_erase_of_not s.paths _ hPc rfl
    simp [disconnectBudget, closeBudget, hCount]
  | overflow hOpen => simp [disconnectBudget, closeBudget, hOpen, PathPc.IsNodeDisconnect]
  | hubRemove hPending => simp [disconnectBudget, closeBudget]

theorem budgets_run (s t : Lifecycle) (hRun : Relation.ReflTransGen LifecycleStep s t) :
    disconnectBudget t ≤ disconnectBudget s ∧ closeBudget t ≤ closeBudget s := by
  induction hRun with
  | refl => exact ⟨Nat.le_refl _, Nat.le_refl _⟩
  | tail _ hStep ih =>
    obtain ⟨hDisconnect, hClose⟩ := budgets_step _ _ hStep
    exact ⟨Nat.le_trans hDisconnect ih.1, Nat.le_trans hClose ih.2⟩

/-- `Node.Disconnect(s)`, and with it the RPC `Disconnect`, is made at most once. -/
theorem disconnectCalls_le_one (t : Lifecycle) (hRun : Relation.ReflTransGen LifecycleStep sessionStart t) :
    t.disconnectCalls ≤ 1 := by
  have hBudget := (budgets_run _ _ hRun).1
  have hStart : disconnectBudget sessionStart = 1 := rfl
  rw [hStart] at hBudget
  unfold disconnectBudget at hBudget
  omega

theorem disconnectCalls_le_one_after_late_registration :
    Relation.ReflTransGen LifecycleStep sessionStart ⟨.done, false, true, 0, [], false, true, 1, 1⟩ ∧
      (⟨.done, false, true, 0, [], false, true, 1, 1⟩ : Lifecycle).disconnectCalls ≤ 1 :=
  ⟨reach_closedAfterLateRegistration,
    disconnectCalls_le_one _ reach_closedAfterLateRegistration⟩

/-- `sendCh` is closed at most once. -/
theorem sendChCloses_le_one (t : Lifecycle) (hRun : Relation.ReflTransGen LifecycleStep sessionStart t) :
    t.sendChCloses ≤ 1 := by
  have hBudget := (budgets_run _ _ hRun).2
  have hStart : closeBudget sessionStart = 1 := rfl
  rw [hStart] at hBudget
  unfold closeBudget at hBudget
  omega

theorem sendChCloses_le_one_after_late_registration :
    Relation.ReflTransGen LifecycleStep sessionStart ⟨.done, false, true, 0, [], false, true, 1, 1⟩ ∧
      (⟨.done, false, true, 0, [], false, true, 1, 1⟩ : Lifecycle).sendChCloses ≤ 1 :=
  ⟨reach_closedAfterLateRegistration,
    sendChCloses_le_one _ reach_closedAfterLateRegistration⟩

/-! ### A session registered after its disconnect -/

def RegisteredForGood (s : Lifecycle) : Prop :=
  s.registered = true ∧ s.pendingRemovals = 0 ∧ s.connected = false ∧ s.auth = .done ∧
    s.paths.countP PathPc.IsNodeDisconnect = 0 ∧ s.disconnectCalls = 1

theorem registeredForGood_step (s s' : Lifecycle) (hGood : RegisteredForGood s)
    (hStep : LifecycleStep s s') : RegisteredForGood s' := by
  obtain ⟨hRegistered, hPending, hOff, hAuth, hNone, hCalls⟩ := hGood
  cases hStep with
  | authSucceed hA => simp [hAuth] at hA
  | authRegister hA => simp [hAuth] at hA
  | authFail hA => simp [hAuth] at hA
  | spawnDisconnect =>
    exact ⟨hRegistered, hPending, hOff, hAuth, by simp [PathPc.IsNodeDisconnect, hNone], hCalls⟩
  | spawnNow =>
    exact ⟨hRegistered, hPending, hOff, hAuth, by simp [PathPc.IsNodeDisconnect, hNone], hCalls⟩
  | fromNodeOn now hPc hOn => simp [hOff] at hOn
  | fromNodeOff now hPc =>
    have hCount := countP_erase_of_not s.paths _ hPc rfl
    exact ⟨hRegistered, hPending, hOff, hAuth, by simp [PathPc.IsNodeDisconnect, hCount, hNone], hCalls⟩
  | nodeDisconnect now hPc =>
    have hPos : 0 < s.paths.countP PathPc.IsNodeDisconnect := List.countP_pos_iff.mpr ⟨_, hPc, rfl⟩
    omega
  | finishNow hPc =>
    have hCount := countP_erase_of_not s.paths _ hPc rfl
    exact ⟨hRegistered, hPending, hOff, hAuth, hCount.trans hNone, hCalls⟩
  | finishDisconnect hPc =>
    have hCount := countP_erase_of_not s.paths _ hPc rfl
    exact ⟨hRegistered, hPending, hOff, hAuth, hCount.trans hNone, hCalls⟩
  | overflow hOpen =>
    exact ⟨hRegistered, hPending, hOff, hAuth, by simp [PathPc.IsNodeDisconnect, hNone], hCalls⟩
  | hubRemove hP => omega

/-- `Node.Disconnect(s)` has been made and the hub has applied every removal
queued for `s`, yet `s` is registered, and it stays registered in every
continuation of the run. -/
theorem registered_after_disconnect :
    ∃ s, Relation.ReflTransGen LifecycleStep sessionStart s ∧ s.disconnectCalls = 1 ∧
      s.pendingRemovals = 0 ∧ s.registered = true ∧
      ∀ t, Relation.ReflTransGen LifecycleStep s t → t.registered = true ∧ t.disconnectCalls = 1 := by
  refine ⟨lateRegistration, reach_lateRegistration, rfl, rfl, rfl, fun t hRun => ?_⟩
  have hGood : RegisteredForGood lateRegistration := ⟨rfl, rfl, rfl, rfl, by decide, rfl⟩
  have hGoodT := Transition.invariant hGood (fun s s' h hs => registeredForGood_step s s' h hs) hRun
  exact ⟨hGoodT.1, hGoodT.2.2.2.2.2⟩

end AnyCable.Node
