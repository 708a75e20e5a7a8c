import AnyCable.Lib.Chan
import AnyCable.Lib.Transition
import Mathlib.Data.List.Perm.Basic
import Mathlib.Tactic.Ring

/-! # The delayed-disconnect queue

`DisconnectQueue` (`node/disconnect_queue.go`): `Enqueue` puts a session on the
buffered channel `disconnect` unless the queue is stopped; `Run` takes one,
waits for the throttle tick and calls `Node.DisconnectNow`; `Shutdown` marks the
queue stopped, signals `Run` on the buffered `shutdown` channel, samples
`len(d.disconnect)` once and drains that many sessions itself.

Each mutex-protected section and each channel operation is one atomic step.
Sessions are numbered; `DisconnectNow` is taken to succeed, and the timeout of
`Shutdown` may fire at any point of its drain.

A session leaves the channel once, so it is passed to `DisconnectNow` at most
as often as it was accepted (`count_passed_le`). But `Run` may hold a dequeued
session across the throttle tick while `Shutdown` samples an empty channel and
returns nil (`shutdown_returns_before_pass`).
-/

namespace AnyCable.Node
set_option autoImplicit false

def disconnectQueueCap : Nat := 4096

inductive RunPc where
  | idle
  | holding (session : Nat)
  | stopped
  deriving DecidableEq

inductive ShutdownPc where
  | start
  | sampling
  | draining (left : Nat)
  | returned (err : Option String)
  deriving DecidableEq

def RunPc.held : RunPc → List Nat
  | .holding session => [session]
  | _ => []

structure Queue where
  disconnect : GoChan.Chan Nat
  shutdown : GoChan.Chan Unit
  isStopped : Bool
  run : RunPc
  shutdowns : List ShutdownPc
  accepted : List Nat
  passed : List Nat
  deriving DecidableEq

/-- `NewDisconnectQueue` with `Run` started. -/
def queueStart : Queue := ⟨GoChan.make disconnectQueueCap, GoChan.make 1, false, .idle, [], [], []⟩

def timeoutError (q : Queue) : String :=
  "Had no time to invoke Disconnect calls: " ++ toString (GoChan.len q.disconnect)

inductive QueueStep : Queue → Queue → Prop
  | enqueue (q : Queue) (session : Nat) (c : GoChan.Chan Nat) (hLive : q.isStopped = false)
      (hSend : GoChan.send q.disconnect session = some c) :
      QueueStep q { q with disconnect := c, accepted := q.accepted ++ [session] }
  | runTake (q : Queue) (session : Nat) (c : GoChan.Chan Nat) (hIdle : q.run = .idle)
      (hRecv : GoChan.recv q.disconnect = some (session, c)) :
      QueueStep q { q with disconnect := c, run := .holding session }
  | runTick (q : Queue) (session : Nat) (hHolding : q.run = .holding session) :
      QueueStep q { q with run := .idle, passed := q.passed ++ [session] }
  | runStop (q : Queue) (c : GoChan.Chan Unit) (hIdle : q.run = .idle)
      (hRecv : GoChan.recv q.shutdown = some ((), c)) :
      QueueStep q { q with shutdown := c, run := .stopped }
  | shutdownCall (q : Queue) : QueueStep q { q with shutdowns := .start :: q.shutdowns }
  | shutdownAgain (q : Queue) (hPc : .start ∈ q.shutdowns) (hStopped : q.isStopped = true) :
      QueueStep q { q with shutdowns := .returned none :: q.shutdowns.erase .start }
  | shutdownFirst (q : Queue) (c : GoChan.Chan Unit) (hPc : .start ∈ q.shutdowns)
      (hLive : q.isStopped = false) (hSend : GoChan.send q.shutdown () = some c) :
      QueueStep q
        { q with isStopped := true, shutdown := c, shutdowns := .sampling :: q.shutdowns.erase .start }
  | shutdownSample (q : Queue) (hPc : .sampling ∈ q.shutdowns) :
      QueueStep q
        { q with shutdowns :=
            (if GoChan.len q.disconnect = 0 then .returned none
              else .draining (GoChan.len q.disconnect)) :: q.shutdowns.erase .sampling }
  | shutdownDrain (q : Queue) (left session : Nat) (c : GoChan.Chan Nat)
      (hPc : .draining left ∈ q.shutdowns) (hRecv : GoChan.recv q.disconnect = some (session, c)) :
      QueueStep q
        { q with disconnect := c, passed := q.passed ++ [session],
                 shutdowns := (if left - 1 = 0 then .returned none else .draining (left - 1)) ::
                   q.shutdowns.erase (.draining left) }
  | shutdownTimeout (q : Queue) (left : Nat) (hPc : .draining left ∈ q.shutdowns) :
      QueueStep q
        { q with shutdowns := .returned (some (timeoutError q)) :: q.shutdowns.erase (.draining left) }

/-! ### No session is passed twice -/

def Conserves (q : Queue) : Prop :=
  (q.passed ++ q.run.held ++ q.disconnect.buf).Perm q.accepted

theorem conserves_step (q q' : Queue) (hCons : Conserves q) (hStep : QueueStep q q') : Conserves q' := by
  unfold Conserves at hCons ⊢
  cases hStep with
  | enqueue session c _ hSend =>
    obtain ⟨-, -, hBuf⟩ := (GoChan.send_eq_some_iff _ _ _).mp hSend
    rw [hBuf, ← List.append_assoc]
    exact hCons.append_right [session]
  | runTake session c hIdle hRecv =>
    obtain ⟨hBuf, -⟩ := (GoChan.recv_eq_some_iff _ _ _).mp hRecv
    rw [hBuf, hIdle] at hCons
    simpa [RunPc.held] using hCons
  | runTick session hHolding =>
    rw [hHolding] at hCons
    simpa [RunPc.held] using hCons
  | runStop c hIdle => rw [hIdle] at hCons; simpa [RunPc.held] using hCons
  | shutdownCall => exact hCons
  | shutdownAgain => exact hCons
  | shutdownFirst => exact hCons
  | shutdownSample => exact hCons
  | shutdownDrain left session c _ hRecv =>
    obtain ⟨hBuf, -⟩ := (GoChan.recv_eq_some_iff _ _ _).mp hRecv
    rw [hBuf] at hCons
    have hMid : List.Perm (session :: (q.run.held ++ c.buf)) (q.run.held ++ session :: c.buf) :=
      List.perm_middle.symm
    have hAll := (hMid.append_left q.passed).trans (by simpa only [List.append_assoc] using hCons)
    simpa only [List.append_assoc, List.singleton_append, List.cons_append, List.nil_append] using hAll
  | shutdownTimeout => exact hCons

theorem conserves_run (q : Queue) (hRun : Relation.ReflTransGen QueueStep queueStart q) : Conserves q :=
  Transition.invariant (show Conserves queueStart from List.Perm.refl _)
    (fun q q' hCons hStep => conserves_step q q' hCons hStep) hRun

/-- Each session is passed to `DisconnectNow` at most as often as `Enqueue`
accepted it. -/
theorem count_passed_le (q : Queue) (hRun : Relation.ReflTransGen QueueStep queueStart q)
    (session : Nat) : Conserves q ∧ q.passed.count session ≤ q.accepted.count session := by
  have hCons := conserves_run q hRun
  refine ⟨hCons, ?_⟩
  rw [← hCons.count_eq session, List.count_append, List.count_append]
  omega

def drainedQueue : Queue :=
  ⟨GoChan.make disconnectQueueCap, ⟨1, [()], by decide⟩, true, .idle, [.returned none], [7, 8], [7, 8]⟩

theorem count_passed_le_drained :
    Relation.ReflTransGen QueueStep queueStart drainedQueue ∧
      Conserves drainedQueue ∧ drainedQueue.passed.count 8 ≤ drainedQueue.accepted.count 8 :=
  have hRun : Relation.ReflTransGen QueueStep queueStart drainedQueue :=
    (((((((Relation.ReflTransGen.single (QueueStep.enqueue queueStart 7 _ rfl rfl)).tail
      (QueueStep.enqueue _ 8 _ rfl rfl)).tail (QueueStep.runTake _ 7 _ rfl rfl)).tail
      (QueueStep.runTick _ 7 rfl)).tail (QueueStep.shutdownCall _)).tail
      (QueueStep.shutdownFirst _ _ (by decide) rfl rfl)).tail (QueueStep.shutdownSample _ (by decide))).tail
      (QueueStep.shutdownDrain _ 1 8 _ (by decide) rfl)
  ⟨hRun, count_passed_le drainedQueue hRun 8⟩

/-! ### `Shutdown` returns before the session `Run` holds is passed -/

/-- Session 7 is accepted and `Run` takes it; a `Shutdown` then samples an
empty channel and returns nil while `Run` waits for the throttle tick, and only
after that does `Run` pass session 7 to `DisconnectNow`. -/
theorem shutdown_returns_before_pass :
    ∃ q, Relation.ReflTransGen QueueStep queueStart q ∧ ShutdownPc.returned none ∈ q.shutdowns ∧
      7 ∈ q.accepted ∧ 7 ∉ q.passed ∧ ∃ q', QueueStep q q' ∧ q'.passed = [7] := by
  have hRun := ((((Relation.ReflTransGen.single (QueueStep.enqueue queueStart 7 _ rfl rfl)).tail
    (QueueStep.runTake _ 7 _ rfl rfl)).tail (QueueStep.shutdownCall _)).tail
    (QueueStep.shutdownFirst _ _ (by decide) rfl rfl)).tail (QueueStep.shutdownSample _ (by decide))
  exact ⟨_, hRun, by decide, by decide, by decide, _, QueueStep.runTick _ 7 rfl, rfl⟩

/-! ### The throttle period

`NewDisconnectQueue` sets `d.rate` to
`time.Millisecond * time.Duration(1000/config.Rate)`, a `time.Duration` in
nanoseconds, and `Run` starts `time.NewTicker(d.rate)`. `Run` takes one tick
before each `DisconnectNow` (`runTick`), so over `t` nanoseconds it makes at
most as many calls as the ticker fired ticks, and as many when sessions keep
waiting. `--disconnect_rate` reaches `config.Rate` unchecked.
-/

def goDiv (a b : Int) : Except String Int :=
  if b = 0 then .error "runtime error: integer divide by zero" else .ok (a.tdiv b)

def millisecond : Int := 1000000

def second : Int := 1000000000

/-- `d.rate` as `NewDisconnectQueue` computes it from `config.Rate`. -/
def rateDuration (rate : Int) : Except String Int := do
  let q ← goDiv 1000 rate
  return millisecond * q

/-- `time.NewTicker(d)`: a period of `d` nanoseconds, or its panic. -/
def newTicker (d : Int) : Except String Int :=
  if d ≤ 0 then .error "non-positive interval for NewTicker" else .ok d

def runTicker (rate : Int) : Except String Int := rateDuration rate >>= newTicker

def ticksBy (d t : Int) : Int := t / d

theorem rateDuration_of_pos (rate : Int) (h : 0 < rate) :
    rateDuration rate = .ok (millisecond * (1000 / rate)) := by
  have hq : (1000 : Int).tdiv rate = 1000 / rate := Int.tdiv_eq_ediv_of_nonneg (by norm_num)
  simp [rateDuration, goDiv, h.ne', hq]

theorem runTicker_of_lt (rate : Int) (h : 1000 < rate) :
    runTicker rate = .error "non-positive interval for NewTicker" := by
  have hz : 1000 / rate = 0 := Int.ediv_eq_zero_of_lt (by norm_num) h
  rw [runTicker, rateDuration_of_pos rate (by omega), hz]
  rfl

theorem runTicker_of_le (rate : Int) (h0 : 0 < rate) (h : rate ≤ 1000) :
    runTicker rate = .ok (millisecond * (1000 / rate)) := by
  have hq : 1 ≤ 1000 / rate := Int.le_ediv_of_mul_le h0 (by omega)
  have hPos : ¬ millisecond * (1000 / rate) ≤ 0 := by unfold millisecond; omega
  rw [runTicker, rateDuration_of_pos rate h0]
  exact if_neg hPos

theorem mul_quotient_eq_iff (rate : Int) : rate * (1000 / rate) = 1000 ↔ rate ∣ 1000 := by
  have hSplit := Int.mul_ediv_add_emod 1000 rate
  rw [Int.dvd_iff_emod_eq_zero]
  omega

theorem mul_quotient_le (rate : Int) (h0 : 0 < rate) : rate * (1000 / rate) ≤ 1000 := by
  have hSplit := Int.mul_ediv_add_emod 1000 rate
  have hMod := Int.emod_nonneg 1000 h0.ne'
  omega

theorem ticksBy_period (q : Int) (hq : 0 < q) : ticksBy (millisecond * q) (q * second) = 1000 := by
  unfold ticksBy millisecond second
  rw [show q * 1000000000 = 1000000 * q * 1000 by ring]
  exact Int.mul_ediv_cancel_left _ (by omega)

/-- Above 1000 calls per second the period truncates to zero and `Run`'s
`time.NewTicker` panics. At a rate that does not divide 1000 the period is
short of `1000/Rate` ms: over `1000/Rate` seconds the ticker fires 1000 times,
where the documented limit allows `Rate * (1000/Rate) < 1000` calls. -/
theorem throttle_exceeds_rate :
    (∀ rate : Int, 1000 < rate → runTicker rate = .error "non-positive interval for NewTicker") ∧
    (∀ rate : Int, 0 < rate → rate ≤ 1000 → ¬ rate ∣ 1000 →
      ∃ d, runTicker rate = .ok d ∧ d * rate < second ∧
        ticksBy d (1000 / rate * second) = 1000 ∧ rate * (1000 / rate) < 1000) := by
  refine ⟨runTicker_of_lt, ?_⟩
  intro rate h0 h hNotDvd
  have hLt : rate * (1000 / rate) < 1000 :=
    lt_of_le_of_ne (mul_quotient_le rate h0) (fun hEq => hNotDvd ((mul_quotient_eq_iff rate).mp hEq))
  have hq : 1 ≤ 1000 / rate := Int.le_ediv_of_mul_le h0 (by omega)
  refine ⟨_, runTicker_of_le rate h0 h, ?_, ticksBy_period _ (by omega), hLt⟩
  calc millisecond * (1000 / rate) * rate = millisecond * (rate * (1000 / rate)) := by ring
    _ < second := by unfold millisecond second; omega

theorem throttle_exceeds_rate_at_1001_and_3 :
    runTicker 1001 = .error "non-positive interval for NewTicker" ∧
      ∃ d, runTicker 3 = .ok d ∧ d * 3 < second ∧ ticksBy d (1000 / 3 * second) = 1000 ∧
        3 * (1000 / 3 : Int) < 1000 :=
  ⟨throttle_exceeds_rate.1 1001 (by decide),
    throttle_exceeds_rate.2 3 (by decide) (by decide) (by decide)⟩

end AnyCable.Node
