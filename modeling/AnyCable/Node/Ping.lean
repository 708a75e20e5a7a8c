import AnyCable.Lib.Transition
import Mathlib.Algebra.Order.BigOperators.Group.List
import Mathlib.Algebra.Order.Group.Nat
import Mathlib.Algebra.GroupWithZero.Nat

/-! # The ping timer

`NewSession` arms the session's ping timer (`addPing`, `node/session.go`). When
it fires, the timer runs `sendPing` in a goroutine of its own. `sendPing`
returns if the session is closed; otherwise it writes a ping and arms a new
timer, or disconnects the session if the write fails. `close()` sets `closed`
under the mutex, then stops the timer that `pingTimer` points to. The two
goroutines race. `close()` may stop a timer that has already fired while the
`sendPing` it started is past its check of `closed`. That `sendPing` then
writes a ping and arms a new timer, which fires once more and finds the session
closed.

While the session is open the chain is alive: exactly one timer is armed or
one `sendPing` runs, never two. After `close()` it writes at most one ping, and
every run of it ends with no timer armed and no `sendPing` running
(`ping_run`).
-/

namespace AnyCable.Node
set_option autoImplicit false

inductive PingTimer where
  | armed
  | fired
  | stopped
  deriving DecidableEq

inductive PingPc where
  | checking
  | writing
  | rearming
  | failing
  deriving DecidableEq

inductive CloserPc where
  | idle
  | stopping
  | done
  deriving DecidableEq

structure PingSession where
  closed : Bool
  timer : PingTimer
  pingers : List PingPc
  closer : CloserPc
  lateWrites : Nat
  deriving DecidableEq

/-- `NewSession`'s `addPing()`. -/
def pingStart : PingSession := ⟨false, .armed, [], .idle, 0⟩

/-- `Timer.Stop`: an armed timer never fires; a fired one has started its goroutine. -/
def PingTimer.stop : PingTimer → PingTimer
  | .armed => .stopped
  | t => t

@[simp] theorem PingTimer.stop_ne_armed (t : PingTimer) : t.stop ≠ .armed := by
  cases t <;> simp [PingTimer.stop]

inductive PingStep : PingSession → PingSession → Prop
  | fire (s : PingSession) (hArmed : s.timer = .armed) :
      PingStep s { s with timer := .fired, pingers := .checking :: s.pingers }
  | checkClosed (s : PingSession) (hPc : .checking ∈ s.pingers) (hClosed : s.closed = true) :
      PingStep s { s with pingers := s.pingers.erase .checking }
  | checkOpen (s : PingSession) (hPc : .checking ∈ s.pingers) (hOpen : s.closed = false) :
      PingStep s { s with pingers := .writing :: s.pingers.erase .checking }
  | write (s : PingSession) (hPc : .writing ∈ s.pingers) :
      PingStep s
        { s with pingers := .rearming :: s.pingers.erase .writing,
                 lateWrites := s.lateWrites + s.closed.toNat }
  | writeFail (s : PingSession) (hPc : .writing ∈ s.pingers) :
      PingStep s { s with pingers := .failing :: s.pingers.erase .writing }
  | rearm (s : PingSession) (hPc : .rearming ∈ s.pingers) :
      PingStep s { s with timer := .armed, pingers := s.pingers.erase .rearming }
  | failClosed (s : PingSession) (hPc : .failing ∈ s.pingers) (hClosed : s.closed = true) :
      PingStep s { s with pingers := s.pingers.erase .failing }
  | failClose (s : PingSession) (hPc : .failing ∈ s.pingers) (hOpen : s.closed = false) :
      PingStep s { s with closed := true, closer := .stopping, pingers := s.pingers.erase .failing }
  | close (s : PingSession) (hOpen : s.closed = false) :
      PingStep s { s with closed := true, closer := .stopping }
  | stop (s : PingSession) (hCloser : s.closer = .stopping) :
      PingStep s { s with timer := s.timer.stop, closer := .done }

/-! ## One link of the chain at a time -/

def PingSession.live (s : PingSession) : Nat :=
  s.pingers.length + if s.timer = .armed then 1 else 0

/-- The chain has at most one link, and exactly one while the session is open;
the flag and the closer agree; at most one ping is written late, and none once
a `sendPing` is about to write. -/
structure PingInv (s : PingSession) : Prop where
  single : s.live ≤ 1
  alive : s.closed = false → s.live = 1
  closer : s.closed = false ↔ s.closer = .idle
  late : s.lateWrites ≤ 1
  lateOpen : s.closed = false → s.lateWrites = 0
  lateWriting : .writing ∈ s.pingers → s.lateWrites = 0

theorem pingInv_start : PingInv pingStart where
  single := by decide
  alive _ := by decide
  closer := by decide
  late := by decide
  lateOpen _ := rfl
  lateWriting _ := rfl

theorem PingInv.eq_singleton {s : PingSession} (hInv : PingInv s) {pc : PingPc} (hPc : pc ∈ s.pingers) :
    s.pingers = [pc] ∧ s.timer ≠ .armed := by
  have hSingle := hInv.single
  unfold PingSession.live at hSingle
  match hPingers : s.pingers, hPc with
  | [pc'], hPc' =>
    have hEq : pc = pc' := by simpa using hPc'
    subst hEq
    refine ⟨rfl, fun hArmed => ?_⟩
    simp [hPingers, hArmed] at hSingle
  | _ :: _ :: _, _ =>
    simp only [hPingers, List.length_cons] at hSingle
    split at hSingle <;> omega

theorem PingInv.pingers_eq_nil {s : PingSession} (hInv : PingInv s) (hArmed : s.timer = .armed) :
    s.pingers = [] := by
  have hSingle := hInv.single
  unfold PingSession.live at hSingle
  simp only [hArmed, if_true] at hSingle
  exact List.eq_nil_of_length_eq_zero (by omega)

theorem pingInv_step {s s' : PingSession} (hInv : PingInv s) (hStep : PingStep s s') : PingInv s' := by
  have ⟨hSingle, hAlive, hCloser, hLate, hLateOpen, hLateWriting⟩ := hInv
  cases hStep with
  | fire hArmed =>
    have hNone := hInv.pingers_eq_nil hArmed
    refine ⟨?_, ?_, hCloser, hLate, hLateOpen, ?_⟩ <;> simp [PingSession.live, hNone]
  | checkClosed hPc hClosed =>
    obtain ⟨hOne, hTimer⟩ := hInv.eq_singleton hPc
    refine ⟨?_, ?_, hCloser, hLate, hLateOpen, ?_⟩ <;> simp [PingSession.live, hOne, hTimer, hClosed]
  | checkOpen hPc hOpen =>
    obtain ⟨hOne, hTimer⟩ := hInv.eq_singleton hPc
    refine ⟨?_, ?_, hCloser, hLate, hLateOpen, fun _ => hLateOpen hOpen⟩ <;>
      simp [PingSession.live, hOne, hTimer]
  | write hPc =>
    obtain ⟨hOne, hTimer⟩ := hInv.eq_singleton hPc
    have hZero := hLateWriting hPc
    refine ⟨?_, ?_, hCloser, ?_, ?_, ?_⟩
    · simp [PingSession.live, hOne, hTimer]
    · simp [PingSession.live, hOne, hTimer]
    · cases s.closed <;> simp [hZero]
    · intro hOpen
      simp only at hOpen
      simp [hZero, hOpen]
    · simp [hOne]
  | writeFail hPc =>
    obtain ⟨hOne, hTimer⟩ := hInv.eq_singleton hPc
    refine ⟨?_, ?_, hCloser, hLate, hLateOpen, ?_⟩ <;> simp [PingSession.live, hOne, hTimer]
  | rearm hPc =>
    obtain ⟨hOne, hTimer⟩ := hInv.eq_singleton hPc
    refine ⟨?_, ?_, hCloser, hLate, hLateOpen, ?_⟩ <;> simp [PingSession.live, hOne]
  | failClosed hPc hClosed =>
    obtain ⟨hOne, hTimer⟩ := hInv.eq_singleton hPc
    refine ⟨?_, ?_, hCloser, hLate, hLateOpen, ?_⟩ <;> simp [PingSession.live, hOne, hTimer, hClosed]
  | failClose hPc hOpen =>
    obtain ⟨hOne, hTimer⟩ := hInv.eq_singleton hPc
    refine ⟨?_, ?_, ?_, hLate, ?_, ?_⟩ <;> simp [PingSession.live, hOne, hTimer]
  | close hOpen =>
    refine ⟨hSingle, ?_, ?_, hLate, ?_, hLateWriting⟩ <;> simp
  | stop hStopping =>
    have hClosed : s.closed = true := by
      cases hFlag : s.closed
      · simp [hCloser.mp hFlag] at hStopping
      · rfl
    refine ⟨?_, ?_, ?_, hLate, ?_, hLateWriting⟩
    · unfold PingSession.live at hSingle ⊢
      simp only [PingTimer.stop_ne_armed, if_false]
      split at hSingle <;> omega
    all_goals simp [hClosed]

theorem pingInv_run {s : PingSession} (hRun : Relation.ReflTransGen PingStep pingStart s) : PingInv s :=
  Transition.invariant pingInv_start (fun _ _ hInv hStep => pingInv_step hInv hStep) hRun

/-! ## After `close()` the chain ends -/

def PingPc.fuel : PingPc → Nat
  | .checking => 1
  | .writing => 4
  | .rearming => 3
  | .failing => 1

def PingTimer.fuel : PingTimer → Nat
  | .armed => 2
  | _ => 0

def CloserPc.fuel : CloserPc → Nat
  | .stopping => 1
  | _ => 0

def PingSession.fuel (s : PingSession) : Nat :=
  (s.pingers.map PingPc.fuel).sum + s.timer.fuel + s.closer.fuel

theorem fuel_stop_le (t : PingTimer) : t.stop.fuel ≤ t.fuel := by
  cases t <;> simp [PingTimer.stop, PingTimer.fuel]

theorem fuel_step {s s' : PingSession} (hInv : PingInv s) (hClosed : s.closed = true) (hStep : PingStep s s') :
    s'.closed = true ∧ s'.fuel < s.fuel := by
  cases hStep with
  | fire hArmed =>
    have hNone := hInv.pingers_eq_nil hArmed
    simp [PingSession.fuel, hNone, hArmed, hClosed, PingPc.fuel, PingTimer.fuel]
  | checkClosed hPc _ | write hPc | writeFail hPc | rearm hPc | failClosed hPc _ =>
    obtain ⟨hOne, hTimer⟩ := hInv.eq_singleton hPc
    cases hT : s.timer <;> simp_all [PingSession.fuel, PingPc.fuel, PingTimer.fuel]
  | checkOpen _ hOpen | failClose _ hOpen | close hOpen => simp [hClosed] at hOpen
  | stop hStopping =>
    have hLe := fuel_stop_le s.timer
    simp only [PingSession.fuel, hStopping, CloserPc.fuel]
    exact ⟨hClosed, by omega⟩

theorem quiet_of_no_step (s : PingSession) (hClosed : s.closed = true) (hNoStep : ∀ s', ¬ PingStep s s') :
    s.pingers = [] ∧ s.timer ≠ .armed ∧ s.closer ≠ .stopping := by
  refine ⟨?_, fun hArmed => hNoStep _ (.fire s hArmed), fun hStopping => hNoStep _ (.stop s hStopping)⟩
  cases hPingers : s.pingers with
  | nil => rfl
  | cons pc rest =>
    exfalso
    have hPc : pc ∈ s.pingers := by simp [hPingers]
    cases pc with
    | checking => exact hNoStep _ (.checkClosed s hPc hClosed)
    | writing => exact hNoStep _ (.write s hPc)
    | rearming => exact hNoStep _ (.rearm s hPc)
    | failing => exact hNoStep _ (.failClosed s hPc hClosed)

/-- In every interleaving of the ping timer, its `sendPing` goroutines and
`close()` calls from any path, from `NewSession` on: at most one timer is armed
or one `sendPing` runs, and exactly one while the session is open; at most one
ping is written after `close()` set `closed`; and once it is set, every run
ends, and where none can go on no timer is armed, no `sendPing` runs and
`close()` has stopped the timer. -/
theorem ping_run (s : PingSession) (hRun : Relation.ReflTransGen PingStep pingStart s) :
    s.live ≤ 1 ∧ (s.closed = false → s.live = 1) ∧ s.lateWrites ≤ 1 ∧
      (s.closed = true → Acc (fun s' s => PingStep s s') s ∧
        ((∀ s', ¬ PingStep s s') → s.pingers = [] ∧ s.timer ≠ .armed ∧ s.closer = .done)) := by
  have hInv := pingInv_run hRun
  refine ⟨hInv.single, hInv.alive, hInv.late, fun hClosed => ⟨?_, fun hNoStep => ?_⟩⟩
  · exact Transition.terminates PingSession.fuel
      (P := fun s => PingInv s ∧ s.closed = true)
      (fun _ _ hP hStep => ⟨⟨pingInv_step hP.1 hStep, (fuel_step hP.1 hP.2 hStep).1⟩,
        (fuel_step hP.1 hP.2 hStep).2⟩) s ⟨hInv, hClosed⟩
  · obtain ⟨hNil, hTimer, hNotStopping⟩ := quiet_of_no_step s hClosed hNoStep
    have hNotIdle : s.closer ≠ .idle := fun hIdle => by simp [hInv.closer.mpr hIdle] at hClosed
    refine ⟨hNil, hTimer, ?_⟩
    cases hCloser : s.closer with
    | idle => exact absurd hCloser hNotIdle
    | stopping => exact absurd hCloser hNotStopping
    | done => rfl

theorem ping_run_late_write :
    Relation.ReflTransGen PingStep pingStart ⟨true, .fired, [.rearming], .stopping, 1⟩ ∧
      (⟨true, .fired, [.rearming], .stopping, 1⟩ : PingSession).lateWrites = 1 ∧
      Acc (fun s' s => PingStep s s') (⟨true, .fired, [.rearming], .stopping, 1⟩ : PingSession) := by
  have hRun : Relation.ReflTransGen PingStep pingStart ⟨true, .fired, [.rearming], .stopping, 1⟩ :=
    .tail (.tail (.tail (.single (.fire _ rfl)) (.checkOpen _ (by simp) rfl)) (.close _ rfl))
      (.write _ (by simp))
  exact ⟨hRun, rfl, ((ping_run _ hRun).2.2.2 rfl).1⟩

end AnyCable.Node
