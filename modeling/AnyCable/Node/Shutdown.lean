import AnyCable.Lib.Chan
import AnyCable.Lib.Transition
import Mathlib.Logic.Function.Basic

/-! # Closing the sessions after the hub has stopped

`Node.Shutdown` (`node/node.go`) first stops the hub loop, then walks the
registered sessions and calls `Session.Disconnect` on each. For a session that
is still `Connected`, `disconnectFromNode` clears the flag under the session
mutex and then calls `Node.Disconnect`, whose `Hub.RemoveSession` sends on
`h.register`. Nothing receives from that channel any more, so once its 2048
slots are taken every further send waits forever. The read and write loops of
the sessions may run `disconnectFromNode` concurrently; whichever goroutine
clears a flag is the one that sends.

Sessions are numbered `0, …, n - 1` in the order of the close loop. The
`Enqueue` on the disconnect queue that follows each send is left out: that
queue still has its consumer.
-/

namespace AnyCable.Node
set_option autoImplicit false

def registerCap : Nat := 2048

structure Closing where
  register : GoChan.Chan Nat
  connected : Nat → Bool
  loop : Nat
  sending : Option Nat
  others : List Nat
  returned : Bool

inductive ShutdownStep (n : Nat) : Closing → Closing → Prop
  | skip (s : Closing) (hIdle : s.sending = none) (hLoop : s.loop < n)
      (hOff : s.connected s.loop = false) : ShutdownStep n s { s with loop := s.loop + 1 }
  | clear (s : Closing) (hIdle : s.sending = none) (hLoop : s.loop < n)
      (hOn : s.connected s.loop = true) :
      ShutdownStep n s
        { s with connected := Function.update s.connected s.loop false, sending := some s.loop }
  | deliver (s : Closing) (i : Nat) (c : GoChan.Chan Nat) (hSending : s.sending = some i)
      (hSend : GoChan.send s.register i = some c) :
      ShutdownStep n s { s with register := c, sending := none, loop := s.loop + 1 }
  | finish (s : Closing) (hIdle : s.sending = none) (hDone : s.loop = n) (hLive : s.returned = false) :
      ShutdownStep n s { s with returned := true }
  | otherClear (s : Closing) (j : Nat) (hj : j < n) (hOn : s.connected j = true) :
      ShutdownStep n s
        { s with connected := Function.update s.connected j false, others := j :: s.others }
  | otherDeliver (s : Closing) (j : Nat) (c : GoChan.Chan Nat) (hj : j ∈ s.others)
      (hSend : GoChan.send s.register j = some c) :
      ShutdownStep n s { s with register := c, others := s.others.erase j }

def closingStart (n : Nat) : Closing :=
  ⟨GoChan.make registerCap, fun j => decide (j < n), 0, none, [], false⟩

/-! ### `Shutdown` alone fills the channel -/

/-- `Shutdown` at session `i` with the first `i` removals in the channel and
nobody else disconnecting. -/
def atLoop (n i : Nat) (hi : i ≤ registerCap) : Closing :=
  ⟨⟨registerCap, List.range i, by simpa using hi⟩, fun j => decide (i ≤ j ∧ j < n), i, none, [],
    false⟩

theorem closingStart_eq_atLoop (n : Nat) : closingStart n = atLoop n 0 (Nat.zero_le _) := by
  simp [closingStart, atLoop, GoChan.make]

theorem atLoop_succ (n i : Nat) (hi : i < registerCap) (hin : i < n) :
    Relation.ReflTransGen (ShutdownStep n) (atLoop n i (Nat.le_of_lt hi)) (atLoop n (i + 1) hi) := by
  have hOn : (atLoop n i (Nat.le_of_lt hi)).connected i = true := by simp [atLoop, hin]
  have hSend : GoChan.send (atLoop n i (Nat.le_of_lt hi)).register i = some (atLoop n (i + 1) hi).register := by
    simp [atLoop, GoChan.send, hi, List.range_succ]
  have hCleared : Function.update (atLoop n i (Nat.le_of_lt hi)).connected i false =
      (atLoop n (i + 1) hi).connected := by
    funext j
    by_cases hj : j = i
    · subst hj
      rw [Function.update_self]
      exact (decide_eq_false (by omega)).symm
    · simp only [atLoop, Function.update, hj, dite_false, decide_eq_decide]
      omega
  have hClear : ShutdownStep n (atLoop n i (Nat.le_of_lt hi))
      { atLoop n i (Nat.le_of_lt hi) with connected := (atLoop n (i + 1) hi).connected, sending := some i } := by
    rw [← hCleared]
    exact ShutdownStep.clear _ rfl hin hOn
  have hDeliver : ShutdownStep n
      { atLoop n i (Nat.le_of_lt hi) with connected := (atLoop n (i + 1) hi).connected, sending := some i }
      (atLoop n (i + 1) hi) :=
    ShutdownStep.deliver _ i _ rfl hSend
  exact (Relation.ReflTransGen.single hClear).tail hDeliver

theorem reach_atLoop (n i : Nat) (hi : i ≤ registerCap) (hin : i ≤ n) :
    Relation.ReflTransGen (ShutdownStep n) (closingStart n) (atLoop n i hi) := by
  induction i with
  | zero => rw [closingStart_eq_atLoop]
  | succ i ih => exact (ih (by omega) (by omega)).trans (atLoop_succ n i hi (by omega))

/-- `Shutdown` has cleared the flag of session `registerCap` and waits to send
its removal on the full channel. -/
def blocked (n : Nat) : Closing :=
  { atLoop n registerCap (Nat.le_refl _) with
    connected := Function.update (atLoop n registerCap (Nat.le_refl _)).connected registerCap false
    sending := some registerCap }

/-- `Shutdown` waits on a full channel and has not returned. -/
def Stuck (s : Closing) : Prop :=
  s.sending = some registerCap ∧ s.returned = false ∧ GoChan.len s.register = s.register.cap

theorem stuck_step (n : Nat) (s s' : Closing) (hStuck : Stuck s) (hStep : ShutdownStep n s s') :
    Stuck s' := by
  obtain ⟨hSending, hLive, hFull⟩ := hStuck
  have hNoRoom := fun x => (GoChan.send_eq_none_iff s.register x).mpr hFull
  cases hStep with
  | skip hIdle => simp [hSending] at hIdle
  | clear hIdle => simp [hSending] at hIdle
  | deliver i c _ hSend => simp [hNoRoom] at hSend
  | finish hIdle => simp [hSending] at hIdle
  | otherClear j => exact ⟨hSending, hLive, hFull⟩
  | otherDeliver j c _ hSend => simp [hNoRoom] at hSend

/-- With more registered sessions than `h.register` has slots, the run in which
`Shutdown` closes the first `registerCap` sessions alone leaves it waiting on
the removal of the next one, and from there it waits forever and never returns,
whatever the other goroutines do. -/
theorem shutdown_blocks_forever (n : Nat) (hn : registerCap < n) :
    ∃ s, Relation.ReflTransGen (ShutdownStep n) (closingStart n) s ∧ s.sending = some registerCap ∧
      ∀ t, Relation.ReflTransGen (ShutdownStep n) s t → t.sending = some registerCap ∧ t.returned = false := by
  have hClear : ShutdownStep n (atLoop n registerCap (Nat.le_refl _)) (blocked n) :=
    ShutdownStep.clear _ rfl hn (by simp [atLoop, hn])
  have hStuck : Stuck (blocked n) := ⟨rfl, rfl, by simp [blocked, atLoop, GoChan.len]⟩
  refine ⟨blocked n, (reach_atLoop n registerCap (Nat.le_refl _) (Nat.le_of_lt hn)).tail hClear, rfl, fun t hRun => ?_⟩
  have hStuckT := Transition.invariant hStuck (fun s s' h hs => stuck_step n s s' h hs) hRun
  exact ⟨hStuckT.1, hStuckT.2.1⟩

theorem shutdown_blocks_forever_2049 :
    registerCap < 2049 ∧
      ∃ s, Relation.ReflTransGen (ShutdownStep 2049) (closingStart 2049) s ∧
        s.sending = some registerCap ∧
        ∀ t, Relation.ReflTransGen (ShutdownStep 2049) s t →
          t.sending = some registerCap ∧ t.returned = false :=
  ⟨by decide, shutdown_blocks_forever 2049 (by decide)⟩

end AnyCable.Node
