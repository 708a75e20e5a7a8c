import AnyCable.Lib.Chan
import AnyCable.Lib.Transition
import AnyCable.Metrics.Registry

/-! # Concurrent RPC calls

Every RPC method of `rpc.Controller` (`Authenticate`, `Subscribe`,
`Unsubscribe`, `Perform`, `Disconnect`; `rpc/rpc.go`) makes its call inside the
same frame: it increments the gauge `rpc_pending_num`, takes a token from
`c.sem`, decrements the gauge, and sends the token back in a deferred function
when it returns. `Start` fills `c.sem` with `Concurrency` tokens
(`initSemaphore`), and `busy()` is `Concurrency - len(c.sem)`. The sessions'
goroutines call the controller at once, so the frames interleave; each channel
operation and each gauge update is one atomic step.

The tokens are conserved (`Accounted`). So `busy()` is the number of calls
holding a token, at most `Concurrency` calls reach the server at once, a call
waits for a token exactly when `busy()` has reached `Concurrency`, the gauge
counts the calls between their `Inc` and their `Dec` (modulo 2^64), and the
deferred send of a token never blocks (`calls_run`).
-/

namespace AnyCable.Rpc
open Metrics
set_option autoImplicit false

/-- `initSemaphore(capacity)`: `make` and `capacity` sends. -/
def initSemaphore (capacity : Nat) : Option (GoChan.Chan Unit) :=
  (List.replicate capacity ()).foldlM GoChan.send (GoChan.make capacity)

inductive CallPc where
  | pending
  | acquired
  | calling
  deriving DecidableEq

structure Calls where
  concurrency : Nat
  sem : GoChan.Chan Unit
  pending : Gauge
  calls : List CallPc

/-- `busy()`, in Go's `int`. -/
def busy (c : Calls) : Int := c.concurrency - GoChan.len c.sem

inductive CallStep : Calls → Calls → Prop
  | enter (c : Calls) : CallStep c { c with pending := c.pending.inc, calls := .pending :: c.calls }
  | acquire (c : Calls) (sem : GoChan.Chan Unit) (hPc : .pending ∈ c.calls)
      (hRecv : GoChan.recv c.sem = some ((), sem)) :
      CallStep c { c with sem, calls := .acquired :: c.calls.erase .pending }
  | decrement (c : Calls) (hPc : .acquired ∈ c.calls) :
      CallStep c { c with pending := c.pending.dec, calls := .calling :: c.calls.erase .acquired }
  | release (c : Calls) (sem : GoChan.Chan Unit) (hPc : .calling ∈ c.calls)
      (hSend : GoChan.send c.sem () = some sem) :
      CallStep c { c with sem, calls := c.calls.erase .calling }

theorem initSemaphore_eq (capacity : Nat) :
    ∃ sem, initSemaphore capacity = some sem ∧ sem.cap = capacity ∧ GoChan.len sem = capacity := by
  obtain ⟨sem, hFold, hCap, hLen⟩ := GoChan.foldlM_send_replicate capacity () (GoChan.make capacity) (by simp [GoChan.len])
  exact ⟨sem, hFold, hCap, by simpa [GoChan.len] using hLen⟩

/-! ## The tokens are conserved -/

/-- Every token is in `c.sem` or held by a call, and the gauge counts the calls
that incremented it and have not yet decremented it. -/
structure Accounted (c : Calls) : Prop where
  cap : c.sem.cap = c.concurrency
  tokens : GoChan.len c.sem + c.calls.count .acquired + c.calls.count .calling = c.concurrency
  gauge : c.pending.Counts (c.calls.count .pending + c.calls.count .acquired)

theorem count_move {a b : CallPc} (l : List CallPc) (ha : a ∈ l) (hab : a ≠ b) :
    (b :: l.erase a).count a + 1 = l.count a ∧ (b :: l.erase a).count b = l.count b + 1 := by
  have hPos := List.count_pos_iff.mpr ha
  refine ⟨?_, ?_⟩
  · rw [List.count_cons_of_ne hab.symm, List.count_erase_self]
    omega
  · rw [List.count_cons_self, List.count_erase_of_ne hab.symm]

theorem accounted_step {c c' : Calls} (hAcc : Accounted c) (hStep : CallStep c c') : Accounted c' := by
  obtain ⟨hCap, hTokens, hGauge⟩ := hAcc
  cases hStep with
  | enter =>
    refine ⟨hCap, ?_, ?_⟩
    · simpa [List.count_cons] using hTokens
    · have hCounts := Gauge.counts_inc hGauge
      simpa [List.count_cons, Nat.add_right_comm] using hCounts
  | acquire sem hPc hRecv =>
    obtain ⟨hLen, hCap'⟩ := GoChan.len_of_recv hRecv
    obtain ⟨hPending, hAcquired⟩ := count_move c.calls hPc (b := .acquired) (by decide)
    have hCalling : (CallPc.acquired :: c.calls.erase .pending).count .calling = c.calls.count .calling := by
      rw [List.count_cons_of_ne (by decide), List.count_erase_of_ne (by decide)]
    refine ⟨hCap'.trans hCap, by simp only; omega, ?_⟩
    have hSum : (CallPc.acquired :: c.calls.erase .pending).count .pending +
        (CallPc.acquired :: c.calls.erase .pending).count .acquired =
          c.calls.count .pending + c.calls.count .acquired := by omega
    simpa only [hSum] using hGauge
  | decrement hPc =>
    obtain ⟨hAcquired, hCalling⟩ := count_move c.calls hPc (b := .calling) (by decide)
    have hPending : (CallPc.calling :: c.calls.erase .acquired).count .pending = c.calls.count .pending := by
      rw [List.count_cons_of_ne (by decide), List.count_erase_of_ne (by decide)]
    refine ⟨hCap, by simp only; omega, ?_⟩
    have hSum : c.calls.count .pending + c.calls.count .acquired =
        ((CallPc.calling :: c.calls.erase .acquired).count .pending +
          (CallPc.calling :: c.calls.erase .acquired).count .acquired) + 1 := by omega
    exact Gauge.counts_dec (hSum ▸ hGauge)
  | release sem hPc hSend =>
    obtain ⟨hLen, hCap'⟩ := GoChan.len_of_send hSend
    have hPos := List.count_pos_iff.mpr hPc
    have hCalling := List.count_erase_self (a := CallPc.calling) (l := c.calls)
    have hAcquired : (c.calls.erase .calling).count .acquired = c.calls.count .acquired :=
      List.count_erase_of_ne (by decide)
    have hPending : (c.calls.erase .calling).count .pending = c.calls.count .pending :=
      List.count_erase_of_ne (by decide)
    refine ⟨hCap'.trans hCap, by simp only; omega, ?_⟩
    simpa only [hAcquired, hPending] using hGauge

theorem concurrency_step {c c' : Calls} (hStep : CallStep c c') : c'.concurrency = c.concurrency := by
  cases hStep <;> rfl

theorem busy_eq {c : Calls} (hAcc : Accounted c) :
    busy c = c.calls.count .acquired + c.calls.count .calling := by
  have hTokens := hAcc.tokens
  unfold busy
  omega

/-- In every interleaving of calls on a started controller: `busy()` is the
number of calls holding a token and at most `Concurrency`; a call waiting at
`<-c.sem` can take a token exactly when `busy()` is below `Concurrency`;
`rpc_pending_num` counts the calls between their `Inc` and their `Dec`, modulo
2^64; and a call holding a token can always send it back. -/
theorem calls_run (concurrency : Nat) (sem : GoChan.Chan Unit) (hInit : initSemaphore concurrency = some sem)
    (c : Calls) (hRun : Relation.ReflTransGen CallStep ⟨concurrency, sem, newGauge, []⟩ c) :
    busy c = c.calls.count .acquired + c.calls.count .calling ∧
      c.calls.count .acquired + c.calls.count .calling ≤ concurrency ∧
      ((∃ sem', GoChan.recv c.sem = some ((), sem')) ↔ busy c < concurrency) ∧
      c.pending.Counts (c.calls.count .pending + c.calls.count .acquired) ∧
      (.calling ∈ c.calls → ∃ sem', GoChan.send c.sem () = some sem') := by
  obtain ⟨sem₀, hInit₀, hCap₀, hLen₀⟩ := initSemaphore_eq concurrency
  rw [hInit] at hInit₀
  cases hInit₀
  have hStart : Accounted ⟨concurrency, sem, newGauge, []⟩ :=
    ⟨hCap₀, by simpa using hLen₀, Gauge.counts_newGauge⟩
  obtain ⟨hConcurrency, hAcc⟩ := Transition.invariant (I := fun c => c.concurrency = concurrency ∧ Accounted c)
    ⟨rfl, hStart⟩ (fun _ _ h hStep => ⟨(concurrency_step hStep).trans h.1, accounted_step h.2 hStep⟩) hRun
  have hBusy := busy_eq hAcc
  have hTokens := hAcc.tokens
  have hCap := hAcc.cap
  rw [hConcurrency] at hTokens hCap
  refine ⟨hBusy, by omega, ?_, hAcc.gauge, ?_⟩
  · rw [hBusy]
    constructor
    · rintro ⟨sem', hRecv⟩
      have hPos := (GoChan.exists_recv_iff c.sem).mp ⟨(), sem', hRecv⟩
      omega
    · intro hLt
      obtain ⟨_, sem', hRecv⟩ := (GoChan.exists_recv_iff c.sem).mpr (by omega)
      exact ⟨sem', hRecv⟩
  · intro hHolds
    have hPos := List.count_pos_iff.mpr hHolds
    exact (GoChan.exists_send_iff c.sem ()).mpr (by omega)

def oneCallingOneWaiting : Calls := ⟨1, ⟨1, [], by decide⟩, ⟨1⟩, [.calling, .pending]⟩

theorem calls_run_one_waiting :
    initSemaphore 1 = some ⟨1, [()], by decide⟩ ∧
      Relation.ReflTransGen CallStep ⟨1, ⟨1, [()], by decide⟩, newGauge, []⟩ oneCallingOneWaiting ∧
      busy oneCallingOneWaiting =
          oneCallingOneWaiting.calls.count .acquired + oneCallingOneWaiting.calls.count .calling ∧
        oneCallingOneWaiting.calls.count .acquired + oneCallingOneWaiting.calls.count .calling ≤ 1 ∧
        ((∃ sem', GoChan.recv oneCallingOneWaiting.sem = some ((), sem')) ↔ busy oneCallingOneWaiting < 1) ∧
        oneCallingOneWaiting.pending.Counts
          (oneCallingOneWaiting.calls.count .pending + oneCallingOneWaiting.calls.count .acquired) ∧
        (.calling ∈ oneCallingOneWaiting.calls → ∃ sem', GoChan.send oneCallingOneWaiting.sem () = some sem') :=
  have hInit : initSemaphore 1 = some ⟨1, [()], by decide⟩ := rfl
  have hRun : Relation.ReflTransGen CallStep ⟨1, ⟨1, [()], by decide⟩, newGauge, []⟩ oneCallingOneWaiting :=
    (((Relation.ReflTransGen.single (CallStep.enter _)).tail (CallStep.enter _)).tail
      (CallStep.acquire _ _ (by decide) rfl)).tail (CallStep.decrement _ (by decide))
  ⟨hInit, hRun, calls_run 1 _ hInit _ hRun⟩

end AnyCable.Rpc
