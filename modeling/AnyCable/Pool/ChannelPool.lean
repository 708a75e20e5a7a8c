import AnyCable.Lib.Chan
import AnyCable.Lib.Transition
import Mathlib.Algebra.Order.Group.Multiset
import Mathlib.Tactic.Abel

/-! # The gRPC connection pool

`channelPool` (`pool/pool.go`) keeps idle connections in a buffered channel
`conns` of capacity `maxCap`. `Get` takes one, or asks the factory for a new
one when the channel is empty. Closing the `Conn` a caller got puts the
connection back (`put`), or closes it when the channel is full or the pool is
closed. `Close` sets `conns` and `factory` to nil under the lock, then closes
the channel and closes every connection still in it.

The callers run at once. `Get` reads `conns` under the lock, selects on the
channel without it, and counts the connection in `wrapConn`; `put` runs under
the lock; `Close` releases the lock before it closes the channel. A connection
is known by the index of the factory call that made it, and a caller closes
the `Conn` it got once.

In every interleaving each connection the factory made is in exactly one
place (`pool_run`): in the channel, in a `Get`, with a caller, or closed.
`Busy()` counts the callers' connections, a `put` never meets the closed
channel, and once `Close` has drained the channel and the callers have put
theirs back, every connection has been closed once. `Get` reads `c.factory`
without the lock, so a `Get` that found the channel empty after `Close` set
`factory` to nil calls nil (`get_calls_nil_factory`).
-/

namespace AnyCable.Pool
set_option autoImplicit false

abbrev Factory := Nat → Option String

inductive GetPc where
  | selecting
  | wrapping (conn : Nat)
  | panicked
  deriving DecidableEq

def GetPc.conn? : GetPc → Option Nat
  | .wrapping conn => some conn
  | _ => none

inductive ClosePc where
  | idle
  | closing
  | draining
  | done
  deriving DecidableEq

structure ChannelPool where
  conns : GoChan.Chan Nat
  connsNil : Bool
  chClosed : Bool
  factoryNil : Bool
  activeCount : Int
  calls : Nat
  closed : List Nat
  held : List Nat
  gets : List GetPc
  closer : ClosePc

def fill (factory : Factory) : Nat → ChannelPool → Option (Except String ChannelPool)
  | 0, c => some (.ok c)
  | n + 1, c =>
    match factory c.calls with
    | some err => some (.error ("factory is not able to fill the pool: " ++ err))
    | none => (GoChan.send c.conns c.calls).bind fun conns => fill factory n { c with conns, calls := c.calls + 1 }

def newChannelPool (initialCap maxCap : Int) (factory : Factory) : Option (Except String ChannelPool) :=
  if initialCap < 0 ∨ maxCap ≤ 0 ∨ initialCap > maxCap then some (.error "invalid capacity settings")
  else fill factory initialCap.toNat ⟨GoChan.make maxCap.toNat, false, false, false, 0, 0, [], [], [], .idle⟩

def busy (c : ChannelPool) : Int := c.activeCount

/-- `len(c.getConns())`; a nil channel has length 0. -/
def available (c : ChannelPool) : Nat := if c.connsNil then 0 else GoChan.len c.conns

inductive PoolStep (factory : Factory) : ChannelPool → ChannelPool → Prop
  | getConns (c : ChannelPool) (hOpen : c.connsNil = false) :
      PoolStep factory c { c with gets := .selecting :: c.gets }
  | receive (c : ChannelPool) (conn : Nat) (conns : GoChan.Chan Nat) (hPc : .selecting ∈ c.gets)
      (hRecv : GoChan.recv c.conns = some (conn, conns)) :
      PoolStep factory c { c with conns, gets := .wrapping conn :: c.gets.erase .selecting }
  | receiveNil (c : ChannelPool) (hPc : .selecting ∈ c.gets) (hClosed : c.chClosed = true)
      (hEmpty : c.conns.buf = []) :
      PoolStep factory c { c with gets := c.gets.erase .selecting }
  | nilFactory (c : ChannelPool) (hPc : .selecting ∈ c.gets) (hOpen : c.chClosed = false)
      (hEmpty : c.conns.buf = []) (hNil : c.factoryNil = true) :
      PoolStep factory c { c with gets := .panicked :: c.gets.erase .selecting }
  | factoryFails (c : ChannelPool) (err : String) (hPc : .selecting ∈ c.gets) (hOpen : c.chClosed = false)
      (hEmpty : c.conns.buf = []) (hSet : c.factoryNil = false) (hErr : factory c.calls = some err) :
      PoolStep factory c { c with calls := c.calls + 1, gets := c.gets.erase .selecting }
  | factoryMakes (c : ChannelPool) (hPc : .selecting ∈ c.gets) (hOpen : c.chClosed = false)
      (hEmpty : c.conns.buf = []) (hSet : c.factoryNil = false) (hMade : factory c.calls = none) :
      PoolStep factory c { c with calls := c.calls + 1, gets := .wrapping c.calls :: c.gets.erase .selecting }
  | wrap (c : ChannelPool) (conn : Nat) (hPc : .wrapping conn ∈ c.gets) :
      PoolStep factory c
        { c with activeCount := c.activeCount + 1, held := conn :: c.held, gets := c.gets.erase (.wrapping conn) }
  | putNil (c : ChannelPool) (conn : Nat) (hHeld : conn ∈ c.held) (hNil : c.connsNil = true) :
      PoolStep factory c
        { c with activeCount := c.activeCount - 1, held := c.held.erase conn, closed := conn :: c.closed }
  | putBack (c : ChannelPool) (conn : Nat) (conns : GoChan.Chan Nat) (hHeld : conn ∈ c.held)
      (hOpen : c.connsNil = false) (hSend : GoChan.send c.conns conn = some conns) :
      PoolStep factory c { c with conns, activeCount := c.activeCount - 1, held := c.held.erase conn }
  | putFull (c : ChannelPool) (conn : Nat) (hHeld : conn ∈ c.held) (hOpen : c.connsNil = false)
      (hFull : GoChan.send c.conns conn = none) :
      PoolStep factory c
        { c with activeCount := c.activeCount - 1, held := c.held.erase conn, closed := conn :: c.closed }
  | close (c : ChannelPool) (hOpen : c.connsNil = false) :
      PoolStep factory c { c with connsNil := true, factoryNil := true, closer := .closing }
  | closeChan (c : ChannelPool) (hPc : c.closer = .closing) :
      PoolStep factory c { c with chClosed := true, closer := .draining }
  | drain (c : ChannelPool) (conn : Nat) (conns : GoChan.Chan Nat) (hPc : c.closer = .draining)
      (hRecv : GoChan.recv c.conns = some (conn, conns)) :
      PoolStep factory c { c with conns, closed := conn :: c.closed }
  | drained (c : ChannelPool) (hPc : c.closer = .draining) (hEmpty : c.conns.buf = []) :
      PoolStep factory c { c with closer := .done }

/-! ## Where the connections are -/

def inflight (gets : List GetPc) : List Nat := gets.filterMap GetPc.conn?

def placed (c : ChannelPool) : List Nat := c.conns.buf ++ inflight c.gets ++ c.held ++ c.closed

def made (factory : Factory) (calls : Nat) : List Nat := (List.range calls).filter fun n => (factory n).isNone

@[simp] theorem inflight_cons (pc : GetPc) (gets : List GetPc) :
    inflight (pc :: gets) = pc.conn?.toList ++ inflight gets := by
  cases pc <;> rfl

theorem inflight_erase {gets : List GetPc} {pc : GetPc} (hPc : pc ∈ gets) :
    (inflight gets : Multiset Nat) = pc.conn?.toList + inflight (gets.erase pc) := by
  rw [Multiset.coe_add, ← inflight_cons, Multiset.coe_eq_coe]
  exact (List.perm_cons_erase hPc).filterMap GetPc.conn?

theorem made_succ (factory : Factory) (n : Nat) :
    made factory (n + 1) = made factory n ++ (factory n).elim [n] fun _ => [] := by
  cases h : factory n <;> simp [made, List.range_succ, List.filter_append, h]

theorem nodup_made (factory : Factory) (n : Nat) : (made factory n).Nodup :=
  List.nodup_range.filter _

theorem placed_coe (c : ChannelPool) :
    (placed c : Multiset Nat) = c.conns.buf + inflight c.gets + c.held + c.closed := by
  simp only [placed, Multiset.coe_add]

theorem coe_cons_eq (a : Nat) (l : List Nat) : ((a :: l : List Nat) : Multiset Nat) = {a} + l := by
  rw [← Multiset.cons_coe, Multiset.singleton_add]

theorem coe_eq_erase {a : Nat} {l : List Nat} (h : a ∈ l) : (l : Multiset Nat) = {a} + l.erase a := by
  rw [← coe_cons_eq, Multiset.coe_eq_coe]
  exact List.perm_cons_erase h

section Custody
variable {factory : Factory} {c c' : ChannelPool}

theorem custody_step (hStep : PoolStep factory c c')
    (h : (placed c : Multiset Nat) = made factory c.calls) :
    (placed c' : Multiset Nat) = made factory c'.calls := by
  rw [placed_coe] at h ⊢
  cases hStep with
  | getConns hOpen => simpa [GetPc.conn?] using h
  | receive conn conns hPc hRecv =>
    obtain ⟨hBuf, -⟩ := (GoChan.recv_eq_some_iff _ _ _).mp hRecv
    rw [← h, inflight_erase hPc, hBuf]
    simp only [inflight_cons, GetPc.conn?, Option.toList, ← Multiset.coe_add, coe_cons_eq, Multiset.coe_nil]
    abel
  | receiveNil hPc _ _ | nilFactory hPc _ _ _ =>
    rw [← h, inflight_erase hPc]
    simp [GetPc.conn?]
  | factoryFails err hPc hOpen hEmpty hSet hErr =>
    simp only [made_succ, hErr, Option.elim, List.append_nil]
    rw [← h, inflight_erase hPc]
    simp [GetPc.conn?]
  | factoryMakes hPc hOpen hEmpty hSet hMade =>
    simp only [made_succ, hMade, Option.elim, ← Multiset.coe_add, ← h, inflight_erase hPc]
    simp only [inflight_cons, GetPc.conn?, Option.toList, ← Multiset.coe_add, coe_cons_eq, Multiset.coe_nil]
    abel
  | wrap conn hPc =>
    rw [← h, inflight_erase hPc]
    simp only [GetPc.conn?, Option.toList, coe_cons_eq, Multiset.coe_nil]
    abel
  | putNil conn hHeld _ | putFull conn hHeld _ _ =>
    rw [← h, coe_eq_erase hHeld, coe_cons_eq]
    abel
  | putBack conn conns hHeld hOpen hSend =>
    obtain ⟨-, -, hBuf⟩ := (GoChan.send_eq_some_iff _ _ _).mp hSend
    rw [← h, coe_eq_erase hHeld, hBuf, ← Multiset.coe_add, coe_cons_eq, Multiset.coe_nil]
    abel
  | close _ | closeChan _ | drained _ _ => exact h
  | drain conn conns hPc hRecv =>
    obtain ⟨hBuf, -⟩ := (GoChan.recv_eq_some_iff _ _ _).mp hRecv
    rw [← h, hBuf, coe_cons_eq, coe_cons_eq]
    abel

end Custody

/-! ## The invariant -/

/-- What every pool made with capacity `maxCap` keeps: the connections'
custody, the count `Busy()` reads, and how far `Close` has got. -/
structure PoolInv (factory : Factory) (maxCap : Nat) (c : ChannelPool) : Prop where
  cap : c.conns.cap = maxCap
  custody : (placed c : Multiset Nat) = made factory c.calls
  active : c.activeCount = c.held.length
  connsNil : c.connsNil = true ↔ c.closer ≠ .idle
  factoryNil : c.factoryNil = c.connsNil
  chClosed : c.chClosed = true ↔ (c.closer = .draining ∨ c.closer = .done)
  drainedEmpty : c.closer = .done → c.conns.buf = []

section Invariant
variable {factory : Factory} {maxCap : Nat} {c c' : ChannelPool}

theorem PoolInv.closer_idle (hInv : PoolInv factory maxCap c) (hOpen : c.connsNil = false) :
    c.closer = .idle := by
  by_contra hNot
  simp [hInv.connsNil.mpr hNot] at hOpen

theorem PoolInv.not_done_of_recv (hInv : PoolInv factory maxCap c) {conn : Nat} {conns : GoChan.Chan Nat}
    (hRecv : GoChan.recv c.conns = some (conn, conns)) : c.closer ≠ .done := by
  intro hDone
  rw [(GoChan.recv_eq_none_iff c.conns).mpr (hInv.drainedEmpty hDone)] at hRecv
  cases hRecv

theorem active_put {c : ChannelPool} {conn : Nat} (hActive : c.activeCount = c.held.length) (hHeld : conn ∈ c.held) :
    c.activeCount - 1 = (c.held.erase conn).length := by
  have hPos := List.length_pos_of_mem hHeld
  rw [List.length_erase_of_mem hHeld, hActive]
  omega

theorem poolInv_step (hInv : PoolInv factory maxCap c) (hStep : PoolStep factory c c') :
    PoolInv factory maxCap c' := by
  have hCustody := custody_step hStep hInv.custody
  have ⟨hCap, _, hActive, hConnsNil, hFactoryNil, hChClosed, hDrained⟩ := hInv
  cases hStep with
  | receive conn conns hPc hRecv =>
    have hNotDone := hInv.not_done_of_recv hRecv
    obtain ⟨-, hCap'⟩ := (GoChan.recv_eq_some_iff _ _ _).mp hRecv
    exact ⟨hCap'.trans hCap, hCustody, hActive, hConnsNil, hFactoryNil, hChClosed, fun h => absurd h hNotDone⟩
  | getConns | receiveNil | nilFactory | factoryFails | factoryMakes =>
    exact ⟨hCap, hCustody, hActive, hConnsNil, hFactoryNil, hChClosed, hDrained⟩
  | wrap conn hPc =>
    refine ⟨hCap, hCustody, ?_, hConnsNil, hFactoryNil, hChClosed, hDrained⟩
    simp [hActive]
  | putNil conn hHeld _ | putFull conn hHeld _ _ =>
    exact ⟨hCap, hCustody, by simpa using active_put hActive hHeld, hConnsNil, hFactoryNil, hChClosed, hDrained⟩
  | putBack conn conns hHeld hOpen hSend =>
    have hIdle := hInv.closer_idle hOpen
    obtain ⟨-, hCap', -⟩ := (GoChan.send_eq_some_iff _ _ _).mp hSend
    refine ⟨hCap'.trans hCap, hCustody, by simpa using active_put hActive hHeld, hConnsNil, hFactoryNil,
      hChClosed, ?_⟩
    simp [hIdle]
  | close hOpen =>
    have hIdle := hInv.closer_idle hOpen
    refine ⟨hCap, hCustody, hActive, by simp, rfl, ?_, by simp⟩
    simpa [hIdle] using hChClosed
  | closeChan hPc =>
    refine ⟨hCap, hCustody, hActive, ?_, hFactoryNil, by simp, by simp⟩
    simpa [hPc] using hConnsNil
  | drain conn conns hPc hRecv =>
    obtain ⟨-, hCap'⟩ := (GoChan.recv_eq_some_iff _ _ _).mp hRecv
    exact ⟨hCap'.trans hCap, hCustody, hActive, hConnsNil, hFactoryNil, hChClosed, by simp [hPc]⟩
  | drained hPc hEmpty =>
    refine ⟨hCap, hCustody, hActive, ?_, hFactoryNil, ?_, fun _ => hEmpty⟩
    · simpa [hPc] using hConnsNil
    · simpa [hPc] using hChClosed

theorem poolInv_fill_step (hInv : PoolInv factory maxCap c) (hIdle : c.closer = .idle)
    (hMade : factory c.calls = none) {conns : GoChan.Chan Nat} (hSend : GoChan.send c.conns c.calls = some conns) :
    PoolInv factory maxCap { c with conns, calls := c.calls + 1 } := by
  obtain ⟨-, hCap, hBuf⟩ := (GoChan.send_eq_some_iff _ _ _).mp hSend
  refine ⟨hCap.trans hInv.cap, ?_, hInv.active, hInv.connsNil, hInv.factoryNil, hInv.chClosed, by simp [hIdle]⟩
  have hCustody := hInv.custody
  rw [placed_coe] at hCustody ⊢
  simp only [made_succ, hMade, Option.elim, ← Multiset.coe_add, ← hCustody, hBuf, coe_cons_eq, Multiset.coe_nil]
  abel

theorem fill_inv (n : Nat) (hInv : PoolInv factory maxCap c) (hIdle : c.closer = .idle)
    (hFill : fill factory n c = some (.ok c')) : PoolInv factory maxCap c' ∧ c'.closer = .idle := by
  induction n generalizing c with
  | zero =>
    cases hFill
    exact ⟨hInv, hIdle⟩
  | succ n ih =>
    cases hMade : factory c.calls with
    | some err => simp [fill, hMade] at hFill
    | none =>
      obtain ⟨conns, hSend, hRest⟩ : ∃ conns, GoChan.send c.conns c.calls = some conns ∧
          fill factory n { c with conns, calls := c.calls + 1 } = some (.ok c') := by
        simpa [fill, hMade, Option.bind_eq_some_iff] using hFill
      exact ih (poolInv_fill_step hInv hIdle hMade hSend) hIdle hRest

theorem newChannelPool_inv {initialCap maxCap : Int}
    (hNew : newChannelPool initialCap maxCap factory = some (.ok c)) : 0 < maxCap ∧ PoolInv factory maxCap.toNat c := by
  unfold newChannelPool at hNew
  split at hNew
  · cases hNew
  · rename_i hValid
    have hStart : PoolInv factory maxCap.toNat ⟨GoChan.make maxCap.toNat, false, false, false, 0, 0, [], [], [], .idle⟩ :=
      ⟨rfl, by simp [placed, inflight, made], rfl, by simp, rfl, by simp, by simp⟩
    exact ⟨by omega, (fill_inv _ hStart rfl hNew).1⟩

theorem poolInv_run {initialCap maxCap : Int} {c₀ : ChannelPool}
    (hNew : newChannelPool initialCap maxCap factory = some (.ok c₀))
    (hRun : Relation.ReflTransGen (PoolStep factory) c₀ c) : 0 < maxCap ∧ PoolInv factory maxCap.toNat c := by
  obtain ⟨hMax, hInv₀⟩ := newChannelPool_inv hNew
  exact ⟨hMax, Transition.invariant hInv₀ (fun _ _ hInv hStep => poolInv_step hInv hStep) hRun⟩

theorem PoolInv.chClosed_eq_false (hInv : PoolInv factory maxCap c) (hIdle : c.closer = .idle) :
    c.chClosed = false := by
  cases h : c.chClosed with
  | false => rfl
  | true => rcases hInv.chClosed.mp h with hPc | hPc <;> simp [hIdle] at hPc

end Invariant

/-! ## Every interleaving -/

/-- In every interleaving of `Get`s, `put`s and `Close` on a pool `NewChannelPool`
made, each connection the factory made is in exactly one place: the channel, a
`Get`, a caller, or closed; `Busy()` is the number of connections the callers
hold; `Available()` is at most `maxCap`; a `put` never meets the closed channel;
and once `Close` has drained the channel and no `Get` or caller holds a
connection, every connection the factory made has been closed once. -/
theorem pool_run (initialCap maxCap : Int) (factory : Factory) (c₀ c : ChannelPool)
    (hNew : newChannelPool initialCap maxCap factory = some (.ok c₀))
    (hRun : Relation.ReflTransGen (PoolStep factory) c₀ c) :
    (placed c).Perm (made factory c.calls) ∧ (placed c).Nodup ∧ busy c = c.held.length ∧
      (available c : Int) ≤ maxCap ∧ (c.chClosed = true → c.connsNil = true) ∧
      (c.closer = .done → inflight c.gets = [] → c.held = [] → c.closed.Perm (made factory c.calls)) := by
  obtain ⟨hMax, hInv⟩ := poolInv_run hNew hRun
  have hPerm : (placed c).Perm (made factory c.calls) := Multiset.coe_eq_coe.mp hInv.custody
  refine ⟨hPerm, hPerm.nodup_iff.mpr (nodup_made factory c.calls), hInv.active, ?_, ?_, ?_⟩
  · have hLen := GoChan.len_le_cap c.conns
    rw [hInv.cap] at hLen
    unfold available
    split <;> omega
  · intro hClosed
    apply hInv.connsNil.mpr
    rcases hInv.chClosed.mp hClosed with hPc | hPc <;> simp [hPc]
  · intro hDone hInflight hHeld
    have hPlaced : placed c = c.closed := by simp [placed, hInv.drainedEmpty hDone, hInflight, hHeld]
    rwa [hPlaced] at hPerm

/-- `NewChannelPool(1, 2, factory)` with a factory that always succeeds. -/
def poolFilled : ChannelPool := ⟨⟨2, [0], by decide⟩, false, false, false, 0, 1, [], [], [], .idle⟩

def poolClosedAfterUse : ChannelPool := ⟨⟨2, [], by decide⟩, true, true, true, 0, 2, [1, 0], [], [], .done⟩

theorem pool_run_closed_after_use :
    newChannelPool 1 2 (fun _ => none) = some (.ok poolFilled) ∧
      Relation.ReflTransGen (PoolStep fun _ => none) poolFilled poolClosedAfterUse ∧
      (placed poolClosedAfterUse).Perm (made (fun _ => none) poolClosedAfterUse.calls) ∧
      (placed poolClosedAfterUse).Nodup ∧ busy poolClosedAfterUse = poolClosedAfterUse.held.length ∧
      (available poolClosedAfterUse : Int) ≤ 2 ∧
      (poolClosedAfterUse.chClosed = true → poolClosedAfterUse.connsNil = true) ∧
      (poolClosedAfterUse.closer = .done → inflight poolClosedAfterUse.gets = [] →
        poolClosedAfterUse.held = [] →
        poolClosedAfterUse.closed.Perm (made (fun _ => none) poolClosedAfterUse.calls)) :=
  have hNew : newChannelPool 1 2 (fun _ => none) = some (.ok poolFilled) := rfl
  have hRun : Relation.ReflTransGen (PoolStep fun _ => none) poolFilled poolClosedAfterUse :=
    (((((((((((Relation.ReflTransGen.single (PoolStep.getConns poolFilled rfl)).tail
      (PoolStep.receive _ 0 _ (by decide) rfl)).tail (PoolStep.wrap _ 0 (by decide))).tail
      (PoolStep.getConns _ rfl)).tail (PoolStep.factoryMakes _ (by decide) rfl rfl rfl rfl)).tail
      (PoolStep.wrap _ 1 (by decide))).tail (PoolStep.putBack _ 0 _ (by decide) rfl rfl)).tail
      (PoolStep.close _ rfl)).tail (PoolStep.closeChan _ rfl)).tail
      (PoolStep.drain _ 0 _ rfl rfl)).tail (PoolStep.drained _ rfl rfl)).tail
      (PoolStep.putNil _ 1 (by decide) rfl)
  ⟨hNew, hRun, pool_run 1 2 _ _ _ hNew hRun⟩

/-- A `Get` that found `conns` not nil and the channel empty calls the nil
factory if `Close` takes the lock before its `select`. -/
theorem get_calls_nil_factory (initialCap maxCap : Int) (factory : Factory) (c₀ c : ChannelPool)
    (hNew : newChannelPool initialCap maxCap factory = some (.ok c₀))
    (hRun : Relation.ReflTransGen (PoolStep factory) c₀ c)
    (hSelecting : .selecting ∈ c.gets) (hOpen : c.connsNil = false) (hEmpty : c.conns.buf = []) :
    ∃ c', Relation.ReflTransGen (PoolStep factory) c c' ∧ .panicked ∈ c'.gets := by
  obtain ⟨-, hInv⟩ := poolInv_run hNew hRun
  have hChOpen := hInv.chClosed_eq_false (hInv.closer_idle hOpen)
  have hClose : PoolStep factory c _ := .close c hOpen
  have hPanic : PoolStep factory _ _ :=
    .nilFactory { c with connsNil := true, factoryNil := true, closer := .closing } hSelecting hChOpen hEmpty rfl
  exact ⟨_, .tail (.single hClose) hPanic, by simp⟩

theorem get_calls_nil_factory_empty_pool :
    ∃ c', Relation.ReflTransGen (PoolStep fun _ => none)
      ⟨⟨1, [], by decide⟩, false, false, false, 0, 0, [], [], [.selecting], .idle⟩ c' ∧ .panicked ∈ c'.gets :=
  get_calls_nil_factory 0 1 _ _ _ rfl (.single (.getConns _ rfl)) (by simp) rfl rfl

end AnyCable.Pool
