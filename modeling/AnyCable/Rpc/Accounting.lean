import AnyCable.Common
import AnyCable.Lib.Transition
import AnyCable.Metrics.Counter
import Mathlib.Algebra.Order.BigOperators.Group.List
import Mathlib.Algebra.Order.Group.Nat

/-! # Counting the RPC calls and their failures

Each RPC method of `rpc.Controller` (`rpc/rpc.go`) counts itself in
`rpc_call_total` and its failures in `rpc_error_total`, at different places.
`Authenticate` and `Disconnect` increment `rpc_call_total` before `retry`; the
command methods (`Subscribe`, `Unsubscribe`, `Perform`) do it after `retry`, in
`parseCommandResponse`. Every method counts a transport error in
`rpc_error_total`. Only `Disconnect` also counts an application error: the
other methods return one for the status ERROR and do not count it. The type
assertions `response.(*pb....)` cannot fail, as `retry` hands back what the
generated client returned, so their branches are left out.

The calls run in the sessions' goroutines at once, and each counter update is
one atomic step. Along every interleaving, `rpc_error_total` never exceeds
`rpc_call_total`, since a call counts itself before it counts a failure. Once
no call is in flight, `rpc_call_total` is the number of calls returned and
`rpc_error_total` the number of those that failed (`accounts_run`).
-/

namespace AnyCable.Rpc
open Common Metrics
set_option autoImplicit false

inductive Ctr where
  | rpcCalls
  | rpcFailures
  deriving DecidableEq

inductive Method where
  | authenticate
  | command
  | disconnect
  deriving DecidableEq

inductive Answer where
  | connect (o : ConnectOutcome)
  | command (o : RpcOutcome)
  | disconnect (o : DisconnectOutcome)
  deriving DecidableEq

def Method.before : Method → List Ctr
  | .authenticate => [.rpcCalls]
  | .command => []
  | .disconnect => [.rpcCalls]

namespace Answer

def method : Answer → Method
  | .connect _ => .authenticate
  | .command _ => .command
  | .disconnect _ => .disconnect

def error : Answer → Error
  | .connect o => (controllerAuthenticate o).2
  | .command o => (controllerReply o).2
  | .disconnect o => controllerDisconnect o

def after : Answer → List Ctr
  | .connect (.transportError _) => [.rpcFailures]
  | .connect (.response _) => []
  | .command (.transportError _) => [.rpcCalls, .rpcFailures]
  | .command (.response _) => [.rpcCalls]
  | .disconnect (.transportError _) => [.rpcFailures]
  | .disconnect (.response r) => if (parseDisconnectResponse r).isSome then [.rpcFailures] else []

def program (ans : Answer) : List Ctr := ans.method.before ++ ans.after

def failed : Answer → Bool
  | .connect (.transportError _) => true
  | .command (.transportError _) => true
  | .disconnect (.transportError _) => true
  | .disconnect (.response r) => r.status == .ERROR
  | _ => false

end Answer

structure Frame where
  method : Method
  answer : Option Answer
  made : List Ctr
  todo : List Ctr
  deriving DecidableEq

structure Accounts where
  counters : Ctr → Counter
  frames : List Frame
  returned : List Answer

def accountsStart : Accounts := ⟨fun _ => newCounter, [], []⟩

def Accounts.bump (a : Accounts) (c : Ctr) : Ctr → Counter :=
  Function.update a.counters c (a.counters c).inc

inductive AccountStep : Accounts → Accounts → Prop
  | enter (a : Accounts) (m : Method) :
      AccountStep a { a with frames := ⟨m, none, [], m.before⟩ :: a.frames }
  | count (a : Accounts) (f : Frame) (c : Ctr) (rest : List Ctr) (hFrame : f ∈ a.frames)
      (hTodo : f.todo = c :: rest) :
      AccountStep a
        { a with counters := a.bump c,
                 frames := { f with made := f.made ++ [c], todo := rest } :: a.frames.erase f }
  | answer (a : Accounts) (f : Frame) (ans : Answer) (hFrame : f ∈ a.frames)
      (hNone : f.answer = none) (hTodo : f.todo = []) (hMethod : ans.method = f.method) :
      AccountStep a { a with frames := { f with answer := some ans, todo := ans.after } :: a.frames.erase f }
  | ret (a : Accounts) (f : Frame) (ans : Answer) (hFrame : f ∈ a.frames)
      (hAnswer : f.answer = some ans) (hTodo : f.todo = []) :
      AccountStep a { a with frames := a.frames.erase f, returned := ans :: a.returned }

/-! ## What each call counts -/

theorem count_rpcCalls_program (ans : Answer) : ans.program.count .rpcCalls = 1 := by
  cases ans with
  | connect o => cases o <;> rfl
  | command o => cases o <;> rfl
  | disconnect o =>
    cases o with
    | transportError m => rfl
    | response r =>
      simp only [Answer.program, Answer.method, Method.before, Answer.after]
      split <;> rfl

theorem count_rpcFailures_program (ans : Answer) :
    ans.program.count .rpcFailures = if ans.failed then 1 else 0 := by
  cases ans with
  | connect o => cases o <;> rfl
  | command o => cases o <;> rfl
  | disconnect o =>
    cases o with
    | transportError m => rfl
    | response r =>
      obtain ⟨status, errorMsg⟩ := r
      cases status <;> simp [Answer.program, Answer.method, Method.before, Answer.after, Answer.failed,
        parseDisconnectResponse, PbStatus.toString]

theorem count_rpcFailures_before (m : Method) : m.before.count .rpcFailures = 0 := by
  cases m <;> rfl

theorem count_rpcFailures_le (ans : Answer) (done : List Ctr) (hDone : done <+: ans.after) :
    (ans.method.before ++ done).count .rpcFailures ≤ (ans.method.before ++ done).count .rpcCalls := by
  rw [← List.mem_inits] at hDone
  cases ans with
  | connect o =>
    cases o <;> simp [Answer.after, List.inits] at hDone <;> rcases hDone with rfl | rfl <;>
      simp [Answer.method, Method.before]
  | command o =>
    cases o <;> simp [Answer.after, List.inits] at hDone <;> rcases hDone with rfl | rfl | rfl <;>
      simp [Answer.method, Method.before]
  | disconnect o =>
    cases o with
    | transportError m =>
      simp [Answer.after, List.inits] at hDone
      rcases hDone with rfl | rfl <;> simp [Answer.method, Method.before]
    | response r =>
      simp only [Answer.after] at hDone
      split at hDone <;> simp [List.inits] at hDone <;> rcases hDone with rfl | rfl <;>
        simp [Answer.method, Method.before]

/-! ## The counters count the updates made -/

/-- A call's updates so far agree with its method and its answer. -/
structure Frame.Wf (f : Frame) : Prop where
  waiting : f.answer = none → f.made ++ f.todo = f.method.before
  answered : ∀ ans, f.answer = some ans →
    ans.method = f.method ∧ ∃ done, f.made = f.method.before ++ done ∧ done ++ f.todo = ans.after

def increments (a : Accounts) (c : Ctr) : Nat :=
  (a.frames.map fun f => f.made.count c).sum + (a.returned.map fun ans => ans.program.count c).sum

/-- Each counter holds the updates made to it, modulo 2^64. -/
structure Counted (a : Accounts) : Prop where
  frames : ∀ f ∈ a.frames, f.Wf
  values : ∀ c, (a.counters c).value = UInt64.ofNat (increments a c)

theorem counted_start : Counted accountsStart where
  frames := by simp [accountsStart]
  values _ := rfl

theorem sum_map_erase {f : Frame} {frames : List Frame} (hFrame : f ∈ frames) (g : Frame → Nat) :
    (frames.map g).sum = g f + ((frames.erase f).map g).sum := by
  rw [((List.perm_cons_erase hFrame).map g).sum_eq, List.map_cons, List.sum_cons]

theorem increments_replace (a : Accounts) {f : Frame} (hFrame : f ∈ a.frames) (f' : Frame)
    (counters : Ctr → Counter) (c : Ctr) :
    increments ⟨counters, f' :: a.frames.erase f, a.returned⟩ c + f.made.count c =
      increments a c + f'.made.count c := by
  unfold increments
  dsimp only
  rw [sum_map_erase hFrame, List.map_cons, List.sum_cons]
  omega

theorem increments_ret (a : Accounts) {f : Frame} (hFrame : f ∈ a.frames) (ans : Answer)
    (hMade : f.made = ans.program) (c : Ctr) :
    increments { a with frames := a.frames.erase f, returned := ans :: a.returned } c = increments a c := by
  unfold increments
  dsimp only
  rw [sum_map_erase hFrame, List.map_cons, List.sum_cons, hMade]
  omega

theorem value_inc {c : Counter} {n : Nat} (h : c.value = UInt64.ofNat n) :
    c.inc.value = UInt64.ofNat (n + 1) := by
  rw [Counter.inc, Counter.add, h, UInt64.ofNat_add]
  rfl

theorem Frame.Wf.made_eq {f : Frame} (hWf : f.Wf) {ans : Answer} (hAnswer : f.answer = some ans)
    (hTodo : f.todo = []) : f.made = ans.program := by
  obtain ⟨hMethod, done, hMade, hDone⟩ := hWf.answered ans hAnswer
  rw [hTodo, List.append_nil] at hDone
  rw [hMade, hDone, Answer.program, hMethod]

theorem Frame.Wf.count {f : Frame} (hWf : f.Wf) {c : Ctr} {rest : List Ctr} (hTodo : f.todo = c :: rest) :
    Frame.Wf { f with made := f.made ++ [c], todo := rest } := by
  constructor
  · intro hNone
    simpa [hTodo] using hWf.waiting hNone
  · intro ans hAns
    obtain ⟨hMethod, done, hMade, hDone⟩ := hWf.answered ans hAns
    exact ⟨hMethod, done ++ [c], by simp [hMade], by simpa [hTodo] using hDone⟩

theorem Frame.Wf.answer {f : Frame} (hWf : f.Wf) (hNone : f.answer = none) (hTodo : f.todo = [])
    {ans : Answer} (hMethod : ans.method = f.method) :
    Frame.Wf { f with answer := some ans, todo := ans.after } := by
  refine ⟨fun h => (by cases h), fun ans' hAns => ?_⟩
  cases hAns
  have hMade := hWf.waiting hNone
  rw [hTodo, List.append_nil] at hMade
  exact ⟨hMethod, [], by simpa using hMade, by simp⟩

theorem wf_replace {frames : List Frame} (hFrames : ∀ g ∈ frames, g.Wf) (f : Frame) {f' : Frame}
    (hWf : f'.Wf) : ∀ g ∈ f' :: frames.erase f, g.Wf := by
  intro g hg
  rcases List.mem_cons.mp hg with rfl | hg
  · exact hWf
  · exact hFrames g (List.mem_of_mem_erase hg)

theorem value_bump (a : Accounts) (c c' : Ctr) {n : Nat} (hValue : (a.counters c').value = UInt64.ofNat n) :
    (a.bump c c').value = UInt64.ofNat (n + if c = c' then 1 else 0) := by
  by_cases hc : c = c'
  · subst hc
    simpa [Accounts.bump] using value_inc hValue
  · simpa [Accounts.bump, Ne.symm hc, hc] using hValue

theorem counted_step {a a' : Accounts} (hCounted : Counted a) (hStep : AccountStep a a') : Counted a' := by
  obtain ⟨hFrames, hValues⟩ := hCounted
  cases hStep with
  | enter m =>
    have hWf : Frame.Wf ⟨m, none, [], m.before⟩ := ⟨fun _ => rfl, fun ans h => (by cases h)⟩
    exact ⟨List.forall_mem_cons.mpr ⟨hWf, hFrames⟩, fun c => by simpa [increments] using hValues c⟩
  | count f c rest hFrame hTodo =>
    refine ⟨wf_replace hFrames f ((hFrames f hFrame).count hTodo), fun c' => ?_⟩
    have hMove := increments_replace a hFrame { f with made := f.made ++ [c], todo := rest } (a.bump c) c'
    simp only [List.count_append, List.count_singleton, beq_iff_eq] at hMove
    rw [show increments _ c' = increments a c' + if c = c' then 1 else 0 by omega]
    exact value_bump a c c' (hValues c')
  | answer f ans hFrame hNone hTodo hMethod =>
    refine ⟨wf_replace hFrames f ((hFrames f hFrame).answer hNone hTodo hMethod), fun c => ?_⟩
    have hMove := increments_replace a hFrame { f with answer := some ans, todo := ans.after } a.counters c
    rw [show increments _ c = increments a c by simpa using hMove]
    exact hValues c
  | ret f ans hFrame hAnswer hTodo =>
    refine ⟨fun f' hf' => hFrames f' (List.mem_of_mem_erase hf'), fun c => ?_⟩
    rw [increments_ret a hFrame ans ((hFrames f hFrame).made_eq hAnswer hTodo)]
    exact hValues c

theorem counted_run {a : Accounts} (hRun : Relation.ReflTransGen AccountStep accountsStart a) :
    Counted a :=
  Transition.invariant counted_start (fun _ _ hCounted hStep => counted_step hCounted hStep) hRun

/-! ## Failures never outnumber calls -/

theorem Frame.Wf.failures_le {f : Frame} (hWf : f.Wf) :
    f.made.count .rpcFailures ≤ f.made.count .rpcCalls := by
  cases hAnswer : f.answer with
  | none =>
    have hPrefix : f.made <+: f.method.before := ⟨f.todo, hWf.waiting hAnswer⟩
    have hZero := hPrefix.sublist.count_le Ctr.rpcFailures
    rw [count_rpcFailures_before] at hZero
    omega
  | some ans =>
    obtain ⟨hMethod, done, hMade, hDone⟩ := hWf.answered ans hAnswer
    rw [hMade, ← hMethod]
    exact count_rpcFailures_le ans done ⟨f.todo, hDone⟩

theorem increments_failures_le {a : Accounts} (hCounted : Counted a) :
    increments a .rpcFailures ≤ increments a .rpcCalls := by
  unfold increments
  have hFrames : (a.frames.map fun f => f.made.count .rpcFailures).sum ≤
      (a.frames.map fun f => f.made.count .rpcCalls).sum :=
    List.sum_le_sum fun f hf => (hCounted.frames f hf).failures_le
  have hReturned : (a.returned.map fun ans => ans.program.count .rpcFailures).sum ≤
      (a.returned.map fun ans => ans.program.count .rpcCalls).sum :=
    List.sum_le_sum fun ans _ => by
      rw [count_rpcCalls_program, count_rpcFailures_program]
      split <;> omega
  omega

/-! ## Once no call is in flight -/

theorem increments_rpcCalls_of_idle (a : Accounts) (hIdle : a.frames = []) :
    increments a .rpcCalls = a.returned.length := by
  simp [increments, hIdle, count_rpcCalls_program]

theorem increments_rpcFailures_of_idle (a : Accounts) (hIdle : a.frames = []) :
    increments a .rpcFailures = a.returned.countP Answer.failed := by
  simp [increments, hIdle, count_rpcFailures_program, List.sum_map_ite, List.countP_eq_length_filter]

/-! ## The errors returned and those counted -/

theorem authenticate_error_isSome (r : ConnectionResponse) :
    (controllerAuthenticate (.response r)).2.isSome ↔ r.status = .ERROR := by
  unfold controllerAuthenticate parseConnectResponse
  cases hStatus : r.status <;> simp [hStatus, PbStatus.toString]

theorem reply_error_isSome (r : CommandResponse) :
    (controllerReply (.response r)).2.isSome ↔ r.status = .ERROR := by
  rw [Option.isSome_iff_ne_none, ne_eq, controllerReply_err_eq_none_iff]
  cases hStatus : r.status <;> simp [hStatus]

theorem disconnect_error_isSome (r : DisconnectResponse) :
    (controllerDisconnect (.response r)).isSome ↔ r.status = .ERROR := by
  unfold controllerDisconnect parseDisconnectResponse
  cases hStatus : r.status <;> simp [hStatus, PbStatus.toString]

theorem error_isSome_of_failed (ans : Answer) (hFailed : ans.failed = true) : ans.error.isSome := by
  cases ans with
  | connect o => cases o <;> simp_all [Answer.failed, Answer.error, controllerAuthenticate]
  | command o => cases o <;> simp_all [Answer.failed, Answer.error, controllerReply]
  | disconnect o =>
    cases o with
    | transportError m => rfl
    | response r =>
      simp only [Answer.failed, beq_iff_eq] at hFailed
      exact (disconnect_error_isSome r).mpr hFailed

theorem error_uncounted_iff (ans : Answer) :
    (ans.error.isSome ∧ ans.failed = false) ↔
      (∃ r, ans = .connect (.response r) ∧ r.status = .ERROR) ∨
        (∃ r, ans = .command (.response r) ∧ r.status = .ERROR) := by
  cases ans with
  | connect o =>
    cases o with
    | response r => simpa [Answer.error, Answer.failed] using authenticate_error_isSome r
    | transportError m => simp [Answer.failed]
  | command o =>
    cases o with
    | response r => simpa [Answer.error, Answer.failed] using reply_error_isSome r
    | transportError m => simp [Answer.failed]
  | disconnect o =>
    cases o with
    | response r =>
      have hIff := disconnect_error_isSome r
      simp only [Answer.error, Answer.failed, beq_eq_false_iff_ne, ne_eq, reduceCtorEq, false_and,
        exists_false, or_self, iff_false, not_and, not_not]
      exact hIff.mp
    | transportError m => simp [Answer.failed]

/-! ## Along every interleaving -/

/-- In every interleaving of RPC calls, `rpc_error_total` never exceeds
`rpc_call_total`. Once no call is in flight, `rpc_call_total` is the number of
calls returned and `rpc_error_total` the number of those that failed: a
transport error of any method, or an application error of `Disconnect`. Every
failed call returned an error, and the returned errors that `rpc_error_total`
does not count are exactly those of `Authenticate` and the command methods
answered with status ERROR. -/
theorem accounts_run (a : Accounts) (hRun : Relation.ReflTransGen AccountStep accountsStart a) :
    ∃ calls failures, (a.counters .rpcCalls).value = UInt64.ofNat calls ∧
      (a.counters .rpcFailures).value = UInt64.ofNat failures ∧ failures ≤ calls ∧
      (a.frames = [] → calls = a.returned.length ∧ failures = a.returned.countP Answer.failed) ∧
      ∀ ans ∈ a.returned, (ans.failed = true → ans.error.isSome) ∧
        ((ans.error.isSome ∧ ans.failed = false) ↔
          (∃ r, ans = .connect (.response r) ∧ r.status = .ERROR) ∨
            (∃ r, ans = .command (.response r) ∧ r.status = .ERROR)) := by
  have hCounted := counted_run hRun
  refine ⟨increments a .rpcCalls, increments a .rpcFailures, hCounted.values .rpcCalls,
    hCounted.values .rpcFailures, increments_failures_le hCounted, ?_, ?_⟩
  · intro hIdle
    exact ⟨increments_rpcCalls_of_idle a hIdle, increments_rpcFailures_of_idle a hIdle⟩
  · intro ans _
    exact ⟨error_isSome_of_failed ans, error_uncounted_iff ans⟩

def disconnectFailed : Accounts :=
  ⟨Function.update (Function.update (fun _ => newCounter) .rpcCalls newCounter.inc) .rpcFailures
      newCounter.inc, [], [.disconnect (.transportError "unavailable")]⟩

theorem accounts_run_disconnect_failed :
    Relation.ReflTransGen AccountStep accountsStart disconnectFailed ∧
      ∃ calls failures, (disconnectFailed.counters .rpcCalls).value = UInt64.ofNat calls ∧
        (disconnectFailed.counters .rpcFailures).value = UInt64.ofNat failures ∧ failures ≤ calls ∧
        (disconnectFailed.frames = [] → calls = disconnectFailed.returned.length ∧
          failures = disconnectFailed.returned.countP Answer.failed) ∧
        ∀ ans ∈ disconnectFailed.returned, (ans.failed = true → ans.error.isSome) ∧
          ((ans.error.isSome ∧ ans.failed = false) ↔
            (∃ r, ans = .connect (.response r) ∧ r.status = .ERROR) ∨
              (∃ r, ans = .command (.response r) ∧ r.status = .ERROR)) :=
  have hRun : Relation.ReflTransGen AccountStep accountsStart disconnectFailed :=
    ((((Relation.ReflTransGen.single (AccountStep.enter accountsStart .disconnect)).tail
      (AccountStep.count _ ⟨.disconnect, none, [], [.rpcCalls]⟩ .rpcCalls [] (List.mem_singleton.mpr rfl)
        rfl)).tail
      (AccountStep.answer _ ⟨.disconnect, none, [.rpcCalls], []⟩ (.disconnect (.transportError "unavailable"))
        (List.mem_singleton.mpr rfl) rfl rfl rfl)).tail
      (AccountStep.count _ ⟨.disconnect, some (.disconnect (.transportError "unavailable")), [.rpcCalls],
        [.rpcFailures]⟩ .rpcFailures [] (List.mem_singleton.mpr rfl) rfl)).tail
      (AccountStep.ret _ ⟨.disconnect, some (.disconnect (.transportError "unavailable")),
        [.rpcCalls, .rpcFailures], []⟩ (.disconnect (.transportError "unavailable"))
        (List.mem_singleton.mpr rfl) rfl rfl)
  ⟨hRun, accounts_run _ hRun⟩

end AnyCable.Rpc
