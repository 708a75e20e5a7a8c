import AnyCable.Lib.Transition
import Mathlib.Algebra.Order.Monoid.Unbundled.Pow
import Mathlib.Tactic.Ring

/-! # Retrying RPC calls and waiting for them at shutdown

`Controller.retry` (`rpc/rpc.go`) calls its callback in a loop. Each round first
asks the client helper whether the connection is usable, then calls back; it
retries only a gRPC status error with code `ResourceExhausted` or `Unavailable`,
sleeping `2^attempt * interval` ms, and gives up on any error once the slept
time `retryAge` exceeds `invokeTimeout`. The exponent restarts whenever the code
switches between the two.

The rounds are numbered; `conn n` is the connection state `Ready` sees in round
`n` and `callback n` what the callback returns there. Every continuing round
sleeps at least 10 ms and only a round that starts within the budget continues,
so the loop returns within 302 rounds, with `retryAge` at most 5560 ms and an
exponent at most 8 (`retry_terminates_bounded`).

`Controller.Shutdown` waits with `retry` for `busy()` to reach zero, but its
callback's error is a plain one, which `status.FromError` does not recognise:
the first check that sees a busy controller ends the wait
(`shutdown_gives_up_at_first_check`).
-/

namespace AnyCable.Rpc
set_option autoImplicit false

def invokeTimeout : Nat := 3000

def retryExhaustedInterval : Nat := 10

def retryUnavailableInterval : Nat := 100

/-- `codes.Code` of `google.golang.org/grpc/codes`. -/
inductive Code where
  | ok | canceled | unknown | invalidArgument | deadlineExceeded | notFound | alreadyExists
  | permissionDenied | resourceExhausted | failedPrecondition | aborted | outOfRange
  | unimplemented | internal | unavailable | dataLoss | unauthenticated
  deriving DecidableEq, Repr

inductive RpcError where
  | plain (msg : String)
  | status (code : Code) (msg : String)
  deriving DecidableEq, Repr

/-- `status.FromError`: the code of a status error, `ok = false` for any other. -/
def fromError : RpcError → Option Code
  | .plain _ => none
  | .status code _ => some code

inductive Connectivity where
  | idle | connecting | ready | transientFailure | shutdown
  deriving DecidableEq, Repr

/-- `grpcClientHelper`; `recovering` is the only field its methods change. -/
structure ClientHelper where
  recovering : Bool
  deriving DecidableEq, Repr

namespace ClientHelper

def tryRecover (st : ClientHelper) : Option RpcError × ClientHelper :=
  if st.recovering then (some (.plain "grpc connection is not ready"), st) else (none, ⟨true⟩)

def reset (st : ClientHelper) : ClientHelper := if st.recovering then ⟨false⟩ else st

def ready (st : ClientHelper) (s : Connectivity) : Option RpcError × ClientHelper :=
  if s = .shutdown then (some (.plain "grpc connection is closed"), st)
  else if s = .transientFailure then st.tryRecover
  else (none, if st.recovering then st.reset else st)

end ClientHelper

/-! ## The retry loop -/

structure RetryState where
  retryAge : Nat
  attempt : Nat
  wasExhausted : Bool
  round : Nat
  helper : ClientHelper
  deriving DecidableEq, Repr

def retryStart (helper : ClientHelper) : RetryState := ⟨0, 0, false, 0, helper⟩

/-- `attempt` after the code switch of a retried round. -/
def attemptFor (code : Code) (s : RetryState) : Nat :=
  if code = .resourceExhausted then (if !s.wasExhausted then 0 else s.attempt)
  else if s.wasExhausted then 0 else s.attempt

def wasExhaustedFor (code : Code) (s : RetryState) : Bool :=
  if code = .resourceExhausted then (if !s.wasExhausted then true else s.wasExhausted)
  else if s.wasExhausted then false else s.wasExhausted

def intervalFor (code : Code) : Nat :=
  if code = .resourceExhausted then retryExhaustedInterval else retryUnavailableInterval

def delayMS (code : Code) (s : RetryState) : Nat := 2 ^ attemptFor code s * intervalFor code

def backoff (code : Code) (s : RetryState) (helper : ClientHelper) : RetryState :=
  ⟨s.retryAge + delayMS code s, attemptFor code s + 1, wasExhaustedFor code s, s.round + 1, helper⟩

inductive Round (α : Type) where
  | returned (result : Except RpcError α)
  | next (s : RetryState)

section Loop
variable {α : Type} (conn : Nat → Connectivity) (callback : Nat → Except RpcError α)

def retryStep (s : RetryState) : Round α :=
  match s.helper.ready (conn s.round) with
  | (some stErr, _) => .returned (.error stErr)
  | (none, helper) =>
    match callback s.round with
    | .ok res => .returned (.ok res)
    | .error err =>
      if s.retryAge > invokeTimeout then .returned (.error err)
      else
        match fromError err with
        | none => .returned (.error err)
        | some code =>
          if !(code = .resourceExhausted ∨ code = .unavailable) then .returned (.error err)
          else .next (backoff code s helper)

/-- The loop with at most `fuel` rounds; `none` when the fuel runs out. -/
def retryLoop : Nat → RetryState → Option (Except RpcError α)
  | 0, _ => none
  | fuel + 1, s =>
    match retryStep conn callback s with
    | .returned result => some result
    | .next s' => retryLoop fuel s'

def RetryReach (helper : ClientHelper) (s : RetryState) : Prop :=
  Relation.ReflTransGen (fun s s' => retryStep conn callback s = .next s') (retryStart helper) s

theorem retryStep_eq_next {s s' : RetryState} (h : retryStep conn callback s = .next s') :
    ∃ code helper, (code = .resourceExhausted ∨ code = .unavailable) ∧
      s.retryAge ≤ invokeTimeout ∧ s' = backoff code s helper := by
  unfold retryStep at h
  split at h
  · cases h
  · rename_i helper _
    split at h
    · cases h
    · rename_i err _
      split at h
      · cases h
      · rename_i hAge
        split at h
        · cases h
        · rename_i code _
          split at h
          · cases h
          · rename_i hCode
            cases h
            exact ⟨code, helper, by simpa [or_iff_not_imp_left] using hCode, by omega, rfl⟩

end Loop

/-! ## What the budget bounds -/

def currentInterval (s : RetryState) : Nat :=
  if s.wasExhausted then retryExhaustedInterval else retryUnavailableInterval

/-- What a reachable state has paid: the delays of the current run of one code,
at least 10 ms a round, at most one sleep past the budget, and at most 301 rounds. -/
structure Budget (s : RetryState) : Prop where
  paid : currentInterval s * (2 ^ s.attempt - 1) ≤ s.retryAge
  per_round : retryExhaustedInterval * s.round ≤ s.retryAge
  age_le : s.retryAge ≤ invokeTimeout + 2560
  round_le : s.round ≤ 301

theorem budget_start (helper : ClientHelper) : Budget (retryStart helper) where
  paid := by simp [retryStart]
  per_round := by simp [retryStart]
  age_le := by simp [retryStart]
  round_le := by simp [retryStart]

theorem currentInterval_backoff (code : Code) (s : RetryState) (helper : ClientHelper)
    (hCode : code = .resourceExhausted ∨ code = .unavailable) :
    currentInterval (backoff code s helper) = intervalFor code := by
  rcases hCode with rfl | rfl <;> cases s.wasExhausted <;>
    simp [currentInterval, backoff, wasExhaustedFor, intervalFor]

theorem paid_attemptFor (code : Code) (s : RetryState) (hBudget : Budget s)
    (hCode : code = .resourceExhausted ∨ code = .unavailable) :
    intervalFor code * (2 ^ attemptFor code s - 1) ≤ s.retryAge := by
  have hPaid := hBudget.paid
  rcases hCode with rfl | rfl <;> cases hWas : s.wasExhausted <;>
    simp_all [attemptFor, intervalFor, currentInterval]

theorem intervalFor_ge (code : Code) : retryExhaustedInterval ≤ intervalFor code := by
  unfold intervalFor retryExhaustedInterval retryUnavailableInterval
  split <;> omega

theorem attemptFor_le (code : Code) (s : RetryState) (hBudget : Budget s)
    (hCode : code = .resourceExhausted ∨ code = .unavailable) (hAge : s.retryAge ≤ invokeTimeout) :
    attemptFor code s ≤ 8 := by
  have hPaid := paid_attemptFor code s hBudget hCode
  have hInterval := intervalFor_ge code
  by_contra hBig
  have hPow : 2 ^ 9 ≤ 2 ^ attemptFor code s := Nat.pow_le_pow_right (by norm_num) (by omega)
  have hMul : retryExhaustedInterval * (2 ^ 9 - 1) ≤ intervalFor code * (2 ^ attemptFor code s - 1) :=
    Nat.mul_le_mul hInterval (by omega)
  unfold invokeTimeout at hAge
  unfold retryExhaustedInterval at hMul
  omega

theorem delayMS_le (code : Code) (s : RetryState) (hBudget : Budget s)
    (hCode : code = .resourceExhausted ∨ code = .unavailable) (hAge : s.retryAge ≤ invokeTimeout) :
    delayMS code s ≤ 2560 := by
  have hPaid := paid_attemptFor code s hBudget hCode
  have hOne : 1 ≤ 2 ^ attemptFor code s := Nat.one_le_two_pow
  unfold delayMS
  unfold invokeTimeout at hAge
  rcases hCode with rfl | rfl
  · have hLe : attemptFor .resourceExhausted s ≤ 8 := attemptFor_le _ s hBudget (.inl rfl) hAge
    have hPow : 2 ^ attemptFor .resourceExhausted s ≤ 2 ^ 8 := Nat.pow_le_pow_right (by norm_num) hLe
    simp only [intervalFor, if_true, retryExhaustedInterval]
    omega
  · have hPaid' : 100 * (2 ^ attemptFor .unavailable s - 1) ≤ s.retryAge := by
      simpa [intervalFor, retryUnavailableInterval] using hPaid
    have hLe : attemptFor .unavailable s ≤ 4 := by
      by_contra hBig
      have hPow : 2 ^ 5 ≤ 2 ^ attemptFor .unavailable s := Nat.pow_le_pow_right (by norm_num) (by omega)
      omega
    have hPow : 2 ^ attemptFor .unavailable s ≤ 2 ^ 4 := Nat.pow_le_pow_right (by norm_num) hLe
    simp only [intervalFor, reduceCtorEq, if_false, retryUnavailableInterval]
    omega

theorem budget_backoff (code : Code) (s : RetryState) (helper : ClientHelper) (hBudget : Budget s)
    (hCode : code = .resourceExhausted ∨ code = .unavailable) (hAge : s.retryAge ≤ invokeTimeout) :
    Budget (backoff code s helper) := by
  have hPaid := paid_attemptFor code s hBudget hCode
  have hDelay := delayMS_le code s hBudget hCode hAge
  have hInterval := intervalFor_ge code
  have hOne : 1 ≤ 2 ^ attemptFor code s := Nat.one_le_two_pow
  have hMin : intervalFor code ≤ delayMS code s := by
    unfold delayMS
    exact Nat.le_mul_of_pos_left _ hOne
  have hPer := hBudget.per_round
  have hRound := hBudget.round_le
  unfold invokeTimeout retryExhaustedInterval at *
  refine ⟨?_, ?_, ?_, ?_⟩
  · rw [currentInterval_backoff code s helper hCode]
    have hDouble : intervalFor code * (2 ^ (attemptFor code s + 1) - 1) =
        intervalFor code * (2 ^ attemptFor code s - 1) + delayMS code s := by
      rw [pow_succ, show 2 ^ attemptFor code s * 2 - 1 = (2 ^ attemptFor code s - 1) + 2 ^ attemptFor code s
        by omega, Nat.mul_add, delayMS, Nat.mul_comm (2 ^ attemptFor code s)]
    simp only [backoff]
    omega
  · simp only [backoff, retryExhaustedInterval]
    omega
  · simp only [backoff, invokeTimeout]
    omega
  · simp only [backoff]
    omega

section Loop
variable {α : Type} (conn : Nat → Connectivity) (callback : Nat → Except RpcError α)

theorem budget_run (helper : ClientHelper) (s : RetryState) (hReach : RetryReach conn callback helper s) :
    Budget s :=
  Transition.invariant (budget_start helper) (fun s s' hBudget hStep => by
    obtain ⟨code, helper', hCode, hAge, rfl⟩ := retryStep_eq_next conn callback hStep
    exact budget_backoff code s helper' hBudget hCode hAge) hReach

theorem retryLoop_isSome (fuel : Nat) (s : RetryState) (hBudget : Budget s)
    (hFuel : 302 ≤ fuel + s.round) : (retryLoop conn callback fuel s).isSome := by
  induction fuel generalizing s with
  | zero =>
    have := hBudget.round_le
    omega
  | succ fuel ih =>
    unfold retryLoop
    split
    · rfl
    · rename_i s' hNext
      obtain ⟨code, helper, hCode, hAge, rfl⟩ := retryStep_eq_next conn callback hNext
      exact ih _ (budget_backoff code s helper hBudget hCode hAge) (by simp only [backoff]; omega)

/-- For every sequence of connection states and callback outcomes, `retry`
returns within 302 rounds, so after at most 302 callbacks. In every round
`retryAge` is at most `2 * invokeTimeout + retryUnavailableInterval`, and every
exponent passed to `math.Pow` is at most 8. -/
theorem retry_terminates_bounded (helper : ClientHelper) :
    (retryLoop conn callback 302 (retryStart helper)).isSome ∧
      ∀ s, RetryReach conn callback helper s →
        s.retryAge ≤ 2 * invokeTimeout + retryUnavailableInterval ∧
        ∀ code, (code = .resourceExhausted ∨ code = .unavailable) → s.retryAge ≤ invokeTimeout →
          attemptFor code s ≤ 8 := by
  refine ⟨retryLoop_isSome conn callback 302 _ (budget_start helper) (by simp [retryStart]), ?_⟩
  intro s hReach
  have hBudget := budget_run conn callback helper s hReach
  refine ⟨?_, fun code hCode hAge => attemptFor_le code s hBudget hCode hAge⟩
  have hAge := hBudget.age_le
  unfold invokeTimeout retryUnavailableInterval at *
  omega

end Loop

/-! ## `Shutdown` -/

def shutdownCallback (busy : Nat → Int) (n : Nat) : Except RpcError Bool :=
  if busy (n + 1) > 0 then
    .error (.plain ("There are " ++ toString (busy (n + 1)) ++ " active RPC connections left"))
  else .ok true

def errorOf {α : Type} : Except RpcError α → Option RpcError
  | .ok _ => none
  | .error err => some err

/-- `Controller.Shutdown`: the error it returns, `none` for `nil`; the outer
`none` is the fuel of `retry` running out. -/
def shutdown (clientState : Option ClientHelper) (conn : Nat → Connectivity) (busy : Nat → Int)
    (fuel : Nat) : Option (Option RpcError) :=
  match clientState with
  | none => some none
  | some helper => (retryLoop conn (shutdownCallback busy) fuel (retryStart helper)).map errorOf

theorem shutdown_succ (helper : ClientHelper) (conn : Nat → Connectivity) (busy : Nat → Int)
    (fuel : Nat) :
    shutdown (some helper) conn busy (fuel + 1) =
      some (match (helper.ready (conn 0)).1 with
        | some stErr => some stErr
        | none => if 0 < busy 1 then
            some (.plain ("There are " ++ toString (busy 1) ++ " active RPC connections left"))
          else none) := by
  rcases hPair : helper.ready (conn 0) with ⟨ok, helper'⟩
  cases ok with
  | some stErr => simp [shutdown, retryLoop, retryStep, retryStart, hPair, errorOf]
  | none =>
    by_cases hBusy : 0 < busy 1
    · simp [shutdown, retryLoop, retryStep, retryStart, hPair, shutdownCallback, hBusy, fromError,
        errorOf]
    · simp [shutdown, retryLoop, retryStep, retryStart, hPair, shutdownCallback, hBusy, errorOf]

/-- With the connection usable and the controller busy at the first check,
`Shutdown` returns that check's error at once, whatever `busy()` would return
later: the plain error is not retried. -/
theorem shutdown_gives_up_at_first_check (helper : ClientHelper) (conn : Nat → Connectivity)
    (busy : Nat → Int) (fuel : Nat) (hReady : (helper.ready (conn 0)).1 = none) (hBusy : 0 < busy 1) :
    shutdown (some helper) conn busy (fuel + 1) =
      some (some (.plain ("There are " ++ toString (busy 1) ++ " active RPC connections left"))) := by
  rw [shutdown_succ, hReady]
  simp [hBusy]

theorem shutdown_gives_up_at_first_check_busy_once :
    (ClientHelper.ready ⟨false⟩ ((fun _ => .ready : Nat → Connectivity) 0)).1 = none ∧
      (0 : Int) < (fun n : Nat => if n ≤ 1 then (1 : Int) else 0) 1 ∧
      shutdown (some ⟨false⟩) (fun _ => .ready) (fun n => if n ≤ 1 then 1 else 0) 1 =
        some (some (.plain ("There are " ++ toString ((fun n : Nat => if n ≤ 1 then (1 : Int) else 0) 1) ++
          " active RPC connections left"))) :=
  ⟨rfl, by decide,
    shutdown_gives_up_at_first_check ⟨false⟩ (fun _ => .ready) (fun n => if n ≤ 1 then 1 else 0) 0 rfl
      (by decide)⟩

/-- `Shutdown` decides at its first check: it returns `nil` exactly when `Ready`
lets the first round through and the first `busy()` inside `retry` is zero, and
otherwise an error after that one round. -/
theorem shutdown_eq_nil_iff (helper : ClientHelper) (conn : Nat → Connectivity) (busy : Nat → Int)
    (fuel : Nat) :
    (shutdown (some helper) conn busy (fuel + 1) = some none ↔
        (helper.ready (conn 0)).1 = none ∧ busy 1 ≤ 0) ∧
      (¬((helper.ready (conn 0)).1 = none ∧ busy 1 ≤ 0) →
        ∃ err, shutdown (some helper) conn busy (fuel + 1) = some (some err)) := by
  rw [shutdown_succ]
  cases (helper.ready (conn 0)).1 with
  | some stErr => simp
  | none =>
    by_cases hBusy : 0 < busy 1
    · simp [hBusy]
    · have hLe : busy 1 ≤ 0 := not_lt.mp hBusy
      simp [hBusy, hLe]

example : shutdown (some ⟨false⟩) (fun _ => .ready) (fun _ => 0) 1 = some none := by decide

end AnyCable.Rpc
