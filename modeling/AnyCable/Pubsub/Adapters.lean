import Mathlib.Data.List.DropRight
import Mathlib.Tactic.IntervalCases

/-! # The pub/sub adapters

Both adapters (`pubsub/subscriber.go`) hand what they receive to
`Node.HandlePubSub`.

The HTTP adapter (`pubsub/http.go`) answers a broadcast request. Anything but
a `POST` gets 422, and so does a body that cannot be read. When a secret is set,
a request whose `Authorization` header is not `Bearer <secret>` gets 401. Every
other request is handed to the node and answered 201 (`handler_hands_over`).

The Redis adapter (`pubsub/redis.go`) runs `listen` in a loop. `listen` resets
`reconnectAttempt` once it has subscribed, and returns only when the
subscription fails. `Start` then counts the attempt, gives up when the count
reaches `maxReconnectAttempts`, and otherwise sleeps `nextRetry` seconds. So it
gives up after five failed connections from the start, or after a lost
subscription followed by four failed connections (`start_gives_up_iff`). Every
sleep is between 1 and 91 seconds, and with Redis down the sleeps before giving
up add up to at most 176 seconds (`start_sleeps_bounded`).

Each round of the loop is given by what `MasterAddr` and the calls of `listen`
return, and by the value `rand.Intn` draws. The sentinel discovery goroutine,
the keepalive pings and the receive goroutine are left out.
-/

namespace AnyCable.Pubsub
set_option autoImplicit false

/-! ## The HTTP adapter -/

structure Request where
  method : String
  authorization : String
  body : Option (List Char)

/-- `authHeader` as `NewHTTPSubscriber` builds it from the secret. -/
def authHeaderFor (secret : String) : String :=
  if secret ≠ "" then "Bearer " ++ secret else ""

/-- `HTTPSubscriber.Handler`: the status written, and the body handed to
`HandlePubSub`. -/
def handler (authHeader : String) (r : Request) : Nat × Option (List Char) :=
  if r.method ≠ "POST" then (422, none)
  else if authHeader ≠ "" ∧ r.authorization ≠ authHeader then (401, none)
  else
    match r.body with
    | none => (422, none)
    | some body => (201, some body)

theorem handler_hands_over (secret : String) (r : Request) :
    ((handler (authHeaderFor secret) r).1 = 201 ↔ (handler (authHeaderFor secret) r).2.isSome) ∧
    ∀ body, (handler (authHeaderFor secret) r).2 = some body ↔
      r.method = "POST" ∧ (secret = "" ∨ r.authorization = "Bearer " ++ secret) ∧ r.body = some body := by
  have hAuth : (authHeaderFor secret ≠ "" ∧ r.authorization ≠ authHeaderFor secret) ↔
      ¬ (secret = "" ∨ r.authorization = "Bearer " ++ secret) := by
    by_cases hSecret : secret = ""
    · simp [hSecret, authHeaderFor]
    · simp [hSecret, authHeaderFor]
  unfold handler
  by_cases hPost : r.method = "POST"
  · by_cases hAllowed : secret = "" ∨ r.authorization = "Bearer " ++ secret
    · have hNot : ¬ (authHeaderFor secret ≠ "" ∧ r.authorization ≠ authHeaderFor secret) :=
        fun h => hAuth.mp h hAllowed
      cases hBody : r.body with
      | none => simp [hPost, hNot]
      | some b => simp [hPost, hNot, hAllowed]
    · simp [hPost, hAuth.mpr hAllowed, hAllowed]
  · simp [hPost]

/-! ## The Redis adapter -/

def maxReconnectAttempts : Nat := 5

/-- `nextRetry(step)` in seconds; `seed % (step * 4)` is what
`rand.Intn(step * 4)` draws. -/
def nextRetry (step seed : Nat) : Nat := step * step + seed % (step * 4) * (step + 1)

structure ListenRun where
  dialOk : Bool
  isMaster : Bool
  subscribeOk : Bool

structure RedisState where
  reconnectAttempt : Nat
  openConns : Nat

/-- `listen`: it dials, checks the role when there are sentinels, defers the
close, subscribes and resets the counter; once subscribed it returns only when
the subscription fails. -/
def listen (sentinels : Bool) (l : ListenRun) (s : RedisState) : RedisState :=
  if !l.dialOk then s
  else if sentinels && !l.isMaster then { s with openConns := s.openConns + 1 }
  else if !l.subscribeOk then s
  else { s with reconnectAttempt := 0 }

structure Round where
  masterAddrOk : Bool
  listen : ListenRun
  seed : Nat

inductive StartError where
  | urlParse
  | masterAddr
  | attemptsExceeded
  deriving DecidableEq, Repr

inductive RoundEnd where
  | returned (e : StartError) (s : RedisState)
  | next (s : RedisState) (delay : Nat)

def startRound (sentinels : Bool) (s : RedisState) (rd : Round) : RoundEnd :=
  if sentinels && !rd.masterAddrOk then .returned .masterAddr s
  else
    let s := listen sentinels rd.listen s
    let s := { s with reconnectAttempt := s.reconnectAttempt + 1 }
    if s.reconnectAttempt ≥ maxReconnectAttempts then .returned .attemptsExceeded s
    else .next s (nextRetry s.reconnectAttempt rd.seed)

structure StartRun where
  exit : Option StartError
  state : RedisState
  delays : List Nat

def startLoop (sentinels : Bool) : RedisState → List Round → StartRun
  | s, [] => ⟨none, s, []⟩
  | s, rd :: rest =>
    match startRound sentinels s rd with
    | .returned e s' => ⟨some e, s', []⟩
    | .next s' delay =>
      let r := startLoop sentinels s' rest
      { r with delays := delay :: r.delays }

/-- `RedisSubscriber.Start`, with whether `url.Parse` accepts the URL. -/
def start (sentinels urlOk : Bool) (s : RedisState) (rounds : List Round) : StartRun :=
  if !urlOk then ⟨some .urlParse, s, []⟩ else startLoop sentinels s rounds

/-! ### One round -/

def ListenRun.subscribes (sentinels : Bool) (l : ListenRun) : Bool :=
  l.dialOk && (!sentinels || l.isMaster) && l.subscribeOk

def ListenRun.leavesOpen (sentinels : Bool) (l : ListenRun) : Bool :=
  l.dialOk && sentinels && !l.isMaster

section Round
variable (sentinels : Bool)

@[simp] theorem listen_reconnectAttempt (l : ListenRun) (s : RedisState) :
    (listen sentinels l s).reconnectAttempt = if l.subscribes sentinels then 0 else s.reconnectAttempt := by
  unfold listen ListenRun.subscribes
  cases l.dialOk <;> cases sentinels <;> cases l.isMaster <;> cases l.subscribeOk <;> rfl

@[simp] theorem listen_openConns (l : ListenRun) (s : RedisState) :
    (listen sentinels l s).openConns = s.openConns + (l.leavesOpen sentinels).toNat := by
  unfold listen ListenRun.leavesOpen
  cases l.dialOk <;> cases sentinels <;> cases l.isMaster <;> cases l.subscribeOk <;> rfl

def attemptAfter (attempt : Nat) (rd : Round) : Nat :=
  (if rd.listen.subscribes sentinels then 0 else attempt) + 1

theorem startRound_eq_next {s s' : RedisState} {rd : Round} {delay : Nat}
    (h : startRound sentinels s rd = .next s' delay) :
    (sentinels = true → rd.masterAddrOk = true) ∧
      s'.reconnectAttempt = attemptAfter sentinels s.reconnectAttempt rd ∧
      s'.reconnectAttempt < maxReconnectAttempts ∧
      s'.openConns = s.openConns + (rd.listen.leavesOpen sentinels).toNat ∧
      delay = nextRetry s'.reconnectAttempt rd.seed := by
  unfold startRound at h
  split at h
  · cases h
  · rename_i hMaster
    dsimp only at h
    split at h
    · cases h
    · rename_i hLt
      cases h
      refine ⟨fun hs => by simpa [hs] using hMaster, ?_, by simpa using hLt, by simp, rfl⟩
      simp [attemptAfter]

theorem startRound_of_masterAddrOk {s : RedisState} {rd : Round}
    (hMaster : sentinels = true → rd.masterAddrOk = true) :
    (maxReconnectAttempts ≤ attemptAfter sentinels s.reconnectAttempt rd ∧
        ∃ s', startRound sentinels s rd = .returned .attemptsExceeded s') ∨
      (attemptAfter sentinels s.reconnectAttempt rd < maxReconnectAttempts ∧
        ∃ s' delay, startRound sentinels s rd = .next s' delay) := by
  have hGuard : (sentinels && !rd.masterAddrOk) = false := by
    cases sentinels
    · rfl
    · simp [hMaster rfl]
  unfold startRound
  rw [hGuard, if_neg Bool.false_ne_true]
  dsimp only
  split
  · rename_i hGe
    exact .inl ⟨by simpa [attemptAfter] using hGe, _, rfl⟩
  · rename_i hLt
    exact .inr ⟨by simpa [attemptAfter] using hLt, _, _, rfl⟩

end Round

/-! ### What the counter counts -/

section Counter
variable (sentinels : Bool)

def attemptCount (attempt : Nat) (l : List Round) : Nat := l.foldl (attemptAfter sentinels) attempt

def failed (rd : Round) : Bool := !rd.listen.subscribes sentinels

theorem attemptCount_concat (attempt : Nat) (l : List Round) (rd : Round) :
    attemptCount sentinels attempt (l ++ [rd]) = attemptAfter sentinels (attemptCount sentinels attempt l) rd := by
  simp [attemptCount]

theorem attemptCount_append_of_failed (attempt : Nat) (l fails : List Round)
    (hFails : ∀ rd ∈ fails, failed sentinels rd = true) :
    attemptCount sentinels attempt (l ++ fails) = attemptCount sentinels attempt l + fails.length := by
  induction fails using List.reverseRecOn with
  | nil => simp
  | append_singleton fails rd ih =>
    have hRd : rd.listen.subscribes sentinels = false := by
      simpa [failed] using hFails rd (by simp)
    rw [← List.append_assoc, attemptCount_concat, ih fun x hx => hFails x (by simp [hx])]
    simp [attemptAfter, hRd]
    omega

theorem attemptCount_zero (l : List Round) :
    attemptCount sentinels 0 l =
      (if l.rdropWhile (failed sentinels) = [] then 0 else 1) + (l.rtakeWhile (failed sentinels)).length := by
  induction l using List.reverseRecOn with
  | nil => rfl
  | append_singleton l rd ih =>
    rw [attemptCount_concat, ih, List.rdropWhile_concat, List.rtakeWhile_concat]
    cases hRd : failed sentinels rd
    · have hSub : rd.listen.subscribes sentinels = true := by simpa [failed] using hRd
      simp [attemptAfter, hSub]
    · have hSub : rd.listen.subscribes sentinels = false := by simpa [failed] using hRd
      simp [attemptAfter, hSub]
      omega

theorem exists_attemptCount_ge_iff (rounds : List Round) :
    (∃ pre rd post, rounds = pre ++ rd :: post ∧ maxReconnectAttempts ≤ attemptCount sentinels 0 (pre ++ [rd])) ↔
      ∃ pre fails post, rounds = pre ++ fails ++ post ∧ (∀ rd ∈ fails, failed sentinels rd = true) ∧
        ((pre = [] ∧ fails.length = 5) ∨
          (∃ pre' rd, pre = pre' ++ [rd] ∧ failed sentinels rd = false ∧ fails.length = 4)) := by
  constructor
  · rintro ⟨pre, rd, post, rfl, hCount⟩
    set p := pre ++ [rd] with hp
    have hSplit := List.rdropWhile_append_rtakeWhile (p := failed sentinels) (l := p)
    have hTail : ∀ x ∈ p.rtakeWhile (failed sentinels), failed sentinels x = true :=
      fun x hx => List.mem_rtakeWhile_imp hx
    rw [attemptCount_zero] at hCount
    unfold maxReconnectAttempts at hCount
    have hRounds : pre ++ rd :: post = p ++ post := by simp [hp]
    by_cases hNil : p.rdropWhile (failed sentinels) = []
    · rw [if_pos hNil, Nat.zero_add] at hCount
      have hAll := List.rdropWhile_eq_nil_iff.mp hNil
      rw [List.rtakeWhile_eq_self_iff.mpr hAll] at hCount
      refine ⟨[], p.take 5, p.drop 5 ++ post, ?_, ?_, .inl ⟨rfl, ?_⟩⟩
      · rw [hRounds, List.nil_append, ← List.append_assoc, List.take_append_drop]
      · intro x hx
        exact hAll x (List.mem_of_mem_take hx)
      · simp only [List.length_take]
        omega
    · rw [if_neg hNil] at hCount
      obtain ⟨pre', x, hLast⟩ := List.eq_nil_or_concat (p.rdropWhile (failed sentinels)) |>.resolve_left hNil
      rw [List.concat_eq_append] at hLast
      have hx : failed sentinels x = false := by
        have := List.rdropWhile_last_not (failed sentinels) p hNil
        simpa [hLast] using this
      set t := p.rtakeWhile (failed sentinels)
      refine ⟨pre' ++ [x], t.take 4, t.drop 4 ++ post, ?_, ?_, .inr ⟨pre', x, rfl, hx, ?_⟩⟩
      · rw [hRounds, ← hSplit, hLast]
        simp only [List.append_assoc, List.cons_append, List.nil_append]
        rw [← List.append_assoc (t.take 4), List.take_append_drop]
      · intro y hy
        exact hTail y (List.mem_of_mem_take hy)
      · simp only [List.length_take]
        omega
  · rintro ⟨pre, fails, post, rfl, hFails, hWindow⟩
    have hNe : fails ≠ [] := by
      rintro rfl
      rcases hWindow with ⟨-, h⟩ | ⟨-, -, -, -, h⟩ <;> simp at h
    obtain ⟨fails', rd, rfl⟩ := List.eq_nil_or_concat fails |>.resolve_left hNe
    rw [List.concat_eq_append] at hFails hWindow ⊢
    refine ⟨pre ++ fails', rd, post, by simp, ?_⟩
    rw [List.append_assoc, attemptCount_append_of_failed sentinels 0 pre _ hFails]
    rcases hWindow with ⟨rfl, hLen⟩ | ⟨pre', x, rfl, hx, hLen⟩
    · simp only [List.length_append, List.length_singleton] at hLen ⊢
      simp [attemptCount, maxReconnectAttempts]
      omega
    · have hSub : x.listen.subscribes sentinels = true := by simpa [failed] using hx
      rw [attemptCount_concat]
      simp only [attemptAfter, hSub, if_true, maxReconnectAttempts]
      omega

end Counter

/-! ### Runs of `Start` -/

section Loop
variable (sentinels : Bool)

theorem startLoop_exceeded_iff (s : RedisState) (rounds : List Round)
    (hMaster : ∀ rd ∈ rounds, sentinels = true → rd.masterAddrOk = true) :
    (startLoop sentinels s rounds).exit = some .attemptsExceeded ↔
      ∃ pre rd post, rounds = pre ++ rd :: post ∧
        maxReconnectAttempts ≤ attemptCount sentinels s.reconnectAttempt (pre ++ [rd]) := by
  induction rounds generalizing s with
  | nil => simp [startLoop]
  | cons rd rest ih =>
    rcases startRound_of_masterAddrOk sentinels (hMaster rd (by simp)) (s := s) with
      ⟨hCount, s', hRound⟩ | ⟨hCount, s', delay, hRound⟩
    · simp only [startLoop, hRound, true_iff]
      exact ⟨[], rd, rest, rfl, by simpa [attemptCount] using hCount⟩
    · have hNext := startRound_eq_next sentinels hRound
      simp only [startLoop, hRound]
      rw [ih s' fun x hx => hMaster x (by simp [hx])]
      constructor
      · rintro ⟨pre, rd', post, rfl, h⟩
        refine ⟨rd :: pre, rd', post, rfl, ?_⟩
        simpa [attemptCount, hNext.2.1] using h
      · rintro ⟨pre, rd', post, hEq, h⟩
        cases pre with
        | nil =>
          obtain ⟨rfl, -⟩ := List.cons.inj hEq
          simp [attemptCount] at h
          omega
        | cons x pre =>
          obtain ⟨rfl, rfl⟩ := List.cons.inj hEq
          refine ⟨pre, rd', post, rfl, ?_⟩
          simpa [attemptCount, hNext.2.1] using h

/-- `Start` from a new subscriber gives up exactly when five connections in a
row fail from the start, or four in a row fail after a lost subscription. -/
theorem start_gives_up_iff (rounds : List Round) (hMaster : ∀ rd ∈ rounds, sentinels = true → rd.masterAddrOk = true) :
    (start sentinels true ⟨0, 0⟩ rounds).exit = some .attemptsExceeded ↔
      ∃ pre fails post, rounds = pre ++ fails ++ post ∧
        (∀ rd ∈ fails, rd.listen.subscribes sentinels = false) ∧
        ((pre = [] ∧ fails.length = 5) ∨
          (∃ pre' rd, pre = pre' ++ [rd] ∧ rd.listen.subscribes sentinels = true ∧ fails.length = 4)) := by
  rw [start, if_neg (by simp), startLoop_exceeded_iff sentinels _ rounds hMaster,
    exists_attemptCount_ge_iff]
  simp [failed]

theorem start_gives_up_iff_redis_down :
    (∀ rd ∈ List.replicate 5 (⟨true, ⟨false, true, true⟩, 0⟩ : Round), false = true → rd.masterAddrOk = true) ∧
      ((start false true ⟨0, 0⟩ (List.replicate 5 ⟨true, ⟨false, true, true⟩, 0⟩)).exit = some .attemptsExceeded ↔
        ∃ pre fails post, List.replicate 5 (⟨true, ⟨false, true, true⟩, 0⟩ : Round) = pre ++ fails ++ post ∧
          (∀ rd ∈ fails, rd.listen.subscribes false = false) ∧
          ((pre = [] ∧ fails.length = 5) ∨
            (∃ pre' rd, pre = pre' ++ [rd] ∧ rd.listen.subscribes false = true ∧ fails.length = 4))) :=
  ⟨by decide, start_gives_up_iff false _ (by decide)⟩

/-! ### The sleeps -/

theorem nextRetry_bounds {k : Nat} (seed : Nat) (hk1 : 1 ≤ k) (hk : k < maxReconnectAttempts) :
    1 ≤ nextRetry k seed ∧ nextRetry k seed ≤ 91 := by
  unfold maxReconnectAttempts at hk
  interval_cases k <;> simp only [nextRetry] <;> omega

theorem startLoop_delays (s : RedisState) (rounds : List Round) :
    ∀ d ∈ (startLoop sentinels s rounds).delays,
      ∃ k seed, 1 ≤ k ∧ k < maxReconnectAttempts ∧ d = nextRetry k seed := by
  induction rounds generalizing s with
  | nil => simp [startLoop]
  | cons rd rest ih =>
    unfold startLoop
    split
    · simp
    · rename_i s' delay hRound
      obtain ⟨-, hCount, hLt, -, rfl⟩ := startRound_eq_next sentinels hRound
      intro d hd
      simp only [List.mem_cons] at hd
      rcases hd with rfl | hd
      · exact ⟨_, rd.seed, by simp [hCount, attemptAfter], hLt, rfl⟩
      · exact ih s' d hd

def sleepBudget : Nat → Nat
  | 0 => 176
  | 1 => 169
  | 2 => 144
  | 3 => 91
  | _ => 0

theorem nextRetry_add_sleepBudget {a : Nat} (seed : Nat) (ha : a + 1 < maxReconnectAttempts) :
    nextRetry (a + 1) seed + sleepBudget (a + 1) ≤ sleepBudget a := by
  have hA : a < 4 := by
    unfold maxReconnectAttempts at ha
    omega
  interval_cases a <;> simp only [nextRetry, sleepBudget] <;> omega

theorem startLoop_sum_delays_of_failed (s : RedisState) (rounds : List Round)
    (hFailed : ∀ rd ∈ rounds, rd.listen.subscribes sentinels = false) :
    (startLoop sentinels s rounds).delays.sum ≤ sleepBudget s.reconnectAttempt := by
  induction rounds generalizing s with
  | nil => simp [startLoop]
  | cons rd rest ih =>
    unfold startLoop
    split
    · simp
    · rename_i s' delay hRound
      obtain ⟨-, hCount, hLt, -, rfl⟩ := startRound_eq_next sentinels hRound
      have hRd := hFailed rd (by simp)
      simp only [attemptAfter, hRd, Bool.false_eq_true, if_false] at hCount
      have hRest := ih s' fun x hx => hFailed x (by simp [hx])
      rw [hCount] at hRest hLt ⊢
      simp only [List.sum_cons]
      have := nextRetry_add_sleepBudget rd.seed hLt
      omega

/-- Every sleep of `Start` is between 1 and 91 seconds, and while no connection
subscribes, a new subscriber sleeps at most 176 seconds in all. -/
theorem start_sleeps_bounded (s : RedisState) (rounds : List Round) :
    (∀ d ∈ (start sentinels true s rounds).delays, 1 ≤ d ∧ d ≤ 91) ∧
      ((∀ rd ∈ rounds, rd.listen.subscribes sentinels = false) →
        (start sentinels true ⟨0, 0⟩ rounds).delays.sum ≤ 176) := by
  rw [start, if_neg (by simp), start, if_neg (by simp)]
  refine ⟨fun d hd => ?_, fun hFailed => startLoop_sum_delays_of_failed sentinels _ rounds hFailed⟩
  obtain ⟨k, seed, hk1, hk, rfl⟩ := startLoop_delays sentinels s rounds d hd
  exact nextRetry_bounds seed hk1 hk

theorem start_sleeps_bounded_redis_down :
    (∀ rd ∈ List.replicate 5 (⟨true, ⟨false, true, true⟩, 0⟩ : Round), rd.listen.subscribes false = false) ∧
      (start false true ⟨0, 0⟩ (List.replicate 5 ⟨true, ⟨false, true, true⟩, 0⟩)).delays.sum ≤ 176 :=
  have hFailed : ∀ rd ∈ List.replicate 5 (⟨true, ⟨false, true, true⟩, 0⟩ : Round),
      rd.listen.subscribes false = false := by decide
  ⟨hFailed, (start_sleeps_bounded false ⟨0, 0⟩ _).2 hFailed⟩

end Loop

end AnyCable.Pubsub
