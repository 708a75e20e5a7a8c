import AnyCable.Lib.Chan
import AnyCable.Lib.Transition
import Mathlib.Data.List.Basic

/-! # The goroutine pool of the broadcasts

`GoPool` (`utils/gopool.go`): `p.sem` counts the running workers up to `size`,
`p.work` queues tasks. `schedule` queues a task when `p.work` has room or starts
a new worker with it when `p.sem` has room, choosing at random when both have;
it waits when neither has. A worker runs its first task, then takes tasks from
`p.work` and exits after `workerRespawnThreshold` tasks, releasing its token.

Here one goroutine, `Hub.Run`, schedules a list of tasks in order, and a task's
run is one atomic step, logged in `executed`. For the hub each task is one
broadcast to a stream, and running it places its frame in the subscribed
session's `sendCh`.

With the default size 16 two workers can run two broadcasts of one stream at
once, so the later one may reach the session first
(`broadcasts_reordered_at_default_size`). With one worker the frames keep the
order of `Hub.Run` until that worker first exits (`executed_prefix_of_single_worker`).

The tokens of `p.sem` count the live workers (`sem_eq_workers_run`). A worker
exits at the threshold whatever `p.work` holds, so the last worker can leave a
queued task that no step will ever run (`last_task_stranded`).
-/

namespace AnyCable.Utils
set_option autoImplicit false

def workerRespawnThreshold : Nat := 1 <<< 16

def spawnSize (size : Nat) : Nat :=
  let spawn := size / 5
  let spawn := if spawn = 0 then 1 else spawn
  if spawn > 1024 then 1024 else spawn

def queueSize (size : Nat) : Nat :=
  let queue := size / 2
  if queue = 0 then 1 else queue

inductive Worker (τ : Type) where
  | running (task : τ) (counter : Nat)
  | waiting (counter : Nat)
  deriving DecidableEq

def Worker.tasks {τ : Type} : Worker τ → List τ
  | .running task _ => [task]
  | .waiting _ => []

structure PoolRun (τ : Type) where
  size : Nat
  sem : Nat
  work : GoChan.Chan τ
  workers : List (Worker τ)
  pending : List τ
  executed : List τ
  exits : Nat
  deriving DecidableEq

/-- `NewGoPool(name, size)` whose scheduler will schedule `tasks`. The workers
it starts have run their empty first task. -/
def newGoPool {τ : Type} (size : Nat) (tasks : List τ) : PoolRun τ :=
  ⟨size, spawnSize size, GoChan.make (queueSize size), List.replicate (spawnSize size) (.waiting 1),
    tasks, [], 0⟩

variable {τ : Type} [DecidableEq τ]

inductive PoolStep : PoolRun τ → PoolRun τ → Prop
  | scheduleQueue (p : PoolRun τ) (task : τ) (rest : List τ) (c : GoChan.Chan τ)
      (hPending : p.pending = task :: rest) (hSend : GoChan.send p.work task = some c) :
      PoolStep p { p with work := c, pending := rest }
  | scheduleSpawn (p : PoolRun τ) (task : τ) (rest : List τ) (hPending : p.pending = task :: rest)
      (hRoom : p.sem < p.size) :
      PoolStep p { p with sem := p.sem + 1, workers := .running task 1 :: p.workers, pending := rest }
  | take (p : PoolRun τ) (counter : Nat) (task : τ) (c : GoChan.Chan τ)
      (hWorker : .waiting counter ∈ p.workers) (hRecv : GoChan.recv p.work = some (task, c)) :
      PoolStep p
        { p with work := c,
                 workers := .running task (counter + 1) :: p.workers.erase (.waiting counter) }
  | runContinue (p : PoolRun τ) (task : τ) (counter : Nat)
      (hWorker : .running task counter ∈ p.workers) (hBelow : counter < workerRespawnThreshold) :
      PoolStep p
        { p with executed := p.executed ++ [task],
                 workers := .waiting counter :: p.workers.erase (.running task counter) }
  | runExit (p : PoolRun τ) (task : τ) (counter : Nat)
      (hWorker : .running task counter ∈ p.workers) (hAt : workerRespawnThreshold ≤ counter) :
      PoolStep p
        { p with executed := p.executed ++ [task], workers := p.workers.erase (.running task counter),
                 sem := p.sem - 1, exits := p.exits + 1 }

/-! ### Two workers reorder two broadcasts -/

/-- At the default size 16, the pool starts three workers; `Hub.Run` queues
broadcasts 1 and 2, two workers take one each, and the worker with broadcast 2
runs first. -/
theorem broadcasts_reordered_at_default_size :
    ∃ p, Relation.ReflTransGen PoolStep (newGoPool 16 [1, 2]) p ∧ p.executed = [2, 1] := by
  have hRun := (((((Relation.ReflTransGen.single
      (PoolStep.scheduleQueue (newGoPool 16 [1, 2]) 1 [2] _ rfl rfl)).tail
      (PoolStep.scheduleQueue _ 2 [] _ rfl rfl)).tail
      (PoolStep.take _ 1 1 _ (by decide) rfl)).tail
      (PoolStep.take _ 1 2 _ (by decide) rfl)).tail
      (PoolStep.runContinue _ 2 2 (by decide) (by decide))).tail
      (PoolStep.runContinue _ 1 2 (by decide) (by decide))
  exact ⟨_, hRun, rfl⟩

/-! ### One worker keeps the order until it first exits -/

def idleSingle (counter : Nat) (pending executed : List τ) : PoolRun τ :=
  ⟨1, 1, GoChan.make 1, [.waiting counter], pending, executed, 0⟩

omit [DecidableEq τ] in
theorem newGoPool_one (tasks : List τ) : newGoPool 1 tasks = idleSingle 1 tasks [] := rfl

theorem idleSingle_succ (counter : Nat) (task : τ) (rest executed : List τ)
    (hBelow : counter + 1 < workerRespawnThreshold) :
    Relation.ReflTransGen PoolStep (idleSingle counter (task :: rest) executed)
      (idleSingle (counter + 1) rest (executed ++ [task])) := by
  have hQueue := PoolStep.scheduleQueue (idleSingle counter (task :: rest) executed) task rest
    ⟨1, [task], by simp⟩ rfl rfl
  have hRound := ((Relation.ReflTransGen.single hQueue).tail
    (PoolStep.take _ counter task (GoChan.make 1) (by simp [idleSingle]) rfl)).tail
    (PoolStep.runContinue _ task (counter + 1) (by simp) hBelow)
  convert hRound using 1
  simp [idleSingle]

theorem idleSingle_run (tasks : List τ) (counter : Nat) (rest executed : List τ)
    (hBelow : counter + tasks.length < workerRespawnThreshold) :
    Relation.ReflTransGen PoolStep (idleSingle counter (tasks ++ rest) executed)
      (idleSingle (counter + tasks.length) rest (executed ++ tasks)) := by
  induction tasks generalizing counter executed with
  | nil => simpa using Relation.ReflTransGen.refl
  | cons task tasks ih =>
    have hNext := ih (counter + 1) (executed ++ [task]) (by simp at hBelow; omega)
    simp only [List.length_cons, List.cons_append, List.append_assoc] at hNext ⊢
    rw [show counter + (tasks.length + 1) = counter + 1 + tasks.length by omega]
    exact (idleSingle_succ counter task (tasks ++ rest) executed (by simp at hBelow; omega)).trans hNext

def InOrder (tasks : List τ) (p : PoolRun τ) : Prop :=
  p.exits = 0 → p.size = 1 ∧ p.sem = 1 ∧ p.workers.length = 1 ∧
    p.executed ++ p.workers.flatMap Worker.tasks ++ p.work.buf ++ p.pending = tasks

theorem inOrder_step (tasks : List τ) (p p' : PoolRun τ) (hOrder : InOrder tasks p)
    (hStep : PoolStep p p') : InOrder tasks p' := by
  intro hNoExit
  cases hStep with
  | scheduleQueue task rest c hPending hSend =>
    obtain ⟨hSize, hSem, hOne, hEq⟩ := hOrder hNoExit
    obtain ⟨-, -, hBuf⟩ := (GoChan.send_eq_some_iff _ _ _).mp hSend
    refine ⟨hSize, hSem, hOne, ?_⟩
    rw [hPending] at hEq
    simpa [hBuf] using hEq
  | scheduleSpawn task rest hPending hRoom =>
    obtain ⟨hSize, hSem, -, -⟩ := hOrder hNoExit
    omega
  | take counter task c hWorker hRecv =>
    obtain ⟨hSize, hSem, hOne, hEq⟩ := hOrder hNoExit
    obtain ⟨hBuf, -⟩ := (GoChan.recv_eq_some_iff _ _ _).mp hRecv
    obtain ⟨w, hW⟩ := List.length_eq_one_iff.mp hOne
    rw [hW, List.mem_singleton] at hWorker
    subst hWorker
    refine ⟨hSize, hSem, by simp [hW], ?_⟩
    rw [hW, hBuf] at hEq
    simpa [hW, Worker.tasks] using hEq
  | runContinue task counter hWorker hBelow =>
    obtain ⟨hSize, hSem, hOne, hEq⟩ := hOrder hNoExit
    obtain ⟨w, hW⟩ := List.length_eq_one_iff.mp hOne
    rw [hW, List.mem_singleton] at hWorker
    subst hWorker
    refine ⟨hSize, hSem, by simp [hW], ?_⟩
    rw [hW] at hEq
    simpa [hW, Worker.tasks] using hEq
  | runExit task counter hWorker hAt => simp at hNoExit

/-- With `HubGopoolSize` 1, the tasks run in the order `Hub.Run` scheduled
them, in every run up to the worker's first exit at the threshold. -/
theorem executed_prefix_of_single_worker (tasks : List τ) (p : PoolRun τ)
    (hRun : Relation.ReflTransGen PoolStep (newGoPool 1 tasks) p) (hNoExit : p.exits = 0) :
    p.executed <+: tasks := by
  have hStart : InOrder tasks (newGoPool 1 tasks) := fun _ => by
    simp [newGoPool, spawnSize, GoChan.make, Worker.tasks]
  have hOrder := Transition.invariant hStart (fun p p' h hs => inOrder_step tasks p p' h hs) hRun
  obtain ⟨-, -, -, hEq⟩ := hOrder hNoExit
  exact ⟨_, by simpa only [List.append_assoc] using hEq⟩

theorem executed_prefix_of_single_worker_two_run :
    Relation.ReflTransGen PoolStep (newGoPool 1 [1, 2, 3]) (idleSingle 3 [3] [1, 2]) ∧
      (idleSingle 3 [3] [1, 2] : PoolRun Nat).exits = 0 ∧
      (idleSingle 3 [3] [1, 2] : PoolRun Nat).executed <+: [1, 2, 3] :=
  ⟨idleSingle_run [1, 2] 1 [3] [] (by decide), rfl,
    executed_prefix_of_single_worker [1, 2, 3] _ (idleSingle_run [1, 2] 1 [3] [] (by decide)) rfl⟩

/-! ### Tokens and workers

Every worker holds one token of `p.sem`: `schedule` puts one in before it
starts a worker and the worker's deferred `<-p.sem` takes it out when it
exits, so the tokens count the live workers and never exceed `size`.
-/

theorem spawnSize_le (size : Nat) (hSize : 1 ≤ size) : spawnSize size ≤ size := by
  unfold spawnSize
  dsimp only
  split_ifs <;> omega

/-- `p.sem` holds one token per live worker, and at most `size`. -/
def TokensMatch (p : PoolRun τ) : Prop := p.sem = p.workers.length ∧ p.sem ≤ p.size

theorem tokensMatch_step (p p' : PoolRun τ) (hTokens : TokensMatch p) (hStep : PoolStep p p') :
    TokensMatch p' := by
  obtain ⟨hSem, hLe⟩ := hTokens
  cases hStep with
  | scheduleQueue => exact ⟨hSem, hLe⟩
  | scheduleSpawn task rest hPending hRoom =>
    refine ⟨by simp [hSem], ?_⟩
    simp only
    omega
  | take counter task c hWorker =>
    have hPos := List.length_pos_of_mem hWorker
    refine ⟨?_, hLe⟩
    simp only [List.length_cons, List.length_erase_of_mem hWorker]
    omega
  | runContinue task counter hWorker =>
    have hPos := List.length_pos_of_mem hWorker
    refine ⟨?_, hLe⟩
    simp only [List.length_cons, List.length_erase_of_mem hWorker]
    omega
  | runExit task counter hWorker =>
    refine ⟨?_, ?_⟩
    · simp only [List.length_erase_of_mem hWorker]
      omega
    · simp only
      omega

/-- In every run of a pool built with `size ≥ 1`, `p.sem` holds exactly one
token per live worker, and at most `size` tokens. -/
theorem sem_eq_workers_run (size : Nat) (tasks : List τ) (hSize : 1 ≤ size) (p : PoolRun τ)
    (hRun : Relation.ReflTransGen PoolStep (newGoPool size tasks) p) :
    p.sem = p.workers.length ∧ p.sem ≤ p.size := by
  have hStart : TokensMatch (newGoPool size tasks) :=
    ⟨by simp [newGoPool], spawnSize_le size hSize⟩
  exact Transition.invariant (I := TokensMatch) hStart (fun p p' h hs => tokensMatch_step p p' h hs) hRun

theorem sem_eq_workers_run_spawned :
    1 ≤ 16 ∧
      Relation.ReflTransGen PoolStep (newGoPool 16 [1])
        ⟨16, 4, GoChan.make 8, List.replicate 4 (.waiting 1), [], [1], 0⟩ ∧
      4 = (List.replicate 4 (Worker.waiting 1 : Worker Nat)).length ∧ 4 ≤ 16 :=
  have hRun : Relation.ReflTransGen PoolStep (newGoPool 16 [1])
      ⟨16, 4, GoChan.make 8, List.replicate 4 (.waiting 1), [], [1], 0⟩ :=
    (Relation.ReflTransGen.single (PoolStep.scheduleSpawn (newGoPool 16 [1]) 1 [] rfl (by decide))).tail
      (PoolStep.runContinue _ 1 1 (by decide) (by decide))
  ⟨by decide, hRun, sem_eq_workers_run 16 [1] (by decide) _ hRun⟩

/-! ### The last worker exits over a queued task

A worker leaves at the threshold whatever `p.work` holds. With one worker, the
scheduler can queue a task just before that worker's exit; afterwards nothing
takes it, and without a further `Schedule` no step is possible at all.
-/

theorem no_step_of_idle (p p' : PoolRun τ) (hWorkers : p.workers = []) (hPending : p.pending = []) :
    ¬ PoolStep p p' := by
  intro hStep
  cases hStep with
  | scheduleQueue task rest c hP => simp [hPending] at hP
  | scheduleSpawn task rest hP => simp [hPending] at hP
  | take counter task c hWorker => simp [hWorkers] at hWorker
  | runContinue task counter hWorker => simp [hWorkers] at hWorker
  | runExit task counter hWorker => simp [hWorkers] at hWorker

theorem eq_of_run_of_no_step (p q : PoolRun τ) (hNo : ∀ p', ¬ PoolStep p p')
    (hRun : Relation.ReflTransGen PoolStep p q) : q = p :=
  Transition.invariant (I := fun q => q = p) rfl (fun _ q' hq hStep => absurd (hq ▸ hStep) (hNo q'))
    hRun

/-- A pool of size one is given `workerRespawnThreshold` tasks to schedule. Its
worker takes all but the last from the queue, and the scheduler queues the last
one while the worker runs its final task. The worker then exits, and the last
task stays in `p.work` with no worker left. Every continuation keeps the tasks
run so far, so the last task never runs. -/
theorem last_task_stranded (tasks : List τ) (task last : τ)
    (hLen : tasks.length + 2 = workerRespawnThreshold) :
    ∃ p, Relation.ReflTransGen PoolStep (newGoPool 1 (tasks ++ [task, last])) p ∧
      p.work.buf = [last] ∧ p.workers = [] ∧ p.pending = [] ∧
      ∀ q, Relation.ReflTransGen PoolStep p q → q.executed = tasks ++ [task] := by
  have hLoop := idleSingle_run tasks 1 [task, last] [] (by omega)
  rw [← newGoPool_one, List.nil_append] at hLoop
  have hQueue := PoolStep.scheduleQueue (idleSingle (1 + tasks.length) [task, last] tasks) task [last]
    ⟨1, [task], by simp⟩ rfl rfl
  have hFinal := (((hLoop.tail hQueue).tail
    (PoolStep.take _ (1 + tasks.length) task (GoChan.make 1) (by simp [idleSingle]) rfl)).tail
    (PoolStep.scheduleQueue _ last [] ⟨1, [last], by simp⟩ rfl rfl)).tail
    (PoolStep.runExit _ task (1 + tasks.length + 1) (by simp) (by omega))
  refine ⟨_, hFinal, rfl, by simp [idleSingle], rfl, fun q hRun => ?_⟩
  rw [eq_of_run_of_no_step _ q (fun p' => no_step_of_idle _ p' (by simp [idleSingle]) rfl) hRun]
  simp [idleSingle]

theorem last_task_stranded_at_threshold :
    (List.replicate 65534 0).length + 2 = workerRespawnThreshold ∧
      ∃ p, Relation.ReflTransGen PoolStep (newGoPool 1 (List.replicate 65534 0 ++ [0, 1])) p ∧
        p.work.buf = [1] ∧ p.workers = [] ∧ p.pending = [] ∧
        ∀ q, Relation.ReflTransGen PoolStep p q → q.executed = List.replicate 65534 0 ++ [0] :=
  ⟨by rw [List.length_replicate]; decide,
    last_task_stranded (List.replicate 65534 0) 0 1 (by rw [List.length_replicate]; decide)⟩

end AnyCable.Utils
