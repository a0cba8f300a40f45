import PtlThreadPool.Basic

/-!
# One worker: `start_thread` and `execute_thread`

`ThreadPool::start_thread` and `ThreadPool::execute_thread` (lines 75–88 and 477–626) as the
control-flow machine of one worker thread:

* `WorkerPc` — where in the source the worker is. There is one point per atomic step; the
  three calls of the `leave_pool` lambda are told apart by their `Site`.
* `Worker.executeThread` — one step, given what it reads (`Input`): `m_pool_state`, the stop
  tokens, `*m_thread_awake`, `m_pool_size` and the queue's answers. It returns the effect
  on the shared pool (`Effect`), or the `std::system_error` that a misused `_task_lock`
  throws.
* `LockInv` — what `_task_lock.owns_lock()` is at each point of the loop. Every step keeps
  it, so on every path, whatever the queue answers and whatever `m_pool_state` holds at
  each read, the worker never misuses `_task_lock`, holds it when it waits, and never holds
  it while running user code (`execute_thread_lock_discipline`).
* `GuardInv` — `data->within_task` is set exactly in the bootstrap task and the drain loop,
  on every path as well (`execute_thread_task_guard`).
-/

namespace PtlThreadPool

/-- The three calls of the `leave_pool` lambda. -/
inductive Site : Type where
  /-- line 562: first thing in each round of the wait loop -/
  | beforeSize
  /-- line 580: right after `m_task_cond.wait` returns -/
  | afterWait
  /-- line 601: before the drain loop -/
  | beforeDrain
  deriving DecidableEq, Repr

/-- Where a worker thread is: the next atomic step it takes. -/
inductive WorkerPc : Type where
  /-- no such thread -/
  | unspawned
  /-- created, about to register itself in `start_thread` -/
  | start
  /-- `++(*m_thread_awake)` at the top of `execute_thread` -/
  | bootAwake
  /-- `m_init_func()` -/
  | initFunc
  /-- the bootstrap ("dummy run") `GetTask()` -/
  | bootGet
  /-- running the bootstrap task -/
  | bootRun
  /-- `while(_task_queue->empty())` -/
  | waitLoop
  /-- `leave_pool` reading `m_pool_state` -/
  | leaveRead (site : Site)
  /-- `leave_pool` under `PARTIAL`: `if(!_task_lock.owns_lock()) _task_lock.lock()` -/
  | leaveLock (site : Site)
  /-- `leave_pool` under `PARTIAL`, holding the lock: the stop tokens -/
  | leaveTokens (site : Site)
  /-- `if(_task_queue->true_size() == 0)` -/
  | sizeCheck
  /-- `if(m_thread_awake->load() > 0)` -/
  | awakeDecCheck
  /-- `--(*m_thread_awake)` -/
  | awakeDec
  /-- `if(!_task_lock.owns_lock()) _task_lock.lock()` before the wait -/
  | waitLock
  /-- `m_task_cond.wait(_task_lock, _wake)` evaluating `_wake` -/
  | waitEval
  /-- `_wake` was false: release the mutex and sleep -/
  | waitBlock
  /-- asleep on `m_task_cond` -/
  | blocked
  /-- woken: taking the mutex back inside `wait` -/
  | waitReacquire
  /-- `if(_task_lock.owns_lock()) _task_lock.unlock()` after the wait (line 584) -/
  | afterWaitUnlock
  /-- `if(m_thread_awake->load() < m_pool_size)` -/
  | awakeIncCheck
  /-- `++(*m_thread_awake)` after the wait -/
  | awakeInc
  /-- `if(_task_lock.owns_lock()) _task_lock.unlock()` after the wait loop (line 596) -/
  | waitLoopExit
  /-- `while(!_task_queue->empty())` -/
  | drainLoop
  /-- `GetTask()` in the drain loop -/
  | drainGet
  /-- running a drained task -/
  | drainRun
  /-- `leave_pool` returned `true`: returning from `execute_thread` -/
  | exiting
  /-- the thread has returned and can be joined -/
  | finished
  /-- joined by `destroy_threadpool` -/
  | joined
  deriving DecidableEq, Repr

/-- The local state of a worker thread. -/
structure Worker : Type where
  /-- the next step -/
  pc : WorkerPc
  /-- `_task_lock.owns_lock()` -/
  owns : Bool
  /-- `data->within_task` -/
  withinTask : Bool
  /-- the `_idx` that `start_thread` was given -/
  hint : ℤ
  deriving DecidableEq, Repr

/-- A thread slot with no thread in it. -/
def Worker.unspawned : Worker := ⟨.unspawned, false, false, 0⟩

/-- A thread just created by `new Thread(ThreadPool::start_thread, this, hint)`. -/
def Worker.spawned (hint : ℤ) : Worker := ⟨.start, false, false, hint⟩

/-- What one step of a worker reads. -/
structure Input : Type where
  /-- `m_pool_state.load()` -/
  state : PoolState
  /-- `!m_is_stopped.empty() && m_is_stopped.back()` -/
  tokenPending : Bool
  /-- `m_thread_awake->load()` -/
  awake : UInt64
  /-- `m_pool_size` -/
  poolSize : ℕ
  /-- the queue's answers -/
  queue : QueueAnswer

/-- What one step of a worker does to the state it shares with the other threads. -/
inductive Effect : Type where
  /-- nothing shared -/
  | none
  /-- `f_thread_ids[this] = _idx` in `start_thread` -/
  | register (hint : ℤ)
  /-- `++(*m_thread_awake)` -/
  | awakeInc
  /-- `--(*m_thread_awake)` -/
  | awakeDec
  /-- take `m_task_lock`, blocking while another thread holds it -/
  | acquire
  /-- release `m_task_lock` -/
  | release
  /-- `m_stop_threads.push_back(tid); m_is_stopped.pop_back();` -/
  | consumeToken
  deriving DecidableEq, Repr

/-- Where `leave_pool` returning `false` continues; before the drain loop the worker also
sets `data->within_task = true` (line 606). -/
def Site.resume : Site → Worker → Worker
  | .beforeSize, w => { w with pc := .sizeCheck }
  | .afterWait, w => { w with pc := .afterWaitUnlock }
  | .beforeDrain, w => { w with pc := .drainLoop, withinTask := true }

/-- The state test of `leave_pool` (lines 522–532): `STOPPED` leaves, `PARTIAL` goes on to the
stop tokens, anything else returns `false` to the call site. -/
def leavePool (C : StateCodes) (site : Site) (v : PoolState) (w : Worker) : Worker :=
  if 0 < C.code v then
    if C.code v = C.code .STOPPED then { w with pc := .exiting }
    else if C.code v = C.code .PARTIAL then { w with pc := .leaveLock site }
    else site.resume w
  else site.resume w

/-- The wait predicate `_wake` (line 560). -/
def wake (C : StateCodes) (q : QueueAnswer) (v : PoolState) : Bool :=
  !q.empty || decide (0 < q.trueSize) || decide (0 < C.code v)

/-- `if(!_task_lock.owns_lock()) _task_lock.lock();`, then continue as `k`. -/
def lockIfNotOwned (w : Worker) (k : Worker → Worker) : Except LockError (Worker × Effect) :=
  if w.owns then .ok (k w, .none)
  else (UniqueLock.lock w.owns).map fun o => (k { w with owns := o }, .acquire)

/-- `if(_task_lock.owns_lock()) _task_lock.unlock();`, then continue as `k`. -/
def unlockIfOwned (w : Worker) (k : Worker → Worker) : Except LockError (Worker × Effect) :=
  if w.owns then (UniqueLock.unlock w.owns).map fun o => (k { w with owns := o }, .release)
  else .ok (k w, .none)

/-- One step of a worker thread: at `start` the registration of `start_thread` (line 84), which
then calls `execute_thread`, and everywhere else the next statement of `execute_thread`. A
`blocked` worker's own step is a spurious wake-up; the ones `notify_one` and `notify_all` cause
are the notifier's. -/
def Worker.executeThread (C : StateCodes) (w : Worker) (inp : Input) :
    Except LockError (Worker × Effect) :=
  match w.pc with
  | .unspawned | .finished | .joined => .ok (w, .none)
  | .start => .ok ({ w with pc := .bootAwake }, .register w.hint)
  | .bootAwake => .ok ({ w with pc := .initFunc }, .awakeInc)
  | .initFunc => .ok ({ w with pc := .bootGet }, .none)
  | .bootGet =>
    if inp.queue.hasTask then .ok ({ w with pc := .bootRun, withinTask := true }, .none)
    else .ok ({ w with pc := .waitLoop, withinTask := false, owns := false }, .none)
  | .bootRun => .ok ({ w with pc := .waitLoop, withinTask := false, owns := false }, .none)
  | .waitLoop =>
    if inp.queue.empty then .ok ({ w with pc := .leaveRead .beforeSize }, .none)
    else .ok ({ w with pc := .waitLoopExit }, .none)
  | .leaveRead site => .ok (leavePool C site inp.state w, .none)
  | .leaveLock site => lockIfNotOwned w fun w => { w with pc := .leaveTokens site }
  | .leaveTokens site =>
    if inp.tokenPending then .ok ({ w with pc := .exiting }, .consumeToken)
    else unlockIfOwned w site.resume
  | .sizeCheck =>
    if inp.queue.trueSize = 0 then .ok ({ w with pc := .awakeDecCheck }, .none)
    else .ok ({ w with pc := .waitLoopExit }, .none)
  | .awakeDecCheck =>
    if 0 < inp.awake then .ok ({ w with pc := .awakeDec }, .none)
    else .ok ({ w with pc := .waitLock }, .none)
  | .awakeDec => .ok ({ w with pc := .waitLock }, .awakeDec)
  | .waitLock => lockIfNotOwned w fun w => { w with pc := .waitEval }
  | .waitEval =>
    if wake C inp.queue inp.state then .ok ({ w with pc := .leaveRead .afterWait }, .none)
    else .ok ({ w with pc := .waitBlock }, .none)
  | .waitBlock => .ok ({ w with pc := .blocked }, .release)
  | .blocked => .ok ({ w with pc := .waitReacquire }, .none)
  | .waitReacquire => .ok ({ w with pc := .waitEval }, .acquire)
  | .afterWaitUnlock => unlockIfOwned w fun w => { w with pc := .awakeIncCheck }
  | .awakeIncCheck =>
    if inp.awake.toNat < inp.poolSize then .ok ({ w with pc := .awakeInc }, .none)
    else .ok ({ w with pc := .waitLoop }, .none)
  | .awakeInc => .ok ({ w with pc := .waitLoop }, .awakeInc)
  | .waitLoopExit => unlockIfOwned w fun w => { w with pc := .leaveRead .beforeDrain }
  | .drainLoop =>
    if inp.queue.empty then
      -- `within_task = false`; this round's `AutoLock` goes, the next round's is made
      .ok ({ w with pc := .waitLoop, withinTask := false, owns := false },
        if w.owns then .release else .none)
    else .ok ({ w with pc := .drainGet }, .none)
  | .drainGet =>
    if inp.queue.hasTask then .ok ({ w with pc := .drainRun }, .none)
    else .ok ({ w with pc := .drainLoop }, .none)
  | .drainRun => .ok ({ w with pc := .drainLoop }, .none)
  | .exiting =>
    -- the `AutoLock` destructor releases the mutex if it still owns it
    .ok ({ w with pc := .finished, owns := false }, if w.owns then .release else .none)

/-- Run a worker through one input per step. -/
def Worker.run (C : StateCodes) : Worker → List Input → Except LockError Worker
  | w, [] => .ok w
  | w, inp :: inps => (w.executeThread C inp).bind fun r => Worker.run C r.1 inps

/-! ## The lock discipline -/

/-- `_task_lock.owns_lock()` at each point: `none` where it depends on the path taken
(after a `leave_pool` that may have unlocked, and on the way out). -/
def WorkerPc.owning : WorkerPc → Option Bool
  | .leaveRead site | .leaveLock site => some (site == .afterWait)
  | .leaveTokens _ | .waitEval | .waitBlock | .blocked | .waitReacquire => some true
  | .afterWaitUnlock | .exiting => none
  | _ => some false

/-- The points where the worker runs user code: `m_init_func` and a task. -/
def WorkerPc.runsUserCode : WorkerPc → Bool
  | .initFunc | .bootRun | .drainRun => true
  | _ => false

/-- The lock invariant: `owns_lock()` is what `WorkerPc.owning` says. -/
def LockInv (w : Worker) : Prop := ∀ b ∈ w.pc.owning, w.owns = b

theorem lockInv_spawned (hint : ℤ) : LockInv (Worker.spawned hint) := by
  intro b hb
  cases hb
  rfl

/-- The guarded `lock()` leaves the lock owned and never throws. -/
@[simp] theorem lockIfNotOwned_eq (w : Worker) (k : Worker → Worker) :
    lockIfNotOwned w k = .ok (k { w with owns := true }, if w.owns then .none else .acquire) := by
  obtain ⟨pc, o, wt, hint⟩ := w
  cases o <;> rfl

/-- The guarded `unlock()` leaves the lock not owned and never throws. -/
@[simp] theorem unlockIfOwned_eq (w : Worker) (k : Worker → Worker) :
    unlockIfOwned w k = .ok (k { w with owns := false }, if w.owns then .release else .none) := by
  obtain ⟨pc, o, wt, hint⟩ := w
  cases o <;> rfl

/-- Every `lock()` and `unlock()` of `execute_thread` is guarded by `owns_lock()`, so no step
throws. -/
theorem Worker.executeThread_ok (C : StateCodes) (w : Worker) (inp : Input) :
    ∃ r, w.executeThread C inp = .ok r := by
  cases hpc : w.pc <;> simp only [Worker.executeThread, hpc, lockIfNotOwned_eq, unlockIfOwned_eq]
  all_goals first | exact ⟨_, rfl⟩ | split <;> exact ⟨_, rfl⟩

theorem lockInv_resume (site : Site) (w : Worker) (h : w.owns = (site == .afterWait)) :
    LockInv (site.resume w) := by
  intro b hb
  -- where the worker resumes, `owns_lock()` is what it was at the call site
  cases site <;> cases hb <;> exact h

theorem lockInv_resume_of_not_owns (site : Site) (w : Worker) (h : w.owns = false) :
    LockInv (site.resume w) := by
  intro b hb
  cases site <;> cases hb <;> exact h

theorem lockInv_leavePool (C : StateCodes) (site : Site) (v : PoolState) (w : Worker)
    (h : w.owns = (site == .afterWait)) : LockInv (leavePool C site v w) := by
  unfold leavePool
  split_ifs
  · exact fun b hb => by cases hb
  · exact fun b hb => by cases hb; exact h
  all_goals exact lockInv_resume site w h

/-- **One step keeps the lock invariant**, whatever the step reads. -/
theorem lockInv_step {C : StateCodes} {w w' : Worker} {inp : Input} {e : Effect}
    (hw : LockInv w) (h : w.executeThread C inp = .ok (w', e)) : LockInv w' := by
  obtain ⟨pc, owns, wt, hint⟩ := w
  have hown : ∀ b ∈ pc.owning, owns = b := hw
  cases pc
  case leaveRead site =>
    obtain ⟨rfl, -⟩ := Prod.mk.inj (Except.ok.inj h)
    exact lockInv_leavePool C site _ _ (hown _ rfl)
  case leaveTokens site =>
    simp only [Worker.executeThread, unlockIfOwned_eq] at h
    split at h <;> obtain ⟨rfl, -⟩ := Prod.mk.inj (Except.ok.inj h)
    · exact fun b hb => by cases hb
    · exact lockInv_resume_of_not_owns site _ rfl
  all_goals
    simp only [Worker.executeThread, lockIfNotOwned_eq, unlockIfOwned_eq] at h
    try split at h
    all_goals
      obtain ⟨rfl, -⟩ := Prod.mk.inj (Except.ok.inj h)
      first
        | obtain rfl := hown _ rfl
        | cases owns
      -- the new position fixes `owns_lock()` to what the step left, or leaves it free
      all_goals exact fun b hb => by cases hb; rfl

/-- `Worker.run` is the left fold of `Worker.executeThread`. -/
theorem Worker.run_cons (C : StateCodes) (w : Worker) (inp : Input) (inps : List Input) :
    Worker.run C w (inp :: inps) = (w.executeThread C inp).bind fun r => Worker.run C r.1 inps := rfl

/-- Every run from a state that satisfies the lock invariant ends, without an exception, in a
state that satisfies it. -/
theorem Worker.run_lockInv (C : StateCodes) (inps : List Input) :
    ∀ {w : Worker}, LockInv w → ∃ w', Worker.run C w inps = .ok w' ∧ LockInv w' := by
  induction inps with
  | nil => exact fun hw => ⟨_, rfl, hw⟩
  | cons inp inps ih =>
    intro w hw
    obtain ⟨⟨w₁, e⟩, h₁⟩ := w.executeThread_ok C inp
    rw [Worker.run_cons, h₁]
    exact ih (lockInv_step hw h₁)

/-- **Lock discipline of `execute_thread`.** On every path of a worker, whatever the queue
answers to `empty()`, `true_size()` and `GetTask()` and whatever `m_pool_state` holds at
each read (`PARTIAL` with or without a pending stop token included): no `lock()` or
`unlock()` of `_task_lock` throws, so the worker never locks it while owning it nor unlocks
it while not owning it; it owns it whenever it is in `m_task_cond.wait`; and it does not own
it while it runs `m_init_func` or a task. -/
theorem execute_thread_lock_discipline (C : StateCodes) (hint : ℤ) (inputs : List Input) :
    ∃ w, Worker.run C (Worker.spawned hint) inputs = .ok w ∧
      (w.pc = .waitEval → w.owns = true) ∧ (w.pc.runsUserCode = true → w.owns = false) := by
  obtain ⟨w, hrun, hw⟩ := Worker.run_lockInv C inputs (lockInv_spawned hint)
  refine ⟨w, hrun, fun hpc => hw true (by rw [hpc]; rfl), fun hpc => ?_⟩
  obtain ⟨pc, owns, wt, h⟩ := w
  -- user code runs only where the lock invariant says the lock is not owned
  cases pc <;> first
    | exact hw false rfl
    | cases hpc

/-! ## The guard against recursive deadlock -/

/-- Between `data->within_task = true` and `data->within_task = false`: running the bootstrap
task, or in the drain loop. The bootstrap's `within_task = true` and its `GetTask()` are one
step of the model, taken at `bootGet`. -/
def WorkerPc.inTaskSection : WorkerPc → Bool
  | .bootRun | .drainLoop | .drainGet | .drainRun => true
  | _ => false

/-- `data->within_task` is set exactly in the task sections. -/
def GuardInv (w : Worker) : Prop := w.withinTask = w.pc.inTaskSection

theorem guardInv_resume (site : Site) (w : Worker) (h : w.withinTask = false) :
    GuardInv (site.resume w) := by
  -- only the call before the drain loop resumes into a task section, setting the guard
  cases site
  exacts [h, h, rfl]

theorem guardInv_leavePool (C : StateCodes) (site : Site) (v : PoolState) (w : Worker)
    (h : w.withinTask = false) : GuardInv (leavePool C site v w) := by
  unfold leavePool
  split_ifs
  exacts [h, h, guardInv_resume site w h, guardInv_resume site w h]

/-- **One step keeps the guard invariant**, whatever the step reads. -/
theorem guardInv_step {C : StateCodes} {w w' : Worker} {inp : Input} {e : Effect}
    (hw : GuardInv w) (h : w.executeThread C inp = .ok (w', e)) : GuardInv w' := by
  obtain ⟨pc, owns, wt, hint⟩ := w
  cases pc
  case leaveRead site =>
    obtain ⟨rfl, -⟩ := Prod.mk.inj (Except.ok.inj h)
    exact guardInv_leavePool C site _ _ hw
  case leaveTokens site =>
    simp only [Worker.executeThread, unlockIfOwned_eq] at h
    split at h <;> obtain ⟨rfl, -⟩ := Prod.mk.inj (Except.ok.inj h)
    exacts [hw, guardInv_resume site _ hw]
  all_goals
    simp only [Worker.executeThread, lockIfNotOwned_eq, unlockIfOwned_eq] at h
    try split at h
    all_goals
      obtain ⟨rfl, -⟩ := Prod.mk.inj (Except.ok.inj h)
      first | rfl | exact hw

theorem Worker.run_guardInv (C : StateCodes) (inps : List Input) :
    ∀ {w : Worker}, GuardInv w → ∃ w', Worker.run C w inps = .ok w' ∧ GuardInv w' := by
  induction inps with
  | nil => exact fun hw => ⟨_, rfl, hw⟩
  | cons inp inps ih =>
    intro w hw
    obtain ⟨⟨w₁, e⟩, h₁⟩ := w.executeThread_ok C inp
    rw [Worker.run_cons, h₁]
    exact ih (guardInv_step hw h₁)

/-- **The guard against recursive deadlock.** On every path of a worker, whatever the queue
answers and whatever `m_pool_state` holds at each read, `data->within_task` is set exactly while
the worker runs the bootstrap task or is in the drain loop (the bootstrap `GetTask()` aside):
every task it runs and every `GetTask()` of the drain loop see it set, and it is clear whenever
the worker runs `m_init_func`, waits for work, sleeps on `m_task_cond` or has returned. -/
theorem execute_thread_task_guard (C : StateCodes) (hint : ℤ) (inputs : List Input) :
    ∃ w, Worker.run C (Worker.spawned hint) inputs = .ok w ∧
      (w.pc ≠ .bootGet → w.withinTask = w.pc.inTaskSection) := by
  obtain ⟨w, hrun, hw⟩ := Worker.run_guardInv C inputs (w := Worker.spawned hint) rfl
  exact ⟨w, hrun, fun _ => hw⟩

/-! ## What a step can change -/

/-- The worker holds `m_task_lock`: `_task_lock` owns it, and the worker is not inside
`wait` with the mutex given back. -/
def Holds (w : Worker) : Prop := w.owns = true ∧ w.pc ≠ .blocked ∧ w.pc ≠ .waitReacquire

/-- In the stop-token branch of `leave_pool`, which only `PARTIAL` leads to. -/
def WorkerPc.inStopBranch : WorkerPc → Bool
  | .leaveLock _ | .leaveTokens _ => true
  | _ => false

/-- Before the main loop: not yet created, or in `start_thread` or the bootstrap. -/
def WorkerPc.beforeLoop : WorkerPc → Bool
  | .unspawned | .start | .bootAwake | .initFunc | .bootGet | .bootRun => true
  | _ => false

/-- In the drain loop. -/
def WorkerPc.draining : WorkerPc → Bool
  | .drainLoop | .drainGet | .drainRun => true
  | _ => false

@[simp] theorem Site.resume_owns (site : Site) (w : Worker) : (site.resume w).owns = w.owns := by
  cases site <;> rfl

theorem Site.resume_pc (site : Site) (w : Worker) :
    (site.resume w).pc = .sizeCheck ∨ (site.resume w).pc = .afterWaitUnlock ∨
      (site.resume w).pc = .drainLoop := by
  cases site <;> simp [Site.resume]

@[simp] theorem leavePool_owns (C : StateCodes) (site : Site) (v : PoolState) (w : Worker) :
    (leavePool C site v w).owns = w.owns := by
  unfold leavePool
  split_ifs <;> simp

/-- The state test of `leave_pool` leaves, goes on to the stop tokens (only under `PARTIAL`), or
returns `false` to its call site. -/
theorem leavePool_pc (C : StateCodes) (site : Site) (v : PoolState) (w : Worker) :
    (leavePool C site v w).pc = .exiting ∧ v = .STOPPED ∨
      (leavePool C site v w).pc = .leaveLock site ∧ v = .PARTIAL ∨
      (leavePool C site v w) = site.resume w ∧ v ≠ .STOPPED := by
  unfold leavePool
  split_ifs with h₀ h₁ h₂
  · exact .inl ⟨rfl, C.injective h₁⟩
  · exact .inr (.inl ⟨rfl, C.injective h₂⟩)
  · exact .inr (.inr ⟨rfl, fun hv => h₁ (congrArg C.code hv)⟩)
  · refine .inr (.inr ⟨rfl, fun hv => h₀ ?_⟩)
    rw [hv]
    exact C.code_STOPPED_pos

/-- Two workers with the same `owns_lock()`, both outside `wait`, hold the mutex alike. -/
theorem holds_iff_of_outside_wait {w w' : Worker} (ho : w'.owns = w.owns)
    (h' : w'.pc ≠ .blocked ∧ w'.pc ≠ .waitReacquire) (h : w.pc ≠ .blocked ∧ w.pc ≠ .waitReacquire) :
    Holds w' ↔ Holds w := by
  simp only [Holds, ho, h'.1, h'.2, h.1, h.2, ne_eq, not_false_eq_true, and_true]

/-- What one step does to `Holds`: `acquire` takes the mutex, `release` gives it back, and no
other step changes whether the worker holds it. -/
theorem Worker.executeThread_holds {C : StateCodes} {w w' : Worker} {inp : Input} {e : Effect}
    (hw : LockInv w) (h : w.executeThread C inp = .ok (w', e)) :
    (e = .acquire → ¬Holds w ∧ Holds w') ∧ (e = .release → Holds w ∧ ¬Holds w') ∧
      (e ≠ .acquire → e ≠ .release → (Holds w' ↔ Holds w)) := by
  obtain ⟨pc, owns, wt, hint⟩ := w
  have hown : ∀ b ∈ pc.owning, owns = b := hw
  cases pc
  case leaveRead site =>
    obtain ⟨rfl, rfl⟩ := Prod.mk.inj (Except.ok.inj h)
    refine ⟨nofun, nofun, fun _ _ => holds_iff_of_outside_wait (leavePool_owns ..) ?_ ⟨nofun, nofun⟩⟩
    -- `leave_pool` leads to no point inside `wait`
    rcases leavePool_pc C site inp.state ⟨.leaveRead site, owns, wt, hint⟩ with
      ⟨hpc, -⟩ | ⟨hpc, -⟩ | ⟨hpc, -⟩
    · rw [hpc]; exact ⟨nofun, nofun⟩
    · rw [hpc]; exact ⟨nofun, nofun⟩
    · rw [hpc]
      rcases Site.resume_pc site ⟨.leaveRead site, owns, wt, hint⟩ with h' | h' | h' <;>
        rw [h'] <;> exact ⟨nofun, nofun⟩
  case leaveLock site =>
    simp only [Worker.executeThread, lockIfNotOwned_eq] at h
    obtain ⟨rfl, rfl⟩ := Prod.mk.inj (Except.ok.inj h)
    obtain rfl := hown _ rfl
    cases site
    · exact ⟨fun _ => ⟨fun hh => Bool.false_ne_true hh.1, rfl, nofun, nofun⟩, nofun,
        fun h _ => absurd rfl h⟩
    · exact ⟨nofun, nofun, fun _ _ => holds_iff_of_outside_wait rfl ⟨nofun, nofun⟩ ⟨nofun, nofun⟩⟩
    · exact ⟨fun _ => ⟨fun hh => Bool.false_ne_true hh.1, rfl, nofun, nofun⟩, nofun,
        fun h _ => absurd rfl h⟩
  case leaveTokens site =>
    simp only [Worker.executeThread, unlockIfOwned_eq] at h
    obtain rfl := hown true rfl
    split at h <;> obtain ⟨rfl, rfl⟩ := Prod.mk.inj (Except.ok.inj h)
    · exact ⟨nofun, nofun, fun _ _ => holds_iff_of_outside_wait rfl ⟨nofun, nofun⟩ ⟨nofun, nofun⟩⟩
    · refine ⟨nofun, fun _ => ⟨⟨rfl, nofun, nofun⟩, fun hh => ?_⟩, fun _ h => absurd rfl h⟩
      simpa using hh.1
  all_goals
    simp only [Worker.executeThread, lockIfNotOwned_eq, unlockIfOwned_eq] at h
    try split at h
    all_goals
      obtain ⟨rfl, rfl⟩ := Prod.mk.inj (Except.ok.inj h)
      -- the lock invariant fixes `owns` wherever the position does
      first
        | obtain rfl := hown _ rfl
        | cases owns
      all_goals first
        | (simp only [Holds, ne_eq, reduceCtorEq, not_false_eq_true, not_true_eq_false, and_true,
            and_false, and_self, iff_false, iff_true, imp_false, imp_self, Bool.false_eq_true,
            ↓reduceIte]; done)
        | contradiction

/-- Only `PARTIAL` leads into the stop-token branch, and only that branch consumes a token. -/
theorem Worker.executeThread_inStopBranch {C : StateCodes} {w w' : Worker} {inp : Input}
    {e : Effect} (h : w.executeThread C inp = .ok (w', e)) :
    (w'.pc.inStopBranch = true → w.pc.inStopBranch = true ∨ inp.state = .PARTIAL) ∧
      (e = .consumeToken → w.pc.inStopBranch = true) := by
  obtain ⟨pc, owns, wt, hint⟩ := w
  cases pc
  case leaveRead site =>
    obtain ⟨rfl, rfl⟩ := Prod.mk.inj (Except.ok.inj h)
    rcases leavePool_pc C site inp.state ⟨.leaveRead site, owns, wt, hint⟩ with
      ⟨hpc, -⟩ | ⟨-, hv⟩ | ⟨hpc, -⟩
    · simp only [hpc, WorkerPc.inStopBranch, Bool.false_eq_true, false_implies, reduceCtorEq,
        and_self]
    · simp only [hv, or_true, implies_true, reduceCtorEq, false_implies, and_self]
    · rcases Site.resume_pc site ⟨.leaveRead site, owns, wt, hint⟩ with h' | h' | h' <;>
        simp only [hpc, h', WorkerPc.inStopBranch, Bool.false_eq_true, false_implies,
          reduceCtorEq, and_self]
  case leaveTokens site => simp only [WorkerPc.inStopBranch, true_or, implies_true, and_self]
  case leaveLock site => simp only [WorkerPc.inStopBranch, true_or, implies_true, and_self]
  all_goals
    simp only [Worker.executeThread, lockIfNotOwned_eq, unlockIfOwned_eq] at h
    try split at h
    all_goals
      obtain ⟨rfl, rfl⟩ := Prod.mk.inj (Except.ok.inj h)
      cases owns <;> simp only [WorkerPc.inStopBranch, Bool.false_eq_true, false_or, false_implies,
        reduceCtorEq, imp_self, and_self, ↓reduceIte]

/-- A worker goes to sleep only from `wait`'s test of a false `_wake`, through `waitBlock`. -/
theorem Worker.executeThread_toSleep {C : StateCodes} {w w' : Worker} {inp : Input} {e : Effect}
    (h : w.executeThread C inp = .ok (w', e)) :
    (w'.pc = .waitBlock → w.pc = .waitBlock ∨ w.pc = .waitEval ∧ wake C inp.queue inp.state = false) ∧
      (w'.pc = .blocked → w.pc = .waitBlock ∨ w.pc = .blocked) := by
  obtain ⟨pc, owns, wt, hint⟩ := w
  cases pc
  case leaveRead site =>
    obtain ⟨rfl, rfl⟩ := Prod.mk.inj (Except.ok.inj h)
    rcases leavePool_pc C site inp.state ⟨.leaveRead site, owns, wt, hint⟩ with
      ⟨hpc, -⟩ | ⟨hpc, -⟩ | ⟨hpc, -⟩
    · simp only [hpc, reduceCtorEq, false_implies, and_self]
    · simp only [hpc, reduceCtorEq, false_implies, and_self]
    · rcases Site.resume_pc site ⟨.leaveRead site, owns, wt, hint⟩ with h' | h' | h' <;>
        simp only [hpc, h', reduceCtorEq, false_implies, and_self]
  case leaveTokens site =>
    simp only [Worker.executeThread, unlockIfOwned_eq] at h
    split at h <;> obtain ⟨rfl, rfl⟩ := Prod.mk.inj (Except.ok.inj h)
    · simp only [reduceCtorEq, false_implies, and_self]
    · rcases Site.resume_pc site ⟨.leaveTokens site, false, wt, hint⟩ with h' | h' | h' <;>
        simp only [h', reduceCtorEq, false_implies, and_self]
  case waitEval =>
    simp only [Worker.executeThread] at h
    split at h <;> obtain ⟨rfl, rfl⟩ := Prod.mk.inj (Except.ok.inj h)
    · simp only [reduceCtorEq, false_implies, and_self]
    · exact ⟨fun _ => .inr ⟨rfl, Bool.eq_false_iff.mpr ‹_›⟩, nofun⟩
  all_goals
    simp only [Worker.executeThread, lockIfNotOwned_eq, unlockIfOwned_eq] at h
    try split at h
    all_goals
      obtain ⟨rfl, rfl⟩ := Prod.mk.inj (Except.ok.inj h)
      cases owns <;> simp only [reduceCtorEq, false_implies, implies_true, and_self, true_or,
        or_true, ↓reduceIte]

/-- Under `STOPPED`, and outside the stop-token branch, a worker enters no stage it was not
already in: nothing leads back to the bootstrap, and the drain loop is entered only past a
`leave_pool` that did not read `STOPPED`. -/
theorem Worker.executeThread_stage {C : StateCodes} {w w' : Worker} {inp : Input} {e : Effect}
    (h : w.executeThread C inp = .ok (w', e)) (hstop : inp.state = .STOPPED)
    (hbr : w.pc.inStopBranch = false) :
    (w'.pc.beforeLoop = true → w.pc.beforeLoop = true) ∧
      (w'.pc.draining = true → w.pc.draining = true) := by
  obtain ⟨pc, owns, wt, hint⟩ := w
  cases pc
  case leaveRead site =>
    obtain ⟨rfl, rfl⟩ := Prod.mk.inj (Except.ok.inj h)
    rcases leavePool_pc C site inp.state ⟨.leaveRead site, owns, wt, hint⟩ with
      ⟨hpc, -⟩ | ⟨-, hv⟩ | ⟨-, hv⟩
    · rw [hpc]
      exact ⟨nofun, nofun⟩
    · cases hstop.symm.trans hv
    · exact absurd hstop hv
  case leaveTokens site => cases hbr
  case leaveLock site => cases hbr
  all_goals
    simp only [Worker.executeThread, lockIfNotOwned_eq, unlockIfOwned_eq] at h
    try split at h
    all_goals
      obtain ⟨rfl, rfl⟩ := Prod.mk.inj (Except.ok.inj h)
      simp [WorkerPc.beforeLoop, WorkerPc.draining]

/-- No step of its own makes a worker a thread that was never created, or a joined one: only
the master creates and joins threads. -/
theorem Worker.executeThread_stays {C : StateCodes} {w w' : Worker} {inp : Input} {e : Effect}
    (h : w.executeThread C inp = .ok (w', e)) :
    (w'.pc = .unspawned → w.pc = .unspawned) ∧ (w'.pc = .joined → w.pc = .joined) := by
  obtain ⟨pc, owns, wt, hint⟩ := w
  cases pc
  case leaveRead site =>
    obtain ⟨rfl, rfl⟩ := Prod.mk.inj (Except.ok.inj h)
    rcases leavePool_pc C site inp.state ⟨.leaveRead site, owns, wt, hint⟩ with
      ⟨hpc, -⟩ | ⟨hpc, -⟩ | ⟨hpc, -⟩ <;> rw [hpc]
    · exact ⟨nofun, nofun⟩
    · exact ⟨nofun, nofun⟩
    · rcases Site.resume_pc site ⟨.leaveRead site, owns, wt, hint⟩ with h' | h' | h' <;>
        rw [h'] <;> exact ⟨nofun, nofun⟩
  case leaveTokens site =>
    simp only [Worker.executeThread, unlockIfOwned_eq] at h
    split at h <;> obtain ⟨rfl, rfl⟩ := Prod.mk.inj (Except.ok.inj h)
    · exact ⟨nofun, nofun⟩
    · rcases Site.resume_pc site ⟨.leaveTokens site, false, wt, hint⟩ with h' | h' | h' <;>
        rw [h'] <;> exact ⟨nofun, nofun⟩
  all_goals
    try simp only [Worker.executeThread, lockIfNotOwned_eq, unlockIfOwned_eq] at h; split at h
    all_goals
      obtain ⟨rfl, rfl⟩ := Prod.mk.inj (Except.ok.inj h)
      exact ⟨fun h => by cases h <;> rfl, fun h => by cases h <;> rfl⟩

end PtlThreadPool
