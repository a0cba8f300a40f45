import PtlThreadPool.Registry
import PtlThreadPool.Worker
import PtlThreadPool.Pool

/-!
# The pool, its master and its workers

The system is one `ThreadPool` on the non-TBB path, the process-wide `f_thread_ids`, the
master thread that owns the pool, and the worker threads it spawns. One `Action` is one
atomic step of one thread:

* `Action.call` — the master starts a public call: the constructor,
  `initialize_threadpool`, `stop_thread` or `destroy_threadpool`;
* `Action.master` — the master's next step inside the call, with the choices the
  environment makes there: which statement of a spawn-loop iteration throws, if any, and
  which sleeper a `notify_one` wakes;
* `Action.worker` — worker `t`'s next step (`Worker.executeThread`), with the queue's answers.

The master runs the constructor (`Sys.threadPool`), `Sys.initializeThreadpool`,
`Sys.stopThread` and `Sys.destroyThreadpool`, one statement group per step; `MasterMove`
lists what such a step can do, and `masterStep_move` shows that it lists all of it. The
master's critical sections on `m_task_lock` are single steps, taken only while no worker holds
the mutex: every member they touch is one the workers touch only under the mutex, or not at
all. Outside them the master's steps are cut where a worker can see the difference: a
spawn-loop iteration creates its thread in one step and increments `m_pool_size` in the next,
so a worker may read the old size (`spawnIteration_in_two_steps` relates the two steps to
`spawnIteration`). `step` is partial: `none` is a step that cannot happen now. `Reachable` is
every state some interleaving reaches from before the constructor.

Where the model is coarser than the code: each access to `f_thread_ids` is atomic, though the
unlocked read of `GetThisThreadID` and the unlocked erasures of `destroy_threadpool` race with
the locked writes of other threads; every new thread gets a fresh id (`nextTid`), though a
`std::thread::id` may be reused once its thread is joined; and only the master calls
`GetThisThreadID`, not the tasks the workers run or threads outside the pool.
-/

namespace PtlThreadPool

/-- Who called `stop_thread`: the user, or the shrink loop of `initialize_threadpool(p)`. -/
inductive StopCaller : Type where
  /-- a public call -/
  | publicCall
  /-- `while(stop_thread() > proposed_size)` in `initialize_threadpool(p)` -/
  | shrink (p : ℕ)
  deriving DecidableEq, Repr

/-- Where the master thread is. -/
inductive MasterPc : Type where
  /-- before the constructor -/
  | unconstructed
  /-- between public calls -/
  | idle
  /-- the constructor: `GetThisThreadID()`, then `initialize_threadpool(p)` -/
  | ctor (p : ℕ)
  /-- `initialize_threadpool(p)`: the size test, the `STARTED` store, `m_alive_flag` -/
  | initEntry (p : ℕ)
  /-- `initialize_threadpool(p)`: the grow-or-shrink test under `STARTED` -/
  | initCheck (p : ℕ)
  /-- `initialize_threadpool(p)`: `m_is_joined.reserve` under `m_task_lock` -/
  | initReserve (p : ℕ)
  /-- `initialize_threadpool(p)`: `this_tid = GetThisThreadID()` -/
  | initTid (p : ℕ)
  /-- `initialize_threadpool(p)`: the spawn loop at `i`, about to create a thread -/
  | spawn (p thisTid i : ℕ)
  /-- `initialize_threadpool(p)`: the spawn loop at `i`, the new thread running, before
  `++m_pool_size` -/
  | spawnCount (p thisTid i : ℕ)
  /-- `initialize_threadpool(p)`: the size check under `m_task_lock`, and the return -/
  | initFinal (p : ℕ)
  /-- `stop_thread`: `if(!m_alive_flag.load() || m_pool_size == 0)` -/
  | stopEntry (c : StopCaller)
  /-- `stop_thread`: push a stop token and `notify_one` under `m_task_lock` -/
  | stopPost (c : StopCaller)
  /-- `stop_thread`: drain `m_stop_threads` under `m_task_lock` -/
  | stopDrain (c : StopCaller)
  /-- `destroy_threadpool`: `GetThisThreadID()` -/
  | destroyEntry
  /-- `destroy_threadpool`: `m_pool_state.store(STOPPED)` -/
  | destroyStore
  /-- `destroy_threadpool`: `notify_all` under `m_task_lock` -/
  | destroyNotify
  /-- `destroy_threadpool`: the `m_alive_flag` test and the size check -/
  | destroyAlive
  /-- `destroy_threadpool`: erase the workers from `f_thread_ids` -/
  | destroyErase
  /-- `destroy_threadpool`: the second `notify_all` -/
  | destroyNotifyAll
  /-- `destroy_threadpool`: joining `m_unique_threads[k]` -/
  | destroyJoin (k : ℕ)
  /-- `destroy_threadpool`: clearing the vectors -/
  | destroyClear
  /-- `std::terminate` was called -/
  | aborted
  deriving DecidableEq, Repr

/-- How a public call ended. -/
inductive Outcome : Type where
  /-- it returned this value -/
  | returned (n : ℕ)
  /-- it threw `std::runtime_error` -/
  | threw
  deriving DecidableEq, Repr

/-- The master thread. -/
structure Master : Type where
  /-- the next step -/
  pc : MasterPc
  /-- how the last `initialize_threadpool`, `stop_thread` or `destroy_threadpool` ended -/
  last : Option Outcome
  /-- a thread creation failed in the running `initialize_threadpool` -/
  spawnFailed : Bool
  deriving DecidableEq, Repr

/-- The whole system. -/
structure Sys : Type where
  /-- the members of the pool -/
  pool : Pool
  /-- `ThreadPool::f_thread_ids` -/
  registry : ThreadIdMap
  /-- the master thread -/
  master : Master
  /-- the worker threads, by id -/
  workers : Tid → Worker
  /-- the id the next created thread gets -/
  nextTid : Tid

/-- Before the constructor: no thread but the master. -/
def Sys.init : Sys where
  pool := Pool.init
  registry := ∅
  master := ⟨.unconstructed, none, false⟩
  workers := fun _ => Worker.unspawned
  nextTid := masterTid + 1

/-- A public call of the master. -/
inductive Call : Type where
  /-- `ThreadPool(pool_size, ...)` -/
  | ctor (p : ℕ)
  /-- `initialize_threadpool(p)` -/
  | initializeThreadpool (p : ℕ)
  /-- `stop_thread()` -/
  | stopThread
  /-- `destroy_threadpool()` -/
  | destroy
  deriving DecidableEq, Repr

/-- One atomic step of one thread. -/
inductive Action : Type where
  /-- the master starts a public call -/
  | call (c : Call)
  /-- the master's next step: the statement of a spawn-loop iteration that throws, if any,
  and the sleeper a `notify_one` wakes, if any -/
  | master (fault : Option SpawnFault) (wake : Option Tid)
  /-- worker `t`'s next step, with the queue's answers -/
  | worker (t : Tid) (q : QueueAnswer)
  deriving DecidableEq, Repr

namespace Sys

variable (s : Sys)

/-- Replace worker `t`. -/
def setWorker (t : Tid) (w : Worker) : Sys :=
  { s with workers := fun u => if u = t then w else s.workers u }

/-- Move the master to `pc`. -/
def goto (pc : MasterPc) : Sys := { s with master := { s.master with pc := pc } }

/-- The running public call returns with `o`. -/
def finish (o : Outcome) : Sys := { s with master := { s.master with pc := .idle, last := some o } }

/-- Replace the members of the pool. -/
def setPool (p : Pool) : Sys := { s with pool := p }

/-- No worker holds `m_task_lock`: a critical section of the master can run. -/
def lockFree : Bool := s.pool.taskLock.isNone

/-- `m_task_cond.notify_all()`: every sleeper starts taking the mutex back. -/
def notifyAll : Sys :=
  { s with workers := fun t =>
      if (s.workers t).pc = .blocked then { s.workers t with pc := .waitReacquire }
      else s.workers t }

/-- `m_task_cond.notify_one()` waking `wake`: a sleeper, or nobody if nobody sleeps. -/
def notifyOne : Option Tid → Option Sys
  | some t =>
    if (s.workers t).pc = .blocked then some (s.setWorker t { s.workers t with pc := .waitReacquire })
    else none
  | none => if (List.range s.nextTid).any (fun t => (s.workers t).pc = .blocked) then none else some s

/-- What a worker reads from the shared state, with the queue's answers `q`. -/
def input (q : QueueAnswer) : Input where
  state := s.pool.poolState
  tokenPending := s.pool.isStopped.getLast? == some true
  awake := s.pool.threadAwake
  poolSize := s.pool.poolSize
  queue := q

/-- The effect of a step of worker `t` on the shared state; `none` if `t` must wait for the
mutex. -/
def applyEffect (t : Tid) : Effect → Option Sys
  | .none => some s
  | .register hint => some { s with registry := s.registry.startThread t hint }
  | .awakeInc => some (s.setPool { s.pool with threadAwake := s.pool.threadAwake + 1 })
  | .awakeDec => some (s.setPool { s.pool with threadAwake := s.pool.threadAwake - 1 })
  | .acquire => if s.lockFree then some (s.setPool { s.pool with taskLock := some t }) else none
  | .release => some (s.setPool { s.pool with taskLock := none })
  | .consumeToken =>
    some (s.setPool { s.pool with
      stopThreads := s.pool.stopThreads ++ [t]
      isStopped := s.pool.isStopped.dropLast })

/-- `stop_thread` returning `r` to its caller; the shrink loop calls it again while
`r > proposed_size`, then returns `m_pool_size`. -/
def stopReturn : StopCaller → ℕ → Sys
  | .publicCall, r => s.finish (.returned r)
  | .shrink p, r => if p < r then s.goto (.stopEntry (.shrink p))
    else s.finish (.returned s.pool.poolSize)

/-- The master's `GetThisThreadID()`, then the statement at `pc`. -/
def callGetThisThreadID (pc : MasterPc) : Sys :=
  { s.goto pc with registry := (s.registry.getThisThreadID masterTid).2 }

/-- The constructor `ThreadPool(p)` past its initializer list (lines 123–152):
`GetThisThreadID()`, which makes the master index 0, then `initialize_threadpool(p)`. -/
def threadPool (p : ℕ) : Sys := s.callGetThisThreadID (.initEntry p)

/-- `if(!m_alive_flag.load()) m_pool_state.store(STARTED)`, then `m_alive_flag.store(true)`, in
`initialize_threadpool(p)`. -/
def storeStarted (p : ℕ) : Sys :=
  { s with
    pool := { s.pool with
      poolState := if s.pool.aliveFlag then s.pool.poolState else .STARTED
      aliveFlag := true }
    master := { s.master with pc := .initCheck p, spawnFailed := false } }

/-- `auto this_tid = GetThisThreadID()`, then the spawn loop from `i = m_pool_size`. -/
def takeThisTid (p : ℕ) : Sys :=
  let r := s.registry.getThisThreadID masterTid
  { s.goto (.spawn p r.1 s.pool.poolSize) with registry := r.2 }

/-- `new Thread(ThreadPool::start_thread, this, this_tid + i + 1)` at iteration `i` of the spawn
loop (line 308), which creates the thread `nextTid`, or throws (`fault`) and goes on with the
next iteration. The pushes of lines 312–319 ride with it: `m_main_threads`, `m_is_joined` and
`m_unique_threads` are read by the master alone, so where their pushes stand among the workers'
steps changes nothing a worker sees. `++m_pool_size` between them is read by the workers
(line 588) and gets its own step, `countThread`. -/
def spawnThread (p thisTid i : ℕ) (fault : Option SpawnFault) : Sys :=
  if fault = some .threadCreation then
    { s with master := { s.master with pc := .spawn p thisTid (i + 1), spawnFailed := true } }
  else
    { s.setWorker s.nextTid (Worker.spawned (thisTid + i + 1)) with
      pool := { s.pool with
        mainThreads := s.pool.mainThreads ++ [s.nextTid]
        isJoined := s.pool.isJoined ++ [false]
        uniqueThreads := s.pool.uniqueThreads ++ [s.nextTid] }
      master := { s.master with pc := .spawnCount p thisTid i }
      nextTid := s.nextTid + 1 }

/-- `++m_pool_size` (line 310), with the new thread already running, and the next iteration. A
push of lines 312–319 that throws (`fault`) unwinds the joinable thread's `unique_ptr`, and
`std::terminate` ends the program (`spawnIteration`). -/
def countThread (p thisTid i : ℕ) (fault : Option SpawnFault) : Sys :=
  if fault = some .mainThreadsPush ∨ fault = some .uniqueThreadsPush then s.goto .aborted
  else (s.setPool { s.pool with poolSize := s.pool.poolSize + 1 }).goto (.spawn p thisTid (i + 1))

/-- `stop_thread`'s `m_is_stopped.push_back(true)`, under `m_task_lock` before its
`notify_one`. -/
def pushStopToken : Sys := s.setPool { s.pool with isStopped := s.pool.isStopped ++ [true] }

/-- `stop_thread`'s drain of `m_stop_threads` under `m_task_lock`,
`m_pool_size = m_main_threads.size()`, and its return. -/
def drainStopThreads (c : StopCaller) : Sys :=
  let r := drainAcks s.pool.stopThreads s.pool.mainThreads s.pool.isJoined
  (s.setPool { s.pool with
    mainThreads := r.1
    isJoined := r.2
    stopThreads := []
    poolSize := r.1.length }).stopReturn c r.1.length

/-- The end of `destroy_threadpool`: the three vectors cleared, `m_alive_flag.store(false)`,
`return 0`. `m_pool_size` is left as it was. -/
def clearThreads : Sys :=
  (s.setPool { s.pool with
    mainThreads := []
    isJoined := []
    uniqueThreads := []
    aliveFlag := false }).finish (.returned 0)

/-- **The two steps of a spawn-loop iteration are `spawnIteration`.** A creation that throws
creates no thread and leaves the members as `spawnIteration` does; otherwise `spawnThread` and
`countThread` create the thread `nextTid`, end the program exactly when the iteration calls
`std::terminate`, and else leave the members as it does. -/
theorem spawnIteration_in_two_steps (p thisTid i : ℕ) (f : Option SpawnFault) :
    let r := spawnIteration s.nextTid f s.pool
    let s₂ := if f = some .threadCreation then s.spawnThread p thisTid i f
      else (s.spawnThread p thisTid i none).countThread p thisTid i f
    (s₂.nextTid = if r.created then s.nextTid + 1 else s.nextTid) ∧
      (s₂.master.pc = .aborted ↔ r.terminates = true) ∧
      (r.terminates = false → s₂.pool = r.pool) := by
  rcases f with _ | _ | _ | _ <;>
    simp [spawnIteration, spawnThread, countThread, setPool, setWorker, goto]

/-- Joining `m_unique_threads[k]`: it waits until that thread has returned. -/
def joinStep (k : ℕ) : Option Sys :=
  match s.pool.uniqueThreads[k]? with
  | none => some (s.goto .destroyClear)
  | some t =>
    if (s.workers t).pc = .finished then
      some ((s.setWorker t { s.workers t with pc := .joined }).goto (.destroyJoin (k + 1)))
    else none

@[simp] theorem goto_pool (pc : MasterPc) : (s.goto pc).pool = s.pool := rfl
@[simp] theorem goto_registry (pc : MasterPc) : (s.goto pc).registry = s.registry := rfl
@[simp] theorem goto_workers (pc : MasterPc) : (s.goto pc).workers = s.workers := rfl
@[simp] theorem goto_nextTid (pc : MasterPc) : (s.goto pc).nextTid = s.nextTid := rfl
@[simp] theorem goto_master_pc (pc : MasterPc) : (s.goto pc).master.pc = pc := rfl

@[simp] theorem finish_pool (o : Outcome) : (s.finish o).pool = s.pool := rfl
@[simp] theorem finish_registry (o : Outcome) : (s.finish o).registry = s.registry := rfl
@[simp] theorem finish_workers (o : Outcome) : (s.finish o).workers = s.workers := rfl
@[simp] theorem finish_nextTid (o : Outcome) : (s.finish o).nextTid = s.nextTid := rfl
@[simp] theorem finish_master_pc (o : Outcome) : (s.finish o).master.pc = .idle := rfl

@[simp] theorem setPool_pool (p : Pool) : (s.setPool p).pool = p := rfl
@[simp] theorem setPool_registry (p : Pool) : (s.setPool p).registry = s.registry := rfl
@[simp] theorem setPool_workers (p : Pool) : (s.setPool p).workers = s.workers := rfl
@[simp] theorem setPool_nextTid (p : Pool) : (s.setPool p).nextTid = s.nextTid := rfl
@[simp] theorem setPool_master (p : Pool) : (s.setPool p).master = s.master := rfl

@[simp] theorem setWorker_pool (t : Tid) (w : Worker) : (s.setWorker t w).pool = s.pool := rfl
@[simp] theorem setWorker_master (t : Tid) (w : Worker) : (s.setWorker t w).master = s.master :=
  rfl
@[simp] theorem setWorker_nextTid (t : Tid) (w : Worker) :
    (s.setWorker t w).nextTid = s.nextTid := rfl
@[simp] theorem setWorker_workers (t u : Tid) (w : Worker) :
    (s.setWorker t w).workers u = if u = t then w else s.workers u := rfl

@[simp] theorem notifyAll_pool : s.notifyAll.pool = s.pool := rfl
@[simp] theorem notifyAll_registry : s.notifyAll.registry = s.registry := rfl
@[simp] theorem notifyAll_master : s.notifyAll.master = s.master := rfl
@[simp] theorem notifyAll_nextTid : s.notifyAll.nextTid = s.nextTid := rfl

/-- After `notify_all` nobody sleeps, and every sleeper is taking the mutex back. -/
theorem notifyAll_workers (t : Tid) :
    s.notifyAll.workers t = s.workers t ∨
      (s.workers t).pc = .blocked ∧ s.notifyAll.workers t = { s.workers t with pc := .waitReacquire } := by
  by_cases h : (s.workers t).pc = .blocked
  · exact .inr ⟨h, if_pos h⟩
  · exact .inl (if_neg h)

theorem notifyAll_not_blocked (t : Tid) : (s.notifyAll.workers t).pc ≠ .blocked := by
  simp only [notifyAll]
  split <;> simp_all


@[simp] theorem callGetThisThreadID_pool (pc : MasterPc) : (s.callGetThisThreadID pc).pool = s.pool :=
  rfl
@[simp] theorem callGetThisThreadID_workers (pc : MasterPc) :
    (s.callGetThisThreadID pc).workers = s.workers := rfl
@[simp] theorem callGetThisThreadID_nextTid (pc : MasterPc) :
    (s.callGetThisThreadID pc).nextTid = s.nextTid := rfl
@[simp] theorem callGetThisThreadID_master (pc : MasterPc) :
    (s.callGetThisThreadID pc).master = { s.master with pc := pc } := rfl
@[simp] theorem threadPool_eq (p : ℕ) : s.threadPool p = s.callGetThisThreadID (.initEntry p) := rfl

@[simp] theorem storeStarted_registry (p : ℕ) : (s.storeStarted p).registry = s.registry := rfl
@[simp] theorem storeStarted_workers (p : ℕ) : (s.storeStarted p).workers = s.workers := rfl
@[simp] theorem storeStarted_nextTid (p : ℕ) : (s.storeStarted p).nextTid = s.nextTid := rfl
@[simp] theorem storeStarted_master_pc (p : ℕ) : (s.storeStarted p).master.pc = .initCheck p := rfl

@[simp] theorem takeThisTid_pool (p : ℕ) : (s.takeThisTid p).pool = s.pool := rfl
@[simp] theorem takeThisTid_workers (p : ℕ) : (s.takeThisTid p).workers = s.workers := rfl
@[simp] theorem takeThisTid_nextTid (p : ℕ) : (s.takeThisTid p).nextTid = s.nextTid := rfl
@[simp] theorem takeThisTid_master_pc (p : ℕ) :
    (s.takeThisTid p).master.pc = .spawn p (s.registry.getThisThreadID masterTid).1 s.pool.poolSize :=
  rfl

@[simp] theorem pushStopToken_registry : s.pushStopToken.registry = s.registry := rfl
@[simp] theorem pushStopToken_workers : s.pushStopToken.workers = s.workers := rfl
@[simp] theorem pushStopToken_nextTid : s.pushStopToken.nextTid = s.nextTid := rfl
@[simp] theorem pushStopToken_master : s.pushStopToken.master = s.master := rfl

@[simp] theorem clearThreads_registry : s.clearThreads.registry = s.registry := rfl
@[simp] theorem clearThreads_workers : s.clearThreads.workers = s.workers := rfl
@[simp] theorem clearThreads_nextTid : s.clearThreads.nextTid = s.nextTid := rfl
@[simp] theorem clearThreads_master_pc : s.clearThreads.master.pc = .idle := rfl
@[simp] theorem clearThreads_pool :
    s.clearThreads.pool =
      { s.pool with mainThreads := [], isJoined := [], uniqueThreads := [], aliveFlag := false } :=
  rfl

end Sys

/-- One step of `initialize_threadpool` (lines 194–355) at `pc`, the master's position; `fault`
is the exception a statement of the spawn loop throws, if one does. -/
def Sys.initializeThreadpool (s : Sys) (fault : Option SpawnFault) : MasterPc → Option Sys
  | .initEntry p => if p < 1 then some (s.finish (.returned 0)) else some (s.storeStarted p)
  | .initCheck p =>
    if s.pool.poolState = .STARTED ∧ p < s.pool.poolSize then some (s.goto (.stopEntry (.shrink p)))
    else if s.pool.poolState = .STARTED ∧ s.pool.poolSize = p then
      some (s.finish (.returned s.pool.poolSize))
    else some (s.goto (.initReserve p))
  | .initReserve p => if s.lockFree then some (s.goto (.initTid p)) else none
  | .initTid p => some (s.takeThisTid p)
  | .spawn p thisTid i =>
    if i < p then some (s.spawnThread p thisTid i fault) else some (s.goto (.initFinal p))
  | .spawnCount p thisTid i => some (s.countThread p thisTid i fault)
  | .initFinal _ =>
    if s.lockFree then
      if s.pool.isJoined.length ≠ s.pool.mainThreads.length then some (s.finish .threw)
      else some (s.finish (.returned s.pool.mainThreads.length))
    else none
  | _ => none

/-- One step of `stop_thread` (lines 436–473) at `pc`; `wake` is the sleeper its `notify_one`
wakes. -/
def Sys.stopThread (s : Sys) (wake : Option Tid) : MasterPc → Option Sys
  | .stopEntry c =>
    if !s.pool.aliveFlag || s.pool.poolSize == 0 then some (s.stopReturn c 0)
    else some (s.goto (.stopPost c))
  | .stopPost c =>
    if s.lockFree then (s.pushStopToken.notifyOne wake).map (·.goto (.stopDrain c)) else none
  | .stopDrain c => if s.lockFree then some (s.drainStopThreads c) else none
  | _ => none

/-- One step of `destroy_threadpool` (lines 358–432) at `pc`. -/
def Sys.destroyThreadpool (s : Sys) : MasterPc → Option Sys
  | .destroyEntry => some (s.callGetThisThreadID .destroyStore)
  | .destroyStore => some ((s.setPool { s.pool with poolState := .STOPPED }).goto .destroyNotify)
  | .destroyNotify => if s.lockFree then some (s.notifyAll.goto .destroyAlive) else none
  | .destroyAlive =>
    if !s.pool.aliveFlag then some (s.finish (.returned 0))
    else if s.pool.isJoined.length ≠ s.pool.mainThreads.length then some (s.finish .threw)
    else some (s.goto .destroyErase)
  | .destroyErase =>
    some { s.goto .destroyNotifyAll with registry := s.registry.eraseAll s.pool.mainThreads }
  | .destroyNotifyAll => some (s.notifyAll.goto (.destroyJoin 0))
  | .destroyJoin k => s.joinStep k
  | .destroyClear => some s.clearThreads
  | _ => none

/-- One step of the master inside a public call: a step of the routine it is in. -/
def masterStep (s : Sys) (fault : Option SpawnFault) (wake : Option Tid) : Option Sys :=
  match s.master.pc with
  | .unconstructed | .idle | .aborted => none
  | .ctor p => some (s.threadPool p)
  | .stopEntry _ | .stopPost _ | .stopDrain _ => s.stopThread wake s.master.pc
  | .destroyEntry | .destroyStore | .destroyNotify | .destroyAlive | .destroyErase
  | .destroyNotifyAll | .destroyJoin _ | .destroyClear => s.destroyThreadpool s.master.pc
  | _ => s.initializeThreadpool fault s.master.pc

/-- The moves of the master, one for each way a statement of its routines can go. This is what
`masterStep` can do, said once (`masterStep_move`): every invariant takes the master's step
through these cases. -/
inductive MasterMove (s : Sys) (fault : Option SpawnFault) : Sys → Prop where
  /-- the constructor's `GetThisThreadID()` -/
  | threadPool {p : ℕ} (hpc : s.master.pc = .ctor p) : MasterMove s fault (s.threadPool p)
  /-- `initialize_threadpool(p)` with `p < 1` returns `0` -/
  | initZero {p : ℕ} (hpc : s.master.pc = .initEntry p) (hp : p < 1) :
      MasterMove s fault (s.finish (.returned 0))
  /-- the `STARTED` store and `m_alive_flag.store(true)` -/
  | initStart {p : ℕ} (hpc : s.master.pc = .initEntry p) (hp : ¬p < 1) :
      MasterMove s fault (s.storeStarted p)
  /-- a started pool above the proposed size enters the shrink loop -/
  | initShrink {p : ℕ} (hpc : s.master.pc = .initCheck p) (hst : s.pool.poolState = .STARTED)
      (hlt : p < s.pool.poolSize) : MasterMove s fault (s.goto (.stopEntry (.shrink p)))
  /-- a started pool at the proposed size returns it -/
  | initSame {p : ℕ} (hpc : s.master.pc = .initCheck p)
      (hshrink : ¬(s.pool.poolState = .STARTED ∧ p < s.pool.poolSize))
      (hst : s.pool.poolState = .STARTED) (heq : s.pool.poolSize = p) :
      MasterMove s fault (s.finish (.returned s.pool.poolSize))
  /-- otherwise the pool grows -/
  | initGrow {p : ℕ} (hpc : s.master.pc = .initCheck p)
      (hshrink : ¬(s.pool.poolState = .STARTED ∧ p < s.pool.poolSize))
      (hsame : ¬(s.pool.poolState = .STARTED ∧ s.pool.poolSize = p)) :
      MasterMove s fault (s.goto (.initReserve p))
  /-- `m_is_joined.reserve` under `m_task_lock` -/
  | initReserve {p : ℕ} (hpc : s.master.pc = .initReserve p) (hfree : s.lockFree = true) :
      MasterMove s fault (s.goto (.initTid p))
  /-- `this_tid = GetThisThreadID()` -/
  | initTid {p : ℕ} (hpc : s.master.pc = .initTid p) : MasterMove s fault (s.takeThisTid p)
  /-- `new Thread(...)`, with the pushes -/
  | spawnThread {p thisTid i : ℕ} (hpc : s.master.pc = .spawn p thisTid i) (hi : i < p) :
      MasterMove s fault (s.spawnThread p thisTid i fault)
  /-- `++m_pool_size` -/
  | countThread {p thisTid i : ℕ} (hpc : s.master.pc = .spawnCount p thisTid i) :
      MasterMove s fault (s.countThread p thisTid i fault)
  /-- the spawn loop ends -/
  | spawnDone {p thisTid i : ℕ} (hpc : s.master.pc = .spawn p thisTid i) (hi : ¬i < p) :
      MasterMove s fault (s.goto (.initFinal p))
  /-- the size check of `initialize_threadpool` throws -/
  | initThrow {p : ℕ} (hpc : s.master.pc = .initFinal p) (hfree : s.lockFree = true)
      (hne : s.pool.isJoined.length ≠ s.pool.mainThreads.length) : MasterMove s fault (s.finish .threw)
  /-- `initialize_threadpool` returns `m_main_threads.size()` -/
  | initReturn {p : ℕ} (hpc : s.master.pc = .initFinal p) (hfree : s.lockFree = true)
      (heq : ¬s.pool.isJoined.length ≠ s.pool.mainThreads.length) :
      MasterMove s fault (s.finish (.returned s.pool.mainThreads.length))
  /-- `stop_thread` on a dead or empty pool returns `0` -/
  | stopEmpty {c : StopCaller} (hpc : s.master.pc = .stopEntry c)
      (h : (!s.pool.aliveFlag || s.pool.poolSize == 0) = true) : MasterMove s fault (s.stopReturn c 0)
  /-- `stop_thread` goes on to its token -/
  | stopEnter {c : StopCaller} (hpc : s.master.pc = .stopEntry c)
      (h : (!s.pool.aliveFlag || s.pool.poolSize == 0) = false) :
      MasterMove s fault (s.goto (.stopPost c))
  /-- the stop token and `notify_one` under `m_task_lock` -/
  | stopPost {c : StopCaller} {wake : Option Tid} {s₁ : Sys} (hpc : s.master.pc = .stopPost c)
      (hfree : s.lockFree = true) (h₁ : s.pushStopToken.notifyOne wake = some s₁) :
      MasterMove s fault (s₁.goto (.stopDrain c))
  /-- the drain of `m_stop_threads` under `m_task_lock`, and the return -/
  | stopDrain {c : StopCaller} (hpc : s.master.pc = .stopDrain c) (hfree : s.lockFree = true) :
      MasterMove s fault (s.drainStopThreads c)
  /-- `destroy_threadpool`'s `GetThisThreadID()` -/
  | destroyEntry (hpc : s.master.pc = .destroyEntry) :
      MasterMove s fault (s.callGetThisThreadID .destroyStore)
  /-- `m_pool_state.store(STOPPED)` -/
  | destroyStore (hpc : s.master.pc = .destroyStore) :
      MasterMove s fault ((s.setPool { s.pool with poolState := .STOPPED }).goto .destroyNotify)
  /-- the first `notify_all`, between `lock()` and `unlock()` -/
  | destroyNotify (hpc : s.master.pc = .destroyNotify) (hfree : s.lockFree = true) :
      MasterMove s fault (s.notifyAll.goto .destroyAlive)
  /-- `if(!m_alive_flag.load()) return 0` -/
  | destroyDead (hpc : s.master.pc = .destroyAlive) (ha : s.pool.aliveFlag = false) :
      MasterMove s fault (s.finish (.returned 0))
  /-- the size check of `destroy_threadpool` throws -/
  | destroyThrow (hpc : s.master.pc = .destroyAlive) (ha : s.pool.aliveFlag = true)
      (hne : s.pool.isJoined.length ≠ s.pool.mainThreads.length) : MasterMove s fault (s.finish .threw)
  /-- past the size check -/
  | destroyAlive (hpc : s.master.pc = .destroyAlive) (ha : s.pool.aliveFlag = true)
      (heq : ¬s.pool.isJoined.length ≠ s.pool.mainThreads.length) :
      MasterMove s fault (s.goto .destroyErase)
  /-- the erasure of `m_main_threads` from `f_thread_ids` -/
  | destroyErase (hpc : s.master.pc = .destroyErase) :
      MasterMove s fault { s.goto .destroyNotifyAll with
        registry := s.registry.eraseAll s.pool.mainThreads }
  /-- the second `notify_all` -/
  | destroyNotifyAll (hpc : s.master.pc = .destroyNotifyAll) :
      MasterMove s fault (s.notifyAll.goto (.destroyJoin 0))
  /-- the join loop finds the end of `m_unique_threads` -/
  | joinEnd {k : ℕ} (hpc : s.master.pc = .destroyJoin k) (hk : s.pool.uniqueThreads[k]? = none) :
      MasterMove s fault (s.goto .destroyClear)
  /-- `m_unique_threads[k]->join()` on a thread that has returned -/
  | join {k : ℕ} {t : Tid} (hpc : s.master.pc = .destroyJoin k)
      (hk : s.pool.uniqueThreads[k]? = some t) (hf : (s.workers t).pc = .finished) :
      MasterMove s fault ((s.setWorker t { s.workers t with pc := .joined }).goto (.destroyJoin (k + 1)))
  /-- the clear of the vectors and `return 0` -/
  | destroyClear (hpc : s.master.pc = .destroyClear) : MasterMove s fault s.clearThreads

/-- **What a step of the master can do**, said once: it is one of the `MasterMove`s. -/
theorem masterStep_move {s s' : Sys} {f : Option SpawnFault} {wk : Option Tid}
    (h : masterStep s f wk = some s') : MasterMove s f s' := by
  cases hpc : s.master.pc <;>
    simp only [masterStep, hpc, Sys.initializeThreadpool, Sys.stopThread, Sys.destroyThreadpool,
      Sys.joinStep] at h
  all_goals repeat' split at h
  all_goals try cases h
  case ctor => exact .threadPool hpc
  case initEntry.isTrue hp => exact .initZero hpc hp
  case initEntry.isFalse hp => exact .initStart hpc hp
  case initCheck.isTrue hshrink => exact .initShrink hpc hshrink.1 hshrink.2
  case initCheck.isFalse.isTrue hshrink hsame => exact .initSame hpc hshrink hsame.1 hsame.2
  case initCheck.isFalse.isFalse hshrink hsame => exact .initGrow hpc hshrink hsame
  case initReserve.isTrue hfree => exact .initReserve hpc hfree
  case initTid => exact .initTid hpc
  case spawn.isTrue hi => exact .spawnThread hpc hi
  case spawn.isFalse hi => exact .spawnDone hpc hi
  case spawnCount => exact .countThread hpc
  case initFinal.isTrue.isTrue hfree hne => exact .initThrow hpc hfree hne
  case initFinal.isTrue.isFalse hfree heq => exact .initReturn hpc hfree heq
  case stopEntry.isTrue hempty => exact .stopEmpty hpc hempty
  case stopEntry.isFalse hempty => exact .stopEnter hpc (by simpa using hempty)
  case stopPost.isTrue hfree =>
    obtain ⟨s₁, h₁, rfl⟩ := Option.map_eq_some'.mp h
    exact .stopPost hpc hfree h₁
  case stopDrain.isTrue hfree => exact .stopDrain hpc hfree
  case destroyEntry => exact .destroyEntry hpc
  case destroyStore => exact .destroyStore hpc
  case destroyNotify.isTrue hfree => exact .destroyNotify hpc hfree
  case destroyAlive.isTrue hdead => exact .destroyDead hpc (by simpa using hdead)
  case destroyAlive.isFalse.isTrue hdead hne => exact .destroyThrow hpc (by simpa using hdead) hne
  case destroyAlive.isFalse.isFalse hdead heq =>
    exact .destroyAlive hpc (by simpa using hdead) heq
  case destroyErase => exact .destroyErase hpc
  case destroyNotifyAll => exact .destroyNotifyAll hpc
  case destroyJoin.h_1 hk => exact .joinEnd hpc hk
  case destroyJoin.h_2.isTrue hk hf => exact .join hpc hk hf
  case destroyClear => exact .destroyClear hpc

/-- One step of worker `t`; an exception out of `execute_thread` ends the program. -/
def workerStep (C : StateCodes) (s : Sys) (t : Tid) (q : QueueAnswer) : Option Sys :=
  match (s.workers t).executeThread C (s.input q) with
  | .error _ => some (s.goto .aborted)
  | .ok (w, e) => (s.applyEffect t e).map (·.setWorker t w)

/-- Where the master must be to start the call: the constructor runs first, the others
between calls. -/
def Call.startsFrom : Call → MasterPc
  | .ctor _ => .unconstructed
  | _ => .idle

/-- The first step of the call. -/
def Call.entry : Call → MasterPc
  | .ctor n => .ctor n
  | .initializeThreadpool n => .initEntry n
  | .stopThread => .stopEntry .publicCall
  | .destroy => .destroyEntry

/-- The master starting a public call. -/
def callStep (s : Sys) (c : Call) : Option Sys :=
  if s.master.pc = c.startsFrom then some (s.goto c.entry) else none

/-- One step of the system; nothing runs after `std::terminate`. -/
def step (C : StateCodes) (s : Sys) (a : Action) : Option Sys :=
  if s.master.pc = .aborted then none
  else
    match a with
    | .call c => callStep s c
    | .master fault wake => masterStep s fault wake
    | .worker t q => workerStep C s t q

/-- A step of the system is a call, a step of the master or a step of a worker. -/
theorem step_cases {C : StateCodes} {s s' : Sys} {a : Action} (h : step C s a = some s') :
    (∃ c, callStep s c = some s') ∨ (∃ f wk, masterStep s f wk = some s') ∨
      ∃ t q, workerStep C s t q = some s' := by
  unfold step at h
  split at h
  · cases h
  · cases a with
    | call c => exact .inl ⟨c, h⟩
    | master f wk => exact .inr (.inl ⟨f, wk, h⟩)
    | worker t q => exact .inr (.inr ⟨t, q, h⟩)

/-- Take the steps of a list in order. -/
def run (C : StateCodes) : Sys → List Action → Option Sys
  | s, [] => some s
  | s, a :: as => (step C s a).bind (run C · as)

/-- The states some interleaving reaches from before the constructor. -/
inductive Reachable (C : StateCodes) : Sys → Prop where
  | init : Reachable C Sys.init
  | step {s s' : Sys} (a : Action) : Reachable C s → step C s a = some s' → Reachable C s'

theorem Reachable.run {C : StateCodes} {as : List Action} :
    ∀ {s s' : Sys}, Reachable C s → run C s as = some s' → Reachable C s' := by
  induction as with
  | nil =>
    intro s s' hs h
    cases h
    exact hs
  | cons a as ih =>
    intro s s' hs h
    obtain ⟨s₁, h₁, h₂⟩ := Option.bind_eq_some.mp h
    exact ih (hs.step a h₁) h₂

/-- A Boolean test of a step's result passes exactly when the step happens and its result
passes. -/
theorem option_any_eq_true {α : Type} {p : α → Bool} {x : Option α} :
    x.any p = true ↔ ∃ a, x = some a ∧ p a = true := by
  cases x <;> simp

/-- A trace from before the constructor that ends where `p` holds. -/
theorem reach_of_run {C : StateCodes} {l : List Action} {p : Sys → Bool}
    (h : (run C Sys.init l).map p = some true) : ∃ s, Reachable C s ∧ p s = true := by
  cases hr : run C Sys.init l with
  | none => simp [hr] at h
  | some s =>
    simp only [hr, Option.map_some', Option.some.injEq] at h
    exact ⟨s, Reachable.init.run hr, h⟩

end PtlThreadPool
