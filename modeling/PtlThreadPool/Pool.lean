import PtlThreadPool.Basic

/-!
# The members of a `ThreadPool`

`Pool` holds the members of `ThreadPool` that the pool's lifecycle reads and writes, as the
constructor's initializer list leaves them (`Pool.init`). Two pieces of the master's code
act on them alone, without other threads, and are defined here:

* `spawnIteration` — one iteration of the spawn loop of `initialize_threadpool`
  (lines 304–330), run up to the statement that throws, if one does. The loop catches
  `std::runtime_error` and `std::bad_alloc`, but an exception thrown after the new
  `std::thread` exists unwinds the local `tid` while the thread is joinable, and the
  destructor of a joinable `std::thread` calls `std::terminate`.
* `drainAcks` — the loop of `stop_thread` (lines 453–469) that removes the acknowledged
  workers from `m_main_threads` and `m_is_joined`.
-/

namespace PtlThreadPool

/-- The members of a `ThreadPool` that its lifecycle reads and writes. -/
structure Pool : Type where
  /-- `m_alive_flag` -/
  aliveFlag : Bool
  /-- `m_pool_size` -/
  poolSize : ℕ
  /-- `m_pool_state` -/
  poolState : PoolState
  /-- `*m_thread_awake`, an `atomic_int_type` compared with the unsigned `m_pool_size`; its
  declaration is not in `src/`, and it is taken as `std::atomic_uintmax_t`, 64 bits wide, so
  that `--` at `0` wraps -/
  threadAwake : UInt64
  /-- `m_main_threads`, the ids of the workers -/
  mainThreads : List Tid
  /-- `m_is_joined` -/
  isJoined : List Bool
  /-- `m_unique_threads`, the `std::thread` handles, by the id of their thread -/
  uniqueThreads : List Tid
  /-- `m_is_stopped`, the stop tokens -/
  isStopped : List Bool
  /-- `m_stop_threads`, the workers that took a stop token -/
  stopThreads : List Tid
  /-- the thread holding `m_task_lock` -/
  taskLock : Option Tid
  deriving DecidableEq, Repr

/-- The members as the constructor's initializer list leaves them. -/
def Pool.init : Pool where
  aliveFlag := false
  poolSize := 0
  poolState := .NONINIT
  threadAwake := 0
  mainThreads := []
  isJoined := []
  uniqueThreads := []
  isStopped := []
  stopThreads := []
  taskLock := none

/-! ## The spawn loop -/

/-- The statements of a spawn-loop iteration that can throw an exception the loop catches.
`m_is_joined.push_back` is not one of them: `m_is_joined` was reserved to the proposed size
before the loop. -/
inductive SpawnFault : Type where
  /-- `new Thread(...)`: `std::bad_alloc`, or the `std::system_error` (a
  `std::runtime_error`) of a thread that cannot be created -/
  | threadCreation
  /-- `m_main_threads.push_back(...)`: `std::bad_alloc` -/
  | mainThreadsPush
  /-- `m_unique_threads.emplace_back(...)`: `std::bad_alloc` -/
  | uniqueThreadsPush
  deriving DecidableEq, Repr

/-- How an iteration of the spawn loop ends. -/
structure SpawnResult : Type where
  /-- the members when control leaves the iteration -/
  pool : Pool
  /-- the iteration created a thread -/
  created : Bool
  /-- the exception left the iteration while the local `tid` still owned the new, joinable
  thread, whose destructor calls `std::terminate` -/
  terminates : Bool
  deriving DecidableEq, Repr

/-- One iteration of the spawn loop (lines 304–330) creating the thread `t`, stopped by the
exception of `fault` if one is given. -/
def spawnIteration (t : Tid) (fault : Option SpawnFault) (p : Pool) : SpawnResult :=
  if fault = some .threadCreation then ⟨p, false, false⟩ else
  -- `++m_pool_size`
  let p := { p with poolSize := p.poolSize + 1 }
  if fault = some .mainThreadsPush then ⟨p, true, true⟩ else
  -- `m_main_threads.push_back(tid->get_id())` and `m_is_joined.push_back(false)`
  let p := { p with mainThreads := p.mainThreads ++ [t], isJoined := p.isJoined ++ [false] }
  if fault = some .uniqueThreadsPush then ⟨p, true, true⟩ else
  -- `m_unique_threads.emplace_back(std::move(tid))`
  ⟨{ p with uniqueThreads := p.uniqueThreads ++ [t] }, true, false⟩

/-- The members after a spawn-loop iteration that creates `t` and throws nothing. -/
def Pool.addWorker (t : Tid) (p : Pool) : Pool :=
  { p with
    poolSize := p.poolSize + 1
    mainThreads := p.mainThreads ++ [t]
    isJoined := p.isJoined ++ [false]
    uniqueThreads := p.uniqueThreads ++ [t] }

/-- An iteration that the program survives either grows the four members by the new thread
or leaves the members as they were and creates no thread. -/
theorem spawnIteration_of_not_terminates {t : Tid} {fault : Option SpawnFault} {p : Pool}
    (h : (spawnIteration t fault p).terminates = false) :
    (fault = none ∧ spawnIteration t fault p = ⟨p.addWorker t, true, false⟩) ∨
      (fault = some .threadCreation ∧ spawnIteration t fault p = ⟨p, false, false⟩) := by
  rcases fault with _ | _ | _ | _ <;> simp_all [spawnIteration, Pool.addWorker]

/-- At `m_main_threads.push_back` the iteration is neither done nor undone: `m_pool_size` has
grown and `m_main_threads` has not, and the new thread has no handle in `m_unique_threads`;
unwinding then calls `std::terminate` instead of reaching the `catch`. -/
theorem spawnIteration_mainThreadsPush_half_done :
    (spawnIteration 1 (some .mainThreadsPush) Pool.init).pool.poolSize = Pool.init.poolSize + 1 ∧
      (spawnIteration 1 (some .mainThreadsPush) Pool.init).pool.mainThreads =
        Pool.init.mainThreads ∧
      (spawnIteration 1 (some .mainThreadsPush) Pool.init).created = true ∧
      1 ∉ (spawnIteration 1 (some .mainThreadsPush) Pool.init).pool.uniqueThreads ∧
      (spawnIteration 1 (some .mainThreadsPush) Pool.init).terminates = true := by
  decide

/-- The spawn loop touches no member but the four it grows. -/
theorem spawnIteration_frame (t : Tid) (fault : Option SpawnFault) (p : Pool) :
    (spawnIteration t fault p).pool.aliveFlag = p.aliveFlag ∧
      (spawnIteration t fault p).pool.poolState = p.poolState ∧
      (spawnIteration t fault p).pool.stopThreads = p.stopThreads ∧
      (spawnIteration t fault p).pool.taskLock = p.taskLock := by
  unfold spawnIteration
  split_ifs <;> exact ⟨rfl, rfl, rfl, rfl⟩

/-! ## Acknowledged stops -/

/-- The loop of `stop_thread` over `m_stop_threads` (lines 453–469): each acknowledged id
leaves `m_main_threads` (its first occurrence) and `m_is_joined` loses its last entry. -/
def drainAcks : List Tid → List Tid → List Bool → List Tid × List Bool
  | [], main, joined => (main, joined)
  | t :: ts, main, joined => drainAcks ts (main.erase t) joined.dropLast

@[simp] theorem drainAcks_nil (main : List Tid) (joined : List Bool) :
    drainAcks [] main joined = (main, joined) := rfl

end PtlThreadPool
