import Mathlib.Logic.Function.Basic
import Mathlib.Tactic.Cases

/-!
# Threads, pool states and `std::unique_lock`

The vocabulary every module of the model of `ThreadPool.cc` shares:

* `Tid` — a thread's identity, standing for its `std::thread::id`. The model gives every new
  thread a fresh one, while the code may see a `std::thread::id` reused once its thread has
  been joined.
* `PoolState` — `thread_pool::state`, the value of `m_pool_state`, and `StateCodes`, the
  integers `execute_thread` compares these constants as. The header that declares them is
  not among the sources, so the codes are a parameter of the model; only what the spec
  says about them is assumed.
* `QueueAnswer` — what the external task queue (`VUserTaskQueue`) answers a worker.
* `UniqueLock` — `std::unique_lock::lock` and `unlock` as they act on `owns_lock()`:
  locking an owning lock and unlocking a non-owning one throw `std::system_error`.
-/

namespace PtlThreadPool

/-- A thread identity (`std::thread::id`); the model never reuses one. -/
abbrev Tid : Type := ℕ

/-- The thread that constructs the pool (`m_master_tid`). -/
def masterTid : Tid := 0

/-- `thread_pool::state`: the lifecycle of a pool, held in `m_pool_state`. -/
inductive PoolState : Type where
  /-- constructed, never initialized -/
  | NONINIT
  /-- `initialize_threadpool` has run -/
  | STARTED
  /-- some workers are asked to leave one at a time -/
  | PARTIAL
  /-- `destroy_threadpool` has begun -/
  | STOPPED
  deriving DecidableEq, Repr

/-- The integer values of the `thread_pool::state` constants, which `execute_thread` reads
through `static_cast<int>(m_pool_state.load())`. Only what the spec fixes is assumed: the
constants are distinct, and `PARTIAL` and `STOPPED` lie above the zero that `leave_pool`
and the wait predicate `_wake` compare against (`NONINIT < STARTED < PARTIAL < STOPPED`
with `NONINIT` numerically zero). -/
structure StateCodes : Type where
  /-- the value of each constant -/
  code : PoolState → ℤ
  /-- distinct constants have distinct values -/
  injective : Function.Injective code
  /-- `STOPPED` is above zero -/
  code_STOPPED_pos : 0 < code .STOPPED
  /-- `PARTIAL` is above zero -/
  code_PARTIAL_pos : 0 < code .PARTIAL

namespace StateCodes

variable (C : StateCodes)

@[simp] theorem code_inj {a b : PoolState} : C.code a = C.code b ↔ a = b :=
  C.injective.eq_iff

end StateCodes

/-- Modelled from the spec: the constants in the spec's order
`NONINIT < STARTED < PARTIAL < STOPPED`, with `NONINIT` the numeric zero. -/
def specCodes : StateCodes where
  code
    | .NONINIT => 0
    | .STARTED => 1
    | .PARTIAL => 2
    | .STOPPED => 3
  injective := by
    intro a b h
    cases a <;> cases b <;> first | rfl | exact absurd h (by decide)
  code_STOPPED_pos := by decide
  code_PARTIAL_pos := by decide

/-- Codes with `STARTED` at zero: `STARTED = 0`, `PARTIAL = 1`, `STOPPED = 2`, `NONINIT = 3`.
Under them `_wake` is false in a started pool whose queue is empty, so an idle worker sleeps in
`m_task_cond.wait` until it is notified. -/
def startedZeroCodes : StateCodes where
  code
    | .STARTED => 0
    | .PARTIAL => 1
    | .STOPPED => 2
    | .NONINIT => 3
  injective := by
    intro a b h
    cases a <;> cases b <;> first | rfl | exact absurd h (by decide)
  code_STOPPED_pos := by decide
  code_PARTIAL_pos := by decide

/-- The answers of the external queue to one step of a worker: `empty()`, `true_size()`,
and whether `GetTask()` handed out a task. Each step reads only the answers it asks. -/
structure QueueAnswer : Type where
  /-- `_task_queue->empty()` -/
  empty : Bool
  /-- `_task_queue->true_size()` -/
  trueSize : ℕ
  /-- `_task_queue->GetTask()` returned a task -/
  hasTask : Bool
  deriving DecidableEq, Repr

/-- The `std::errc` of the `std::system_error` a `std::unique_lock` throws. -/
inductive LockError : Type where
  /-- `lock()` on a lock that already owns its mutex -/
  | resourceDeadlockWouldOccur
  /-- `unlock()` on a lock that does not own its mutex -/
  | operationNotPermitted
  deriving DecidableEq, Repr

namespace UniqueLock

/-- `std::unique_lock::lock()` on `owns_lock()`: the new value, or the error it throws. -/
def lock (owns : Bool) : Except LockError Bool :=
  if owns then .error .resourceDeadlockWouldOccur else .ok true

/-- `std::unique_lock::unlock()` on `owns_lock()`: the new value, or the error it throws. -/
def unlock (owns : Bool) : Except LockError Bool :=
  if owns then .ok false else .error .operationNotPermitted

@[simp] theorem lock_false : lock false = .ok true := rfl

@[simp] theorem unlock_true : unlock true = .ok false := rfl

end UniqueLock

end PtlThreadPool
