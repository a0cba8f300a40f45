import PtlThreadPool.Liveness

/-!
# The lifecycle of a pool: its thread handles, `is_initialized` and `~ThreadPool`

A `ThreadPool` owns its worker threads through `m_unique_threads`, the `std::thread` handles
that `destroy_threadpool` joins; the destructor of a `std::thread` that is still joinable calls
`std::terminate`. `~ThreadPool` calls `destroy_threadpool()` only if `m_alive_flag` is set
(`Sys.destructorCall`), and then destroys the members, `m_unique_threads` among them.
`Lifecycle` collects what every reachable state keeps about this (`Reachable.lifecycle`):

* `unique_threads_are_live_threads` — no thread is lost: every worker thread created and not
  joined has its handle in `m_unique_threads`, and every handle names a created thread, none
  joined before the join loop passes it.
* `main_threads_eq_unique_threads` — `m_main_threads`, whose entries `destroy_threadpool`
  erases from `f_thread_ids`, names the same threads in the same order.
* `workers_return_only_when_stopped` — a worker returns from `execute_thread` only once
  `destroy_threadpool` has stored `STOPPED`.
* `destructor_destroys_no_joinable_thread` — with `m_alive_flag` clear there is no handle left
  and every created thread has been joined, and `destroy_threadpool` returns only with the flag
  clear; so `~ThreadPool` destroys no joinable thread.
* `is_initialized_persists` — `ThreadPool::is_initialized()` holds whenever the flag is set or
  a worker exists, and no run makes it false again.
-/

namespace PtlThreadPool

/-- `ThreadPool::is_initialized()`: `m_pool_state` is not `NONINIT`. -/
def Pool.isInitialized (p : Pool) : Bool := !(p.poolState == .NONINIT)

@[simp] theorem Pool.isInitialized_iff {p : Pool} :
    p.isInitialized = true ↔ p.poolState ≠ .NONINIT := by
  simp [Pool.isInitialized]

/-- What `ThreadPool::~ThreadPool()` calls before the members are destroyed:
`destroy_threadpool()` if `m_alive_flag` is set, and nothing otherwise. -/
def Sys.destructorCall (s : Sys) : Option Call := if s.pool.aliveFlag then some .destroy else none

/-- Between the `m_alive_flag.store(true)` of `initialize_threadpool` and the end of its spawn
loop. -/
def MasterPc.spawning : MasterPc → Bool
  | .initCheck _ | .initReserve _ | .initTid _ | .spawn _ _ _ | .spawnCount _ _ _ => true
  | _ => false

theorem Sys.stopReturn_spawning (s : Sys) (c : StopCaller) (r : ℕ) :
    (s.stopReturn c r).master.pc.spawning = false := by
  cases c <;> simp only [Sys.stopReturn] <;> (try split_ifs) <;> rfl

/-- Returning from `execute_thread`, or returned and not yet joined. -/
def WorkerPc.returning : WorkerPc → Bool
  | .exiting | .finished => true
  | _ => false

theorem WorkerPc.live_of_returning {pc : WorkerPc} (h : pc.returning = true) :
    pc ≠ .unspawned ∧ pc ≠ .joined := by
  cases pc <;> (try cases h) <;> exact ⟨nofun, nofun⟩

/-- Outside the stop-token branch a worker starts returning from `execute_thread` only through a
`leave_pool` that read `STOPPED`. -/
theorem Worker.executeThread_returning {C : StateCodes} {w w' : Worker} {inp : Input} {e : Effect}
    (h : w.executeThread C inp = .ok (w', e)) (hb : w.pc.inStopBranch = false)
    (hr : w'.pc.returning = true) : w.pc.returning = true ∨ inp.state = .STOPPED := by
  obtain ⟨pc, owns, wt, hint⟩ := w
  cases pc
  case leaveRead site =>
    obtain ⟨rfl, -⟩ := Prod.mk.inj (Except.ok.inj h)
    rcases leavePool_pc C site inp.state ⟨.leaveRead site, owns, wt, hint⟩ with
      ⟨-, hv⟩ | ⟨hpc, -⟩ | ⟨hpc, -⟩
    · exact .inr hv
    · rw [hpc] at hr
      cases hr
    · rw [hpc] at hr
      cases site <;> cases hr
  case leaveLock | leaveTokens => cases hb
  case exiting | finished => exact .inl rfl
  all_goals
    simp only [Worker.executeThread, lockIfNotOwned_eq, unlockIfOwned_eq] at h
    try split at h
    all_goals
      obtain ⟨rfl, -⟩ := Prod.mk.inj (Except.ok.inj h)
      cases hr

/-- Its own step neither creates a worker nor brings a joined one back. -/
theorem Worker.executeThread_created {C : StateCodes} {w w' : Worker} {inp : Input} {e : Effect}
    (h : w.executeThread C inp = .ok (w', e)) (hu : w'.pc ≠ .unspawned) :
    w.pc ≠ .unspawned ∧ (w'.pc ≠ .joined → w.pc ≠ .joined) := by
  obtain ⟨pc, owns, wt, hint⟩ := w
  refine ⟨fun hpc => ?_, fun hj hpc => ?_⟩ <;> subst hpc <;>
    obtain ⟨rfl, rfl⟩ := Prod.mk.inj (Except.ok.inj h)
  exacts [hu rfl, hj rfl]

/-- A wake-up creates no worker, joins none and makes none return. -/
theorem wake_created {w w' : Worker}
    (h : w' = w ∨ w.pc = .blocked ∧ w' = { w with pc := .waitReacquire }) :
    (w'.pc ≠ .unspawned → w.pc ≠ .unspawned ∧ (w'.pc ≠ .joined → w.pc ≠ .joined)) ∧
      (w'.pc.returning = true → w.pc.returning = true) := by
  rcases h with rfl | ⟨hb, rfl⟩
  · exact ⟨fun hu => ⟨hu, id⟩, id⟩
  · rw [hb]
    exact ⟨fun _ => ⟨nofun, fun _ => nofun⟩, nofun⟩

/-! ## The invariant -/

/-- What every reachable state keeps about the pool's threads and its flags. -/
structure Lifecycle (s : Sys) : Prop where
  /-- every thread created and not joined has its handle in `m_unique_threads` -/
  owned : ∀ t, (s.workers t).pc ≠ .unspawned → (s.workers t).pc ≠ .joined →
    t ∈ s.pool.uniqueThreads
  /-- `m_main_threads` names the threads of `m_unique_threads`, in order -/
  sameThreads : s.pool.mainThreads = s.pool.uniqueThreads
  /-- with `m_alive_flag` clear there is no handle, and no spawn loop runs -/
  notAlive : s.pool.aliveFlag = false →
    s.pool.uniqueThreads = [] ∧ s.master.pc.spawning = false
  /-- `m_alive_flag` is set only in an initialized pool -/
  aliveInit : s.pool.aliveFlag = true → s.pool.isInitialized = true
  /-- workers exist only in an initialized pool -/
  workersInit : ∀ t, (s.workers t).pc ≠ .unspawned → s.pool.isInitialized = true
  /-- a worker returns from `execute_thread` only in a stopped pool -/
  exited : ∀ t, (s.workers t).pc.returning = true → s.pool.poolState = .STOPPED

/-- A step that creates no thread, keeps the thread vectors and `m_alive_flag`, stores nothing
but `STOPPED`, makes a worker return only under `STOPPED`, and enters the spawn loop only from
inside it keeps `Lifecycle`. -/
theorem Lifecycle.of_frame {s s' : Sys} (hl : Lifecycle s)
    (hw : ∀ t, (s'.workers t).pc ≠ .unspawned →
      (s.workers t).pc ≠ .unspawned ∧
        ((s'.workers t).pc ≠ .joined → (s.workers t).pc ≠ .joined))
    (hm : s'.pool.mainThreads = s.pool.mainThreads)
    (hu : s'.pool.uniqueThreads = s.pool.uniqueThreads) (ha : s'.pool.aliveFlag = s.pool.aliveFlag)
    (hst : s'.pool.poolState = s.pool.poolState ∨ s'.pool.poolState = .STOPPED)
    (hex : ∀ t, (s'.workers t).pc.returning = true →
      (s.workers t).pc.returning = true ∨ s'.pool.poolState = .STOPPED)
    (hsp : s'.master.pc.spawning = true → s.master.pc.spawning = true) : Lifecycle s' :=
  have hinit : s.pool.isInitialized = true → s'.pool.isInitialized = true := fun h => by
    rw [Pool.isInitialized_iff] at h ⊢
    rcases hst with h' | h' <;> rw [h']
    exacts [h, nofun]
  { owned := fun t ht hj => hu ▸ hl.owned t (hw t ht).1 ((hw t ht).2 hj)
    sameThreads := hm.trans (hl.sameThreads.trans hu.symm)
    notAlive := fun h => by
      obtain ⟨h₁, h₂⟩ := hl.notAlive (ha ▸ h)
      exact ⟨hu.trans h₁,
        Bool.eq_false_iff.mpr fun h' => Bool.false_ne_true (h₂ ▸ hsp h')⟩
    aliveInit := fun h => hinit (hl.aliveInit (ha ▸ h))
    workersInit := fun t h => hinit (hl.workersInit t (hw t h).1)
    exited := fun t h => (hex t h).elim (fun hr => hst.elim (·.trans (hl.exited t hr)) id) id }

/-- The spawn loop runs with `m_alive_flag` set. -/
theorem Lifecycle.alive_of_spawning {s : Sys} (hl : Lifecycle s)
    (hsp : s.master.pc.spawning = true) : s.pool.aliveFlag = true := by
  cases ha : s.pool.aliveFlag
  · rw [(hl.notAlive ha).2] at hsp
    cases hsp
  · rfl

/-- `new Thread(...)` hands the thread it creates to `m_unique_threads` and `m_main_threads` at
once, or creates none. -/
theorem Lifecycle.spawnThread {s : Sys} {p thisTid i : ℕ} {f : Option SpawnFault}
    (hl : Lifecycle s) (hpc : s.master.pc = .spawn p thisTid i) :
    Lifecycle (s.spawnThread p thisTid i f) := by
  have hsp : s.master.pc.spawning = true := by rw [hpc]; rfl
  unfold Sys.spawnThread
  split_ifs
  · exact hl.of_frame (fun _ h => ⟨h, id⟩) rfl rfl rfl (.inl rfl) (fun _ => .inl) fun _ => hsp
  have halive := hl.alive_of_spawning hsp
  have hinit := hl.aliveInit halive
  refine ⟨fun t ht hj => ?_, by simp [hl.sameThreads], fun h => absurd h (by simp [halive]),
    fun _ => hinit, fun _ _ => hinit, fun t hr => ?_⟩
  · simp only [List.mem_append, List.mem_singleton]
    by_cases htn : t = s.nextTid
    · exact .inr htn
    · simp only [Sys.setWorker_workers, htn, if_false] at ht hj
      exact .inl (hl.owned t ht hj)
  · -- the new thread is at `start`
    by_cases htn : t = s.nextTid
    · simp only [Sys.setWorker_workers, htn, if_true] at hr
      cases hr
    · simp only [Sys.setWorker_workers, htn, if_false] at hr
      exact hl.exited t hr

/-- `++m_pool_size`, or the `std::terminate` of a push that throws, touches no thread. -/
theorem Lifecycle.countThread {s : Sys} {p thisTid i : ℕ} {f : Option SpawnFault}
    (hl : Lifecycle s) (hpc : s.master.pc = .spawnCount p thisTid i) :
    Lifecycle (s.countThread p thisTid i f) := by
  unfold Sys.countThread
  split_ifs <;>
    exact hl.of_frame (fun _ h => ⟨h, id⟩) rfl rfl rfl (.inl rfl) (fun _ => .inl)
      fun _ => by rw [hpc]; rfl

/-- Every step of the master keeps `Lifecycle`: the spawn loop hands each new thread to
`m_unique_threads` while `m_alive_flag` is set, the join loop joins only threads that have
returned, and the clear of `destroy_threadpool` comes after every handle has been joined. -/
theorem lifecycle_master {s s' : Sys} {f : Option SpawnFault} {wk : Option Tid} (hi : Inv s)
    (hj : JoinedSoFar s) (hl : Lifecycle s) (h : masterStep s f wk = some s') : Lifecycle s' := by
  cases masterStep_move h
  case initStart =>
    unfold Sys.storeStarted
    cases halive : s.pool.aliveFlag
    · -- with `m_alive_flag` clear every created thread has been joined: none is returning
      have hnone := (hl.notAlive halive).1
      refine ⟨hl.owned, hl.sameThreads, nofun, fun _ => by simp, fun _ _ => by simp,
        fun t h => ?_⟩
      have hlive := WorkerPc.live_of_returning h
      exact absurd (hnone ▸ hl.owned t hlive.1 hlive.2) (List.not_mem_nil t)
    · -- `m_pool_state` is kept: the pool was initialized already
      have hinit := hl.aliveInit halive
      exact ⟨hl.owned, hl.sameThreads, nofun, fun _ => by simpa using hinit,
        fun _ _ => by simpa using hinit, fun t h => by simpa using hl.exited t h⟩
  case spawnThread hpc _ => exact hl.spawnThread hpc
  case countThread hpc => exact hl.countThread hpc
  case stopEmpty =>
    exact hl.of_frame (fun _ h => by rw [Sys.stopReturn_workers] at h ⊢; exact ⟨h, id⟩)
      (by simp) (by simp) (by simp) (.inl (by rw [Sys.stopReturn_pool]))
      (fun _ h => .inl (by rwa [Sys.stopReturn_workers] at h))
      fun h => by rw [Sys.stopReturn_spawning] at h; cases h
  case stopPost h₁ =>
    obtain ⟨hp, -⟩ := Sys.notifyOne_facts h₁
    exact hl.of_frame (fun t => (wake_created (Sys.notifyOne_workers h₁ t)).1)
      (by simp [hp, Sys.pushStopToken]) (by simp [hp, Sys.pushStopToken])
      (by simp [hp, Sys.pushStopToken]) (.inl (by simp [hp, Sys.pushStopToken]))
      (fun t h => .inl ((wake_created (Sys.notifyOne_workers h₁ t)).2 h)) nofun
  case stopDrain =>
    -- with no acknowledgements the drain keeps the vectors
    exact hl.of_frame (fun _ h => by rw [Sys.drainStopThreads_workers] at h ⊢; exact ⟨h, id⟩)
      (by simp [Sys.drainStopThreads, hi.noAcks]) (by simp [Sys.drainStopThreads])
      (by simp [Sys.drainStopThreads]) (.inl (by simp [Sys.drainStopThreads]))
      (fun _ h => .inl (by rwa [Sys.drainStopThreads_workers] at h))
      fun h => by simp [Sys.drainStopThreads, Sys.stopReturn_spawning] at h
  case destroyStore =>
    exact hl.of_frame (fun _ h => ⟨h, id⟩) rfl rfl rfl (.inr rfl) (fun _ _ => .inr rfl) nofun
  case destroyNotify | destroyNotifyAll =>
    exact hl.of_frame (fun t => (wake_created (s.notifyAll_workers t)).1) rfl rfl rfl (.inl rfl)
      (fun t h => .inl ((wake_created (s.notifyAll_workers t)).2 h)) nofun
  case join t _ _ hf =>
    refine hl.of_frame (fun u hu => ?_) rfl rfl rfl (.inl rfl) (fun u hr => .inl ?_) nofun
    all_goals by_cases hut : u = t
    · subst hut
      rw [hf]
      exact ⟨nofun, fun h => absurd (by simp) h⟩
    · simp only [Sys.goto_workers, Sys.setWorker_workers, hut, if_false] at hu ⊢
      exact ⟨hu, id⟩
    · rw [hut, hf]
      rfl
    · simpa only [Sys.goto_workers, Sys.setWorker_workers, hut, if_false] using hr
  case destroyClear hpc =>
    -- every live thread has a handle, and every handle has been joined
    exact ⟨fun t ht hj' => absurd (hj.2 hpc t (hl.owned t ht hj')) hj', rfl,
      fun _ => ⟨rfl, rfl⟩, nofun, hl.workersInit, hl.exited⟩
  all_goals
    refine hl.of_frame (fun _ h => ⟨h, id⟩) rfl rfl rfl (.inl rfl) (fun _ => .inl) fun h => ?_
  all_goals first | (rw [‹s.master.pc = _›]; rfl) | cases h

/-- A worker's step touches neither the thread vectors nor the flags and creates no thread; it
returns from `execute_thread` only on reading `STOPPED`. -/
theorem lifecycle_worker {C : StateCodes} {s s' : Sys} {t : Tid} {q : QueueAnswer} (hi : Inv s)
    (hl : Lifecycle s) (h : workerStep C s t q = some s') : Lifecycle s' := by
  obtain ⟨w, e, hstep, s₁, he, rfl⟩ := workerStep_eq h
  obtain ⟨hms, hws, -, hps, -⟩ := Sys.applyEffect_facts he
  obtain ⟨ha, -, hm, -, hu⟩ := Sys.applyEffect_members he
  refine hl.of_frame (fun u hu' => ?_) hm hu ha (.inl (by simp [hps])) (fun u hr => ?_)
    (by simp [hms])
  all_goals by_cases hut : u = t
  · subst hut
    simp only [Sys.setWorker_workers, if_pos rfl] at hu' ⊢
    exact Worker.executeThread_created hstep hu'
  · simp only [Sys.setWorker_workers, hut, if_false, hws] at hu' ⊢
    exact ⟨hu', id⟩
  · subst hut
    simp only [Sys.setWorker_workers, if_pos rfl] at hr
    refine (Worker.executeThread_returning hstep (hi.noStopBranch u) hr).imp_right fun hv => ?_
    simpa [hps] using hv
  · simpa only [Sys.setWorker_workers, hut, if_false, hws] using Or.inl hr

theorem Reachable.lifecycle {C : StateCodes} {s : Sys} (hs : Reachable C s) : Lifecycle s := by
  induction hs with
  | init =>
    exact ⟨fun _ h => absurd rfl h, rfl, fun _ => ⟨rfl, rfl⟩, nofun, fun _ h => absurd rfl h,
      nofun⟩
  | step a hr h ih =>
    rcases step_cases h with ⟨c, h⟩ | ⟨f, wk, h⟩ | ⟨t, q, h⟩
    · simp only [callStep] at h
      split at h
      · cases h
        exact ih.of_frame (fun _ h => ⟨h, id⟩) rfl rfl rfl (.inl rfl) (fun _ => .inl)
          fun h => by cases c <;> cases h
      · cases h
    · exact lifecycle_master hr.inv hr.joinedSoFar ih h
    · exact lifecycle_worker hr.inv ih h

/-! ## No thread is lost -/

/-- **No thread is lost.** In every reachable state, every worker thread the pool has created
and not joined has its handle in `m_unique_threads`, which `destroy_threadpool` joins; and every
handle names a thread that was created and, outside the join loop, is not joined. -/
theorem unique_threads_are_live_threads {C : StateCodes} {s : Sys} (hs : Reachable C s) (t : Tid) :
    ((s.workers t).pc ≠ .unspawned → (s.workers t).pc ≠ .joined → t ∈ s.pool.uniqueThreads) ∧
      (t ∈ s.pool.uniqueThreads → (s.workers t).pc ≠ .unspawned ∧
        ((∀ j, s.master.pc.joinedPast j = false) → (s.workers t).pc ≠ .joined)) :=
  ⟨hs.lifecycle.owned t, fun ht =>
    ⟨hs.destroyInv.created t ht, fun hj => hs.destroyInv.notJoined_mem hj t ht⟩⟩

theorem unique_threads_hold_waiting_worker :
    ∃ s, Reachable specCodes s ∧ (s.workers 1).pc = .waitEval ∧
      ((s.workers 1).pc ≠ .unspawned → (s.workers 1).pc ≠ .joined →
        1 ∈ s.pool.uniqueThreads) ∧
      (1 ∈ s.pool.uniqueThreads → (s.workers 1).pc ≠ .unspawned ∧
        ((∀ j, s.master.pc.joinedPast j = false) → (s.workers 1).pc ≠ .joined)) := by
  obtain ⟨s, hs, hp⟩ := reach_of_run (C := specCodes) (l := lockHeldTrace)
    (p := fun s => (s.workers 1).pc == .waitEval) (by decide)
  exact ⟨s, hs, by simpa using hp, unique_threads_are_live_threads hs 1⟩

/-- **The two thread lists agree.** In every reachable state `m_main_threads` and
`m_unique_threads` name the same threads in the same order, so the entries `destroy_threadpool`
erases from `f_thread_ids` are those of the threads it joins. -/
theorem main_threads_eq_unique_threads {C : StateCodes} {s : Sys} (hs : Reachable C s) :
    s.pool.mainThreads = s.pool.uniqueThreads :=
  hs.lifecycle.sameThreads

theorem main_threads_eq_unique_threads_of_one_worker :
    ∃ s, Reachable specCodes s ∧ s.pool.uniqueThreads = [1] ∧
      s.pool.mainThreads = s.pool.uniqueThreads := by
  obtain ⟨s, hs, hp⟩ := reach_of_run (C := specCodes) (l := lockHeldTrace)
    (p := fun s => s.pool.uniqueThreads == [1]) (by decide)
  exact ⟨s, hs, by simpa using hp, main_threads_eq_unique_threads hs⟩

/-! ## Workers leave only a stopped pool -/

/-- **Only `destroy_threadpool` lets a worker go.** In every reachable state a worker that is
returning from `execute_thread`, or has returned and waits to be joined, finds `m_pool_state`
holding `STOPPED`: no worker leaves a started pool, and the stop tokens of `stop_thread` never
make one return. -/
theorem workers_return_only_when_stopped {C : StateCodes} {s : Sys} (hs : Reachable C s) (t : Tid)
    (h : (s.workers t).pc = .exiting ∨ (s.workers t).pc = .finished) :
    s.pool.poolState = .STOPPED :=
  hs.lifecycle.exited t (by rcases h with h | h <;> rw [h] <;> rfl)

theorem finished_worker_sees_stopped :
    ∃ s, Reachable specCodes s ∧ (s.workers 1).pc = .finished ∧ s.pool.poolState = .STOPPED := by
  obtain ⟨s, hs, hp⟩ := reach_of_run (C := specCodes)
    (l := [.call (.ctor 1)] ++ List.replicate 9 (.master none none) ++ [.call .destroy] ++
      List.replicate 6 (.master none none) ++ List.replicate 7 (.worker 1 ⟨true, 0, false⟩))
    (p := fun s => (s.workers 1).pc == .finished) (by decide)
  have hfin : (s.workers 1).pc = .finished := beq_iff_eq.mp hp
  exact ⟨s, hs, hfin, workers_return_only_when_stopped hs 1 (.inr hfin)⟩

/-! ## `~ThreadPool` -/

theorem Sys.destructorCall_eq_none {s : Sys} :
    s.destructorCall = none ↔ s.pool.aliveFlag = false := by
  unfold Sys.destructorCall
  cases s.pool.aliveFlag <;> simp

/-- `destroy_threadpool` returns only with `m_alive_flag` clear: at once, because it was clear,
or after its clear. The size check between them never throws. -/
theorem masterStep_destroy_return {s s' : Sys} {f : Option SpawnFault} {wk : Option Tid}
    (hv : VectorsAgree s) (hpc : s.master.pc.inDestroy = true) (h : masterStep s f wk = some s')
    (hidle : s'.master.pc = .idle) : s'.pool.aliveFlag = false := by
  cases masterStep_move h
  case destroyDead ha => simpa using ha
  case destroyThrow hne => exact absurd hv.isJoined hne
  case destroyClear => rfl
  all_goals first | (rw [‹s.master.pc = _›] at hpc; cases hpc; done) | cases hidle

/-- A step that ends `destroy_threadpool` leaves `m_alive_flag` clear. -/
theorem step_destroy_return {C : StateCodes} {s s' : Sys} {a : Action} (hs : Reachable C s)
    (hpc : s.master.pc.inDestroy = true) (h : step C s a = some s') (hidle : s'.master.pc = .idle) :
    s'.pool.aliveFlag = false := by
  rcases step_cases h with ⟨c, h⟩ | ⟨f, wk, h⟩ | ⟨t, q, h⟩
  · -- a call starts only between calls
    simp only [callStep] at h
    split at h
    · rw [‹s.master.pc = c.startsFrom›] at hpc
      cases c <;> cases hpc
    · cases h
  · exact masterStep_destroy_return hs.vectorsAgree hpc h hidle
  · obtain ⟨w, e, -, s₁, he, rfl⟩ := workerStep_eq h
    simp only [Sys.setWorker_master, (Sys.applyEffect_facts he).1] at hidle
    rw [hidle] at hpc
    cases hpc

/-- **`~ThreadPool` destroys no joinable thread.** In every reachable state in which the
destructor would not call `destroy_threadpool` — `m_alive_flag` is clear — `m_unique_threads` is
empty and every thread the pool created has been joined; and every step that ends
`destroy_threadpool` leaves the flag clear, so a destructor that calls it finds the same. -/
theorem destructor_destroys_no_joinable_thread {C : StateCodes} {s : Sys} (hs : Reachable C s) :
    (s.destructorCall = none → s.pool.uniqueThreads = [] ∧
      ∀ t, (s.workers t).pc ≠ .unspawned → (s.workers t).pc = .joined) ∧
    ∀ a s', s.master.pc.inDestroy = true → step C s a = some s' → s'.master.pc = .idle →
      s'.destructorCall = none := by
  refine ⟨fun hd => ?_, fun a s' hpc h hidle =>
    Sys.destructorCall_eq_none.mpr (step_destroy_return hs hpc h hidle)⟩
  have hl := hs.lifecycle
  obtain ⟨hu, -⟩ := hl.notAlive (Sys.destructorCall_eq_none.mp hd)
  refine ⟨hu, fun t ht => ?_⟩
  by_contra hj
  simpa [hu] using hl.owned t ht hj

/-- `ThreadPool(1)` destroyed while its worker starts, and the last step of
`destroy_threadpool`. -/
theorem destructor_after_destroy_finds_worker_joined :
    ∃ s s', Reachable specCodes s ∧ s.master.pc = .destroyClear ∧
      step specCodes s (.master none none) = some s' ∧ s'.master.pc = .idle ∧
      s'.destructorCall = none ∧ (s'.workers 1).pc = .joined ∧
      (s'.destructorCall = none → s'.pool.uniqueThreads = [] ∧
        ∀ t, (s'.workers t).pc ≠ .unspawned → (s'.workers t).pc = .joined) ∧
      ∀ a s'', s'.master.pc.inDestroy = true → step specCodes s' a = some s'' →
        s''.master.pc = .idle → s''.destructorCall = none := by
  obtain ⟨s, hs, hp⟩ := reach_of_run (C := specCodes) (l := destroyDuringStartTrace)
    (p := fun s => s.master.pc == .destroyClear && (step specCodes s (.master none none)).any
      fun s' => s'.master.pc == .idle && s'.destructorCall == none && (s'.workers 1).pc == .joined)
    (by decide)
  simp only [Bool.and_eq_true, beq_iff_eq, option_any_eq_true] at hp
  obtain ⟨hpc, s', h, ⟨hidle, hd⟩, hj⟩ := hp
  have hs' := hs.step _ h
  have hds := (destructor_destroys_no_joinable_thread hs).2 _ s' (by rw [hpc]; rfl) h hidle
  exact ⟨s, s', hs, hpc, h, hidle, hds, hj, destructor_destroys_no_joinable_thread hs'⟩

/-! ## `is_initialized` -/

/-- No step makes an initialized pool uninitialized: the only stores to `m_pool_state` are of
`STARTED` and `STOPPED`. -/
theorem step_isInitialized {C : StateCodes} {s s' : Sys} {a : Action} (h : step C s a = some s')
    (hinit : s.pool.isInitialized = true) : s'.pool.isInitialized = true := by
  rw [Pool.isInitialized_iff] at hinit ⊢
  rcases step_cases h with ⟨c, h⟩ | ⟨f, wk, h⟩ | ⟨t, q, h⟩
  · simp only [callStep] at h
    split at h <;> cases h
    exact hinit
  · rcases (masterStep_facts h).poolState with h' | h' | ⟨h', -⟩ <;> rw [h']
    exacts [hinit, nofun, nofun]
  · obtain ⟨w, e, -, s₁, he, rfl⟩ := workerStep_eq h
    simpa [(Sys.applyEffect_facts he).2.2.2.1] using hinit

theorem run_isInitialized {C : StateCodes} (l : List Action) :
    ∀ {s s' : Sys}, run C s l = some s' → s.pool.isInitialized = true →
      s'.pool.isInitialized = true := by
  induction l with
  | nil =>
    intro s s' h hinit
    cases h
    exact hinit
  | cons a l ih =>
    intro s s' h hinit
    obtain ⟨s₁, h₁, h₂⟩ := Option.bind_eq_some.mp h
    exact ih h₂ (step_isInitialized h₁ hinit)

/-- **`is_initialized()` never goes back.** In every reachable state `is_initialized()` holds
whenever `m_alive_flag` is set or a worker thread has been created, and along every run from
there it stays true once it is. -/
theorem is_initialized_persists {C : StateCodes} {s : Sys} (hs : Reachable C s) :
    (s.pool.aliveFlag = true → s.pool.isInitialized = true) ∧
      (∀ t, (s.workers t).pc ≠ .unspawned → s.pool.isInitialized = true) ∧
      ∀ l s', run C s l = some s' → s.pool.isInitialized = true → s'.pool.isInitialized = true :=
  ⟨hs.lifecycle.aliveInit, hs.lifecycle.workersInit, fun l _ => run_isInitialized l⟩

theorem is_initialized_persists_after_constructor :
    ∃ s, Reachable specCodes s ∧ s.pool.aliveFlag = true ∧
      (s.pool.aliveFlag = true → s.pool.isInitialized = true) ∧
      (∀ t, (s.workers t).pc ≠ .unspawned → s.pool.isInitialized = true) ∧
      ∀ l s', run specCodes s l = some s' → s.pool.isInitialized = true →
        s'.pool.isInitialized = true := by
  obtain ⟨s, hs, hp⟩ := reach_of_run (C := specCodes) (l := lockHeldTrace)
    (p := fun s => s.pool.aliveFlag) (by decide)
  exact ⟨s, hs, hp, is_initialized_persists hs⟩

end PtlThreadPool
