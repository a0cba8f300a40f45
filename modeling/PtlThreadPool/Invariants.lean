import PtlThreadPool.System

/-!
# Invariants of every reachable state

`MasterFacts` says once what a step of the master can do to the state the workers share with
it, and `workerStep_eq` what a step of a worker is; every invariant below is derived from these
two. `Inv` collects what holds in every reachable state (`Reachable.inv`):

* `fresh` — no thread has an id from `nextTid` on;
* `lockInv` — each worker's `_task_lock.owns_lock()` is what its position says (`LockInv`);
* `mutex` — `m_task_lock` is held by exactly the worker that `Holds` it;
* `notPartial`, `noStopBranch`, `noAcks` — no code stores `PARTIAL`, so no worker enters the
  stop-token branch of `leave_pool` and `m_stop_threads` stays empty.
-/

namespace PtlThreadPool

/-! ## What a step of the master can do -/

/-- What one step of the master can do to worker `t`: nothing, wake it, join it, or create it
at the next id. -/
def MasterTouch (s s' : Sys) (t : Tid) : Prop :=
  s'.workers t = s.workers t ∨
    (s.workers t).pc = .blocked ∧ s'.workers t = { s.workers t with pc := .waitReacquire } ∨
    (s.workers t).pc = .finished ∧ s'.workers t = { s.workers t with pc := .joined } ∨
    t = s.nextTid ∧ s'.nextTid = s.nextTid + 1 ∧ ∃ h, s'.workers t = Worker.spawned h

/-- What one step of the master does to the state it shares with the workers. -/
structure MasterFacts (s s' : Sys) : Prop where
  /-- each worker is left alone, woken, joined or created -/
  touch : ∀ t, MasterTouch s s' t
  /-- at most one thread is created -/
  nextTid : s'.nextTid = s.nextTid ∨ s'.nextTid = s.nextTid + 1
  /-- the master holds `m_task_lock` only inside a step -/
  taskLock : s'.pool.taskLock = s.pool.taskLock
  /-- the stores to `m_pool_state`: `STARTED`, and `STOPPED` on the way to the broadcast -/
  poolState : s'.pool.poolState = s.pool.poolState ∨ s'.pool.poolState = .STARTED ∨
    s'.pool.poolState = .STOPPED ∧ s'.master.pc = .destroyNotify
  /-- `m_stop_threads` is only emptied -/
  stopThreads : s'.pool.stopThreads = s.pool.stopThreads ∨ s'.pool.stopThreads = []
  /-- the first `notify_all` of `destroy_threadpool` runs with the mutex free -/
  atNotify : s.master.pc = .destroyNotify → s.lockFree = true ∧ s' = s.notifyAll.goto .destroyAlive
  /-- that `notify_all` is reached only from the store of `STOPPED` -/
  toNotify : s'.master.pc = .destroyNotify → s'.pool.poolState = .STOPPED

theorem MasterFacts.frame {s s' : Sys} (hw : s'.workers = s.workers)
    (hn : s'.nextTid = s.nextTid) (hl : s'.pool.taskLock = s.pool.taskLock)
    (hs : s'.pool.poolState = s.pool.poolState)
    (hst : s'.pool.stopThreads = s.pool.stopThreads ∨ s'.pool.stopThreads = [])
    (hpc : s.master.pc ≠ .destroyNotify) (hpc' : s'.master.pc ≠ .destroyNotify) :
    MasterFacts s s' :=
  ⟨fun t => .inl (congrFun hw t), .inl hn, hl, .inl hs, hst, fun h => absurd h hpc,
    fun h => absurd h hpc'⟩

theorem MasterTouch.notifyAll (s : Sys) (t : Tid) : MasterTouch s s.notifyAll t := by
  rcases s.notifyAll_workers t with h | h
  · exact .inl h
  · exact .inr (.inl h)

namespace Sys

variable (s : Sys)

@[simp] theorem stopReturn_workers (c : StopCaller) (r : ℕ) :
    (s.stopReturn c r).workers = s.workers := by
  cases c <;> simp only [stopReturn] <;> (try split_ifs) <;> rfl

@[simp] theorem stopReturn_pool (c : StopCaller) (r : ℕ) : (s.stopReturn c r).pool = s.pool := by
  cases c <;> simp only [stopReturn] <;> (try split_ifs) <;> rfl

@[simp] theorem stopReturn_nextTid (c : StopCaller) (r : ℕ) :
    (s.stopReturn c r).nextTid = s.nextTid := by
  cases c <;> simp only [stopReturn] <;> (try split_ifs) <;> rfl

@[simp] theorem stopReturn_master_pc_ne (c : StopCaller) (r : ℕ) :
    (s.stopReturn c r).master.pc ≠ .destroyNotify := by
  cases c <;> simp only [stopReturn] <;> (try split_ifs) <;> simp

@[simp] theorem drainStopThreads_workers (c : StopCaller) :
    (s.drainStopThreads c).workers = s.workers := by
  simp [drainStopThreads]

@[simp] theorem drainStopThreads_nextTid (c : StopCaller) :
    (s.drainStopThreads c).nextTid = s.nextTid := by
  simp [drainStopThreads]

theorem drainStopThreads_master_pc_ne (c : StopCaller) :
    (s.drainStopThreads c).master.pc ≠ .destroyNotify := by
  simp [drainStopThreads]

/-- `new Thread(...)` creates the thread `nextTid`, or throws and creates none. -/
theorem spawnThread_facts {p thisTid i : ℕ} {f : Option SpawnFault} {s : Sys}
    (hpc : s.master.pc ≠ .destroyNotify) : MasterFacts s (s.spawnThread p thisTid i f) := by
  unfold spawnThread
  split_ifs
  · exact MasterFacts.frame rfl rfl rfl rfl (.inl rfl) hpc (by simp)
  · refine ⟨fun t => ?_, .inr rfl, rfl, .inl rfl, .inl rfl, fun h => absurd h hpc, nofun⟩
    by_cases ht : t = s.nextTid
    · exact .inr (.inr (.inr ⟨ht, rfl, (thisTid + i + 1 : ℤ), by simp [ht]⟩))
    · exact .inl (by simp [ht])

theorem countThread_facts {p thisTid i : ℕ} {f : Option SpawnFault} {s : Sys}
    (hpc : s.master.pc ≠ .destroyNotify) : MasterFacts s (s.countThread p thisTid i f) := by
  unfold countThread
  split_ifs <;> exact MasterFacts.frame rfl rfl rfl rfl (.inl rfl) hpc (by simp)

theorem notifyOne_facts {wk : Option Tid} {s s₁ : Sys} (h : s.notifyOne wk = some s₁) :
    s₁.pool = s.pool ∧ s₁.nextTid = s.nextTid ∧ s₁.master = s.master ∧ ∀ t, MasterTouch s s₁ t := by
  cases wk with
  | none =>
    simp only [notifyOne] at h
    split at h
    · cases h
    · cases h
      exact ⟨rfl, rfl, rfl, fun _ => .inl rfl⟩
  | some u =>
    simp only [notifyOne] at h
    split at h
    · cases h
      refine ⟨rfl, rfl, rfl, fun t => ?_⟩
      by_cases ht : t = u
      · subst ht
        exact .inr (.inl ⟨by assumption, by simp⟩)
      · exact .inl (by simp [ht])
    · cases h

end Sys

/-- What a step of the master does to the state it shares with the workers. -/
theorem masterStep_facts {s s' : Sys} {f : Option SpawnFault} {wk : Option Tid}
    (h : masterStep s f wk = some s') : MasterFacts s s' := by
  cases masterStep_move h
  case initStart hpc _ =>
    refine ⟨fun _ => .inl rfl, .inl rfl, rfl, ?_, .inl rfl, fun h => by simp [hpc] at h, nofun⟩
    simp only [Sys.storeStarted]
    split
    exacts [.inl rfl, .inr (.inl rfl)]
  case spawnThread hpc _ => exact Sys.spawnThread_facts (by simp [hpc])
  case countThread hpc => exact Sys.countThread_facts (by simp [hpc])
  case stopEmpty hpc _ =>
    exact MasterFacts.frame (by simp) (by simp) (by simp) (by simp) (.inl (by simp)) (by simp [hpc])
      (by simp)
  case stopPost hpc _ h₁ =>
    obtain ⟨hp, hn, -, ht⟩ := Sys.notifyOne_facts h₁
    exact ⟨fun t => by simpa using ht t, .inl (by simpa using hn),
      by simp [hp, Sys.pushStopToken],
      .inl (by simp [hp, Sys.pushStopToken]), .inl (by simp [hp, Sys.pushStopToken]),
      fun h => by simp [hpc] at h, fun h => by simp at h⟩
  case stopDrain hpc _ =>
    exact MasterFacts.frame (by simp) (by simp) (by simp [Sys.drainStopThreads])
      (by simp [Sys.drainStopThreads]) (.inr (by simp [Sys.drainStopThreads])) (by simp [hpc])
      (Sys.drainStopThreads_master_pc_ne _ _)
  case destroyStore hpc =>
    exact ⟨fun _ => .inl rfl, .inl rfl, rfl, .inr (.inr ⟨rfl, rfl⟩), .inl rfl,
      fun h => by simp [hpc] at h, fun _ => rfl⟩
  case destroyNotify hfree =>
    exact ⟨MasterTouch.notifyAll s, .inl rfl, rfl, .inl rfl, .inl rfl, fun _ => ⟨hfree, rfl⟩,
      fun h => by simp at h⟩
  case destroyNotifyAll hpc =>
    exact ⟨MasterTouch.notifyAll s, .inl rfl, rfl, .inl rfl, .inl rfl,
      fun h => by simp [hpc] at h, fun h => by simp at h⟩
  case join t hpc _ hfin =>
    refine ⟨fun u => ?_, .inl rfl, rfl, .inl rfl, .inl rfl, fun h => by simp [hpc] at h,
      fun h => by simp at h⟩
    by_cases hu : u = t
    · subst hu
      exact .inr (.inr (.inl ⟨hfin, by simp⟩))
    · exact .inl (by simp [hu])
  all_goals
    exact MasterFacts.frame rfl rfl rfl rfl (.inl rfl) (by simp [‹s.master.pc = _›]) (by simp)

/-! ## What a step of a worker can do -/

/-- A step of worker `t` is its `Worker.executeThread`, which never throws, followed by the step's
effect on the shared state. -/
theorem workerStep_eq {C : StateCodes} {s s' : Sys} {t : Tid} {q : QueueAnswer}
    (h : workerStep C s t q = some s') :
    ∃ w e, (s.workers t).executeThread C (s.input q) = .ok (w, e) ∧
      ∃ s₁, s.applyEffect t e = some s₁ ∧ s' = s₁.setWorker t w := by
  obtain ⟨⟨w, e⟩, hok⟩ := (s.workers t).executeThread_ok C (s.input q)
  simp only [workerStep, hok] at h
  obtain ⟨s₁, h₁, rfl⟩ := Option.map_eq_some'.mp h
  exact ⟨w, e, hok, s₁, h₁, rfl⟩

/-- What the effect of a worker's step does: it touches only `m_task_lock` as the effect says,
the stop lists when it consumes a token, the counter and the registry. -/
theorem Sys.applyEffect_facts {s s₁ : Sys} {t : Tid} {e : Effect}
    (h : s.applyEffect t e = some s₁) :
    s₁.master = s.master ∧ s₁.workers = s.workers ∧ s₁.nextTid = s.nextTid ∧
      s₁.pool.poolState = s.pool.poolState ∧
      (e ≠ .consumeToken → s₁.pool.stopThreads = s.pool.stopThreads) ∧
      (e = .acquire → s.pool.taskLock = none ∧ s₁.pool.taskLock = some t) ∧
      (e = .release → s₁.pool.taskLock = none) ∧
      (e ≠ .acquire → e ≠ .release → s₁.pool.taskLock = s.pool.taskLock) := by
  cases e <;> simp only [Sys.applyEffect] at h
  case acquire =>
    split at h
    · cases h
      simpa [Sys.lockFree] using ‹s.lockFree = true›
    · cases h
  all_goals cases h; simp

/-- A worker's step writes none of `m_alive_flag`, `m_pool_size` and the three thread
vectors: those are the master's. -/
theorem Sys.applyEffect_members {s s₁ : Sys} {t : Tid} {e : Effect}
    (h : s.applyEffect t e = some s₁) :
    s₁.pool.aliveFlag = s.pool.aliveFlag ∧ s₁.pool.poolSize = s.pool.poolSize ∧
      s₁.pool.mainThreads = s.pool.mainThreads ∧ s₁.pool.isJoined = s.pool.isJoined ∧
      s₁.pool.uniqueThreads = s.pool.uniqueThreads := by
  cases e <;> simp only [Sys.applyEffect] at h
  case acquire =>
    split at h
    · cases h
      exact ⟨rfl, rfl, rfl, rfl, rfl⟩
    · cases h
  all_goals cases h; exact ⟨rfl, rfl, rfl, rfl, rfl⟩

@[simp] theorem Worker.executeThread_unspawned (C : StateCodes) (inp : Input) :
    Worker.unspawned.executeThread C inp = .ok (Worker.unspawned, .none) := rfl

/-! ## The invariants -/

/-- What holds in every reachable state. -/
structure Inv (s : Sys) : Prop where
  /-- no thread has an id from `nextTid` on -/
  fresh : ∀ t, s.nextTid ≤ t → s.workers t = Worker.unspawned
  /-- the lock invariant of every worker -/
  lockInv : ∀ t, LockInv (s.workers t)
  /-- `m_task_lock` is held by the worker that `Holds` it, and by no other thread -/
  mutex : ∀ t, s.pool.taskLock = some t ↔ Holds (s.workers t)
  /-- no code stores `PARTIAL` -/
  notPartial : s.pool.poolState ≠ .PARTIAL
  /-- no worker is in the stop-token branch of `leave_pool` -/
  noStopBranch : ∀ t, (s.workers t).pc.inStopBranch = false
  /-- no worker has acknowledged a stop token -/
  noAcks : s.pool.stopThreads = []
  /-- `destroy_threadpool` broadcasts with `STOPPED` stored -/
  notifyStopped : s.master.pc = .destroyNotify → s.pool.poolState = .STOPPED

theorem inv_init : Inv Sys.init where
  fresh _ _ := rfl
  lockInv _ b hb := by cases hb; rfl
  mutex _ := by simp [Sys.init, Pool.init, Holds, Worker.unspawned]
  notPartial := by simp [Sys.init, Pool.init]
  noStopBranch _ := rfl
  noAcks := rfl
  notifyStopped h := by cases h

theorem Inv.call {s s' : Sys} {c : Call} (hi : Inv s) (h : callStep s c = some s') : Inv s' := by
  simp only [callStep] at h
  split at h
  · cases h
    exact ⟨hi.fresh, hi.lockInv, hi.mutex, hi.notPartial, hi.noStopBranch, hi.noAcks,
      fun h => by cases c <;> cases h⟩
  · cases h

/-- A worker the master wakes, joins or creates keeps its lock invariant, holds the mutex exactly
when it did before, and is not in the stop-token branch. -/
theorem MasterTouch.preserves {s s' : Sys} {t : Tid} (hi : Inv s) (ht : MasterTouch s s' t) :
    LockInv (s'.workers t) ∧ (Holds (s'.workers t) ↔ Holds (s.workers t)) ∧
      (s'.workers t).pc.inStopBranch = false := by
  rcases ht with h | ⟨hb, h⟩ | ⟨hf, h⟩ | ⟨rfl, -, hint, h⟩ <;> rw [h]
  · exact ⟨hi.lockInv t, Iff.rfl, hi.noStopBranch t⟩
  · have hown := hi.lockInv t true (by rw [hb]; rfl)
    exact ⟨fun b hb' => by cases hb'; exact hown, by simp [Holds, hb], rfl⟩
  · have hown := hi.lockInv t false (by rw [hf]; rfl)
    exact ⟨fun b hb' => by cases hb'; exact hown, by simp [Holds, hown], rfl⟩
  · rw [hi.fresh _ le_rfl]
    exact ⟨lockInv_spawned hint, by simp [Holds, Worker.spawned, Worker.unspawned], rfl⟩

theorem Inv.master {s s' : Sys} {f : Option SpawnFault} {wk : Option Tid} (hi : Inv s)
    (h : masterStep s f wk = some s') : Inv s' := by
  have hm := masterStep_facts h
  have hp := fun t => (hm.touch t).preserves hi
  refine ⟨fun t ht => ?_, fun t => (hp t).1, fun t => ?_, ?_, fun t => (hp t).2.2, ?_,
    hm.toNotify⟩
  · have hle : s.nextTid ≤ t := by
      rcases hm.nextTid with h | h <;> rw [h] at ht
      exacts [ht, Nat.le_of_succ_le ht]
    rcases hm.touch t with h' | ⟨hb, -⟩ | ⟨hb, -⟩ | ⟨rfl, hn, -⟩
    · rw [h', hi.fresh t hle]
    · rw [hi.fresh t hle] at hb
      cases hb
    · rw [hi.fresh t hle] at hb
      cases hb
    · rw [hn] at ht
      exact absurd ht (Nat.not_succ_le_self _)
  · rw [hm.taskLock, hi.mutex t, (hp t).2.1]
  · rcases hm.poolState with h' | h' | ⟨h', -⟩ <;> rw [h']
    · exact hi.notPartial
    · decide
    · decide
  · rcases hm.stopThreads with h' | h' <;> rw [h']
    exact hi.noAcks

theorem Inv.worker {C : StateCodes} {s s' : Sys} {t : Tid} {q : QueueAnswer} (hi : Inv s)
    (h : workerStep C s t q = some s') : Inv s' := by
  obtain ⟨w, e, hstep, s₁, he, rfl⟩ := workerStep_eq h
  obtain ⟨hms, hws, hn, hps, hst, hacq, hrel, hoth⟩ := Sys.applyEffect_facts he
  obtain ⟨hhacq, hhrel, hhoth⟩ := Worker.executeThread_holds (hi.lockInv t) hstep
  obtain ⟨hbr, hcons⟩ := Worker.executeThread_inStopBranch hstep
  have hw : ∀ u, u ≠ t → (s₁.setWorker t w).workers u = s.workers u := fun u hu => by
    simp [hu, hws]
  have hwt : (s₁.setWorker t w).workers t = w := by simp
  refine ⟨fun u hu => ?_, fun u => ?_, fun u => ?_, by simpa [hps] using hi.notPartial,
    fun u => ?_, ?_, fun h => by simpa [hps] using hi.notifyStopped (by simpa [hms] using h)⟩
  · simp only [Sys.setWorker_nextTid, hn] at hu
    by_cases hut : u = t
    · subst hut
      rw [hi.fresh u hu, Worker.executeThread_unspawned] at hstep
      cases hstep
      exact hwt
    · rw [hw u hut, hi.fresh u hu]
  · by_cases hut : u = t
    · subst hut
      rw [hwt]
      exact lockInv_step (hi.lockInv u) hstep
    · rw [hw u hut]
      exact hi.lockInv u
  · simp only [Sys.setWorker_pool]
    by_cases hea : e = .acquire
    · obtain ⟨hnone, hsome⟩ := hacq hea
      obtain ⟨-, hholds⟩ := hhacq hea
      by_cases hut : u = t
      · subst hut
        simp [hsome, hwt, hholds]
      · rw [hw u hut, hsome, ← hi.mutex u, hnone]
        simp [Ne.symm hut]
    · by_cases her : e = .release
      · have hholds := (hhrel her).1
        rw [← hi.mutex t] at hholds
        by_cases hut : u = t
        · subst hut
          simp [hrel her, hwt, (hhrel her).2]
        · rw [hw u hut, hrel her, ← hi.mutex u, hholds]
          simp [Ne.symm hut]
      · rw [hoth hea her]
        by_cases hut : u = t
        · subst hut
          rw [hwt, hhoth hea her, hi.mutex u]
        · rw [hw u hut, hi.mutex u]
  · by_cases hut : u = t
    · subst hut
      rw [hwt]
      cases hb : w.pc.inStopBranch
      · rfl
      · rcases hbr hb with h' | h'
        · rw [hi.noStopBranch u] at h'
          cases h'
        · exact absurd h' hi.notPartial
    · rw [hw u hut]
      exact hi.noStopBranch u
  · simp only [Sys.setWorker_pool]
    have hne : e ≠ .consumeToken := fun hc => by
      have := hcons hc
      rw [hi.noStopBranch t] at this
      cases this
    rw [hst hne, hi.noAcks]

/-- **Every reachable state satisfies the invariants.** -/
theorem Reachable.inv {C : StateCodes} {s : Sys} (hs : Reachable C s) : Inv s := by
  induction hs with
  | init => exact inv_init
  | step a _ h ih =>
    rcases step_cases h with ⟨c, h⟩ | ⟨f, wk, h⟩ | ⟨t, q, h⟩
    · exact ih.call h
    · exact ih.master h
    · exact ih.worker h

/-- `ThreadPool(1)`, then the worker runs to `m_task_cond.wait` with an empty queue. -/
def lockHeldTrace : List Action :=
  [.call (.ctor 1)] ++ List.replicate 9 (.master none none) ++
    List.replicate 10 (.worker 1 ⟨true, 0, false⟩)

/-- **`PARTIAL` is never stored.** In every reachable state `m_pool_state` is not `PARTIAL`, no
worker is in the stop-token branch of `leave_pool`, and `m_stop_threads` is empty. -/
theorem partial_never_stored {C : StateCodes} {s : Sys} (hs : Reachable C s) :
    s.pool.poolState ≠ .PARTIAL ∧ (∀ t, (s.workers t).pc.inStopBranch = false) ∧
      s.pool.stopThreads = [] :=
  ⟨hs.inv.notPartial, hs.inv.noStopBranch, hs.inv.noAcks⟩

/-- `ThreadPool(1)` under `startedZeroCodes`, its worker asleep in `m_task_cond.wait`, then
`stop_thread()`: it pushes a stop token and wakes the worker, which finds `_wake` false and goes
back to sleep without taking the token, and `stop_thread()` finds no acknowledgement and
returns `1`. -/
def stopTokenTrace : List Action :=
  [.call (.ctor 1)] ++ List.replicate 9 (.master none none) ++
    List.replicate 12 (.worker 1 ⟨true, 0, false⟩) ++
    [.call .stopThread, .master none none, .master none (some 1)] ++
    List.replicate 3 (.worker 1 ⟨true, 0, false⟩) ++ [.master none none]

theorem stop_token_left_pending :
    ∃ s, Reachable startedZeroCodes s ∧ s.master.last = some (.returned 1) ∧
      s.pool.isStopped = [true] ∧ (s.workers 1).pc = .blocked ∧
      s.pool.poolState ≠ .PARTIAL ∧ (∀ t, (s.workers t).pc.inStopBranch = false) ∧
      s.pool.stopThreads = [] := by
  obtain ⟨s, hs, hp⟩ := reach_of_run (C := startedZeroCodes) (l := stopTokenTrace)
    (p := fun s => s.master.last == some (.returned 1) && s.pool.isStopped == [true] &&
      (s.workers 1).pc == .blocked)
    (by decide)
  simp only [Bool.and_eq_true, beq_iff_eq] at hp
  exact ⟨s, hs, hp.1.1, hp.1.2, hp.2, partial_never_stored hs⟩

end PtlThreadPool
