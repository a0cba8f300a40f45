import PtlThreadPool.Liveness

/-!
# Every public call but the shrink loop can come back

`Liveness.lean` shows that `destroy_threadpool` can always return. The other calls wait only
for `m_task_lock`: `initialize_threadpool` for its reserve and its size check, `stop_thread` for
its push of a stop token and its drain. The worker holding the mutex can always give it back by
itself, whatever `m_pool_state` holds (`free_task_lock_anywhere`): within at most three of its
own steps it leaves `wait` through `waitBlock`, or passes `leave_pool` and unlocks
(`Worker.executeThread_release`). So from every reachable state inside a public call some
schedule brings the master back between calls, or to the head of the shrink loop, which never
returns
(`shrinkStuck_run`): that loop is the only way a call of the pool hangs
(`public_call_can_finish`).
-/

namespace PtlThreadPool

/-! ## The holder gives `m_task_lock` back -/

/-- How many steps of its own the worker holding `m_task_lock` takes, at most, before it gives
the mutex back. -/
def WorkerPc.releaseRank : WorkerPc → ℕ
  | .waitEval => 3
  | .leaveRead _ => 2
  | _ => 1

/-- Outside the stop-token branch and with `m_pool_state` not `PARTIAL`, each step of the worker
holding the mutex gives it back, or keeps holding it one step closer to giving it back. -/
theorem Worker.executeThread_release {C : StateCodes} {w w' : Worker} {inp : Input} {e : Effect}
    (hw : LockInv w) (hh : Holds w) (hb : w.pc.inStopBranch = false) (hp : inp.state ≠ .PARTIAL)
    (h : w.executeThread C inp = .ok (w', e)) :
    e = .release ∨ e = .none ∧ Holds w' ∧ w'.pc.releaseRank < w.pc.releaseRank := by
  obtain ⟨pc, owns, wt, hint⟩ := w
  obtain ⟨rfl, hnb, hnr⟩ := hh
  cases pc
  case leaveRead site =>
    obtain ⟨rfl, rfl⟩ := Prod.mk.inj (Except.ok.inj h)
    -- only the call after the wait holds the mutex
    cases site
    case beforeSize | beforeDrain => cases hw false rfl
    case afterWait =>
      have hown := leavePool_owns C .afterWait inp.state ⟨.leaveRead .afterWait, true, wt, hint⟩
      rcases leavePool_pc C .afterWait inp.state ⟨.leaveRead .afterWait, true, wt, hint⟩ with
        ⟨hpc, -⟩ | ⟨-, hv⟩ | ⟨hpc, -⟩
      · exact .inr ⟨rfl, ⟨hown, by rw [hpc]; exact ⟨nofun, nofun⟩⟩,
          by rw [hpc]; exact Nat.le_refl _⟩
      · exact absurd hv hp
      · exact .inr ⟨rfl, ⟨hown, by rw [hpc]; exact ⟨nofun, nofun⟩⟩,
          by rw [hpc]; exact Nat.le_refl _⟩
  case waitEval =>
    simp only [Worker.executeThread] at h
    split at h <;> obtain ⟨rfl, rfl⟩ := Prod.mk.inj (Except.ok.inj h)
    exacts [.inr ⟨rfl, ⟨rfl, nofun, nofun⟩, Nat.le_of_ble_eq_true rfl⟩,
      .inr ⟨rfl, ⟨rfl, nofun, nofun⟩, Nat.le_of_ble_eq_true rfl⟩]
  case waitBlock | afterWaitUnlock | exiting =>
    simp only [Worker.executeThread, unlockIfOwned_eq] at h
    obtain ⟨-, rfl⟩ := Prod.mk.inj (Except.ok.inj h)
    exact .inl rfl
  case blocked => exact absurd rfl hnb
  case waitReacquire => exact absurd rfl hnr
  case leaveLock | leaveTokens => cases hb
  all_goals cases hw false rfl

/-- With `m_pool_state` not `PARTIAL`, the worker holding `m_task_lock` gives it back within
`releaseRank` steps of its own, whatever the queue answers, and the master does not move. -/
theorem run_holder_release {C : StateCodes} (t : Tid) (q : QueueAnswer) (n : ℕ) :
    ∀ {s : Sys}, Reachable C s → s.master.pc ≠ .aborted → s.pool.taskLock = some t →
      (s.workers t).pc.releaseRank ≤ n →
      ∃ l s', run C s l = some s' ∧ s'.master = s.master ∧ s'.pool.taskLock = none := by
  induction n with
  | zero =>
    intro s _ _ _ hr
    -- every rank is at least one
    cases h : (s.workers t).pc <;> rw [h] at hr <;> cases hr
  | succ n ih =>
    intro s hs hab hl hr
    have hi := hs.inv
    obtain ⟨⟨w, e⟩, hw⟩ := (s.workers t).executeThread_ok C (s.input q)
    rcases Worker.executeThread_release (hi.lockInv t) ((hi.mutex t).1 hl) (hi.noStopBranch t)
        hi.notPartial hw with rfl | ⟨rfl, -, hlt⟩
    · exact ⟨[.worker t q], (s.setPool { s.pool with taskLock := none }).setWorker t w,
        by simp [run, step, hab, workerStep, hw, Sys.applyEffect], rfl, rfl⟩
    · have h₁ : step C s (.worker t q) = some (s.setWorker t w) := by
        simp [step, hab, workerStep, hw, Sys.applyEffect]
      have hr₁ : ((s.setWorker t w).workers t).pc.releaseRank ≤ n := by
        rw [Sys.setWorker_workers, if_pos rfl]
        omega
      obtain ⟨l, s', h', hm, hfree⟩ := ih (hs.step _ h₁) hab hl hr₁
      exact ⟨_ :: l, s', by rw [run_cons_of_step h₁]; exact h', hm, hfree⟩

/-- From every reachable state, unless `std::terminate` was called, the workers alone can free
`m_task_lock`. -/
theorem free_task_lock_anywhere {C : StateCodes} {s : Sys} (hs : Reachable C s)
    (hab : s.master.pc ≠ .aborted) :
    ∃ l s', run C s l = some s' ∧ s'.master = s.master ∧ s'.pool.taskLock = none := by
  cases hl : s.pool.taskLock with
  | none => exact ⟨[], s, rfl, rfl, hl⟩
  | some t =>
    exact run_holder_release t .drained 3 hs hab hl
      (by cases (s.workers t).pc <;> exact Nat.le_of_ble_eq_true rfl)

/-! ## The master comes back -/

/-- Between calls, or at the head of the shrink loop, where `shrinkStuck_run` takes over. -/
def MasterPc.settled : MasterPc → Bool
  | .idle | .stopEntry (.shrink _) => true
  | _ => false

theorem MasterPc.settled_iff {pc : MasterPc} :
    pc.settled = true ↔ pc = .idle ∨ ∃ p, pc = .stopEntry (.shrink p) := by
  constructor
  · intro h
    cases pc
    case idle => exact .inl rfl
    case stopEntry c =>
      cases c
      · cases h
      · exact .inr ⟨_, rfl⟩
    all_goals cases h
  · rintro (rfl | ⟨p, rfl⟩) <;> rfl

/-- Some schedule from `s` brings the master between calls or to the head of the shrink loop. -/
def CanFinish (C : StateCodes) (s : Sys) : Prop :=
  ∃ l s', run C s l = some s' ∧ s'.master.pc.settled = true

theorem CanFinish.of_run {C : StateCodes} {s s₁ : Sys} {l : List Action}
    (h : run C s l = some s₁) (hc : CanFinish C s₁) : CanFinish C s := by
  obtain ⟨l', s', h', hpc⟩ := hc
  exact ⟨l ++ l', s', by rw [run_append, h]; exact h', hpc⟩

/-- The step `a` goes to `pc`, from where some schedule comes back. -/
theorem CanFinish.of_step_to {C : StateCodes} {s : Sys} (a : Action) (pc : MasterPc)
    (hs : Reachable C s) (h : (step C s a).any (fun s₁ => s₁.master.pc == pc) = true)
    (hc : ∀ s₁, Reachable C s₁ → s₁.master.pc = pc → CanFinish C s₁) :
    CanFinish C s := by
  obtain ⟨s₁, h₁, hp⟩ := option_any_eq_true.mp h
  exact CanFinish.of_run (l := [a]) (by simp [run, h₁])
    (hc s₁ (hs.step _ h₁) (by simpa using hp))

/-- The step `a` comes back. -/
theorem CanFinish.of_step_done {C : StateCodes} {s : Sys} {a : Action}
    (h : (step C s a).any (fun s₁ => s₁.master.pc.settled) = true) : CanFinish C s := by
  obtain ⟨s₁, h₁, hp⟩ := option_any_eq_true.mp h
  exact ⟨[a], s₁, by simp [run, h₁], hp⟩

/-- At a critical section on `m_task_lock`, the workers first free the mutex. -/
theorem CanFinish.of_free {C : StateCodes} {s : Sys} {pc : MasterPc} (hs : Reachable C s)
    (hpc : s.master.pc = pc) (hab : pc ≠ .aborted)
    (hc : ∀ s₁, Reachable C s₁ → s₁.master.pc = pc → s₁.pool.taskLock = none →
      CanFinish C s₁) :
    CanFinish C s := by
  obtain ⟨l, s₁, h₁, hm, hfree⟩ := free_task_lock_anywhere hs (hpc ▸ hab)
  exact CanFinish.of_run h₁ (hc s₁ (hs.run h₁) (by rw [hm, hpc]) hfree)

theorem Sys.stopReturn_settled (s : Sys) (c : StopCaller) (r : ℕ) :
    (s.stopReturn c r).master.pc.settled = true := by
  cases c <;> simp only [Sys.stopReturn] <;> (try split_ifs) <;> rfl

/-- `notify_one` always has a sleeper to wake, or finds none asleep. -/
theorem Sys.notifyOne_some (s : Sys) : ∃ wk s₁, s.notifyOne wk = some s₁ := by
  by_cases hb : (List.range s.nextTid).any (fun t => (s.workers t).pc = .blocked)
  · obtain ⟨t, -, ht⟩ := List.any_eq_true.mp hb
    exact ⟨some t, _, if_pos (of_decide_eq_true ht)⟩
  · exact ⟨none, s, if_neg hb⟩

section

variable {C : StateCodes} {s : Sys}

theorem canFinish_initFinal {p : ℕ} (hs : Reachable C s) (hpc : s.master.pc = .initFinal p) :
    CanFinish C s :=
  CanFinish.of_free hs hpc nofun fun _ _ hpc hfree =>
    CanFinish.of_step_done (a := .master none none) (by
      simp only [step, masterStep, Sys.initializeThreadpool, hpc, Sys.lockFree, hfree,
        Option.isNone_none, reduceCtorEq, if_true, if_false]
      split <;> rfl)

/-- The spawn loop runs its remaining iterations, each creating a thread. -/
theorem canFinish_spawn (p thisTid : ℕ) (m : ℕ) :
    ∀ {s : Sys} {i : ℕ}, Reachable C s → s.master.pc = .spawn p thisTid i → p - i ≤ m →
      CanFinish C s := by
  induction m with
  | zero =>
    intro s i hs hpc hm
    exact CanFinish.of_step_to (.master none none) (.initFinal p) hs
      (by simp [step, masterStep, Sys.initializeThreadpool, hpc, show ¬i < p by omega])
      fun _ => canFinish_initFinal
  | succ m ih =>
    intro s i hs hpc hm
    by_cases hi : i < p
    · -- `new Thread(...)`, then `++m_pool_size`
      refine CanFinish.of_step_to (.master none none) (.spawnCount p thisTid i) hs
        (by simp [step, masterStep, Sys.initializeThreadpool, hpc, hi, Sys.spawnThread])
        fun _ hs₁ hpc₁ => ?_
      exact CanFinish.of_step_to (.master none none) (.spawn p thisTid (i + 1)) hs₁
        (by simp [step, masterStep, Sys.initializeThreadpool, hpc₁, Sys.countThread])
        fun _ hs₂ hpc₂ => ih hs₂ hpc₂ (by omega)
    · exact CanFinish.of_step_to (.master none none) (.initFinal p) hs
        (by simp [step, masterStep, Sys.initializeThreadpool, hpc, hi]) fun _ => canFinish_initFinal

theorem canFinish_spawnCount {p thisTid i : ℕ} (hs : Reachable C s)
    (hpc : s.master.pc = .spawnCount p thisTid i) : CanFinish C s :=
  CanFinish.of_step_to (.master none none) (.spawn p thisTid (i + 1)) hs
    (by simp [step, masterStep, Sys.initializeThreadpool, hpc, Sys.countThread])
    fun _ hs₁ hpc₁ => canFinish_spawn _ _ _ hs₁ hpc₁ le_rfl

theorem canFinish_initTid {p : ℕ} (hs : Reachable C s) (hpc : s.master.pc = .initTid p) :
    CanFinish C s :=
  CanFinish.of_step_to (.master none none)
    (.spawn p (s.registry.getThisThreadID masterTid).1 s.pool.poolSize) hs
    (by simp [step, masterStep, Sys.initializeThreadpool, hpc])
    fun _ hs₁ hpc₁ => canFinish_spawn _ _ _ hs₁ hpc₁ le_rfl

theorem canFinish_initReserve {p : ℕ} (hs : Reachable C s) (hpc : s.master.pc = .initReserve p) :
    CanFinish C s :=
  CanFinish.of_free hs hpc nofun fun _ hs₁ hpc₁ hfree =>
    CanFinish.of_step_to (.master none none) (.initTid p) hs₁
      (by simp [step, masterStep, Sys.initializeThreadpool, hpc₁, Sys.lockFree, hfree])
      fun _ => canFinish_initTid

theorem canFinish_initCheck {p : ℕ} (hs : Reachable C s) (hpc : s.master.pc = .initCheck p) :
    CanFinish C s := by
  by_cases h₁ : s.pool.poolState = .STARTED ∧ p < s.pool.poolSize
  · exact CanFinish.of_step_done (a := .master none none)
      (by simp [step, masterStep, Sys.initializeThreadpool, hpc, h₁, MasterPc.settled])
  by_cases h₂ : s.pool.poolState = .STARTED ∧ s.pool.poolSize = p
  · exact CanFinish.of_step_done (a := .master none none)
      (by simp [step, masterStep, Sys.initializeThreadpool, hpc, h₁, h₂, MasterPc.settled])
  · exact CanFinish.of_step_to (.master none none) (.initReserve p) hs
      (by simp [step, masterStep, Sys.initializeThreadpool, hpc, h₁, h₂])
      fun _ => canFinish_initReserve

theorem canFinish_initEntry {p : ℕ} (hs : Reachable C s) (hpc : s.master.pc = .initEntry p) :
    CanFinish C s := by
  by_cases h : p < 1
  · exact CanFinish.of_step_done (a := .master none none)
      (by simp [step, masterStep, Sys.initializeThreadpool, hpc, h, MasterPc.settled])
  · exact CanFinish.of_step_to (.master none none) (.initCheck p) hs
      (by simp [step, masterStep, Sys.initializeThreadpool, hpc, h]) fun _ => canFinish_initCheck

theorem canFinish_stopDrain {c : StopCaller} (hs : Reachable C s)
    (hpc : s.master.pc = .stopDrain c) : CanFinish C s :=
  CanFinish.of_free hs hpc nofun fun _ _ hpc₁ hfree =>
    CanFinish.of_step_done (a := .master none none)
      (by simp [step, masterStep, Sys.stopThread, hpc₁, Sys.lockFree, hfree, Sys.drainStopThreads,
        Sys.stopReturn_settled])

theorem canFinish_stopPost {c : StopCaller} (hs : Reachable C s)
    (hpc : s.master.pc = .stopPost c) : CanFinish C s := by
  refine CanFinish.of_free hs hpc nofun fun s₁ hs₁ hpc₁ hfree => ?_
  obtain ⟨wk, s₂, h₂⟩ := s₁.pushStopToken.notifyOne_some
  exact CanFinish.of_step_to (.master none wk) (.stopDrain c) hs₁
    (by simp [step, masterStep, Sys.stopThread, hpc₁, Sys.lockFree, hfree, h₂])
    fun _ => canFinish_stopDrain

theorem canFinish_stopEntry {c : StopCaller} (hs : Reachable C s)
    (hpc : s.master.pc = .stopEntry c) : CanFinish C s := by
  by_cases h : (!s.pool.aliveFlag || s.pool.poolSize == 0) = true
  · exact CanFinish.of_step_done (a := .master none none)
      (by simp only [step, masterStep, Sys.stopThread, hpc, h, if_true, reduceCtorEq, if_false,
        Option.any_some, Sys.stopReturn_settled])
  · exact CanFinish.of_step_to (.master none none) (.stopPost c) hs
      (by simp only [step, masterStep, Sys.stopThread, hpc, h, if_false, reduceCtorEq,
        Option.any_some, Sys.goto_master_pc, beq_self_eq_true]) fun _ => canFinish_stopPost

theorem canFinish_ctor {p : ℕ} (hs : Reachable C s) (hpc : s.master.pc = .ctor p) :
    CanFinish C s :=
  CanFinish.of_step_to (.master none none) (.initEntry p) hs (by simp [step, masterStep, hpc])
    fun _ => canFinish_initEntry

theorem CanFinish.of_canReturn (h : CanReturn C s) : CanFinish C s := by
  obtain ⟨l, s', h', hpc, -⟩ := h
  exact ⟨l, s', h', by rw [hpc]; rfl⟩

end

/-- **No public call hangs but the shrink loop.** From every reachable state in which the
master is inside the constructor, `initialize_threadpool`, `stop_thread` or
`destroy_threadpool`, whatever the workers are doing and whoever holds `m_task_lock`, some
schedule brings the master back between calls, or to the head of the loop
`while(stop_thread() > proposed_size)`. -/
theorem public_call_can_finish {C : StateCodes} {s : Sys} (hs : Reachable C s)
    (hun : s.master.pc ≠ .unconstructed) (hab : s.master.pc ≠ .aborted) :
    ∃ l s', run C s l = some s' ∧
      (s'.master.pc = .idle ∨ ∃ p, s'.master.pc = .stopEntry (.shrink p)) := by
  suffices h : CanFinish C s by
    obtain ⟨l, s', h', hpc⟩ := h
    exact ⟨l, s', h', MasterPc.settled_iff.mp hpc⟩
  cases hpc : s.master.pc
  case unconstructed => exact absurd hpc hun
  case aborted => exact absurd hpc hab
  case idle => exact ⟨[], s, rfl, by rw [hpc]; rfl⟩
  case ctor => exact canFinish_ctor hs hpc
  case initEntry => exact canFinish_initEntry hs hpc
  case initCheck => exact canFinish_initCheck hs hpc
  case initReserve => exact canFinish_initReserve hs hpc
  case initTid => exact canFinish_initTid hs hpc
  case spawn => exact canFinish_spawn _ _ _ hs hpc le_rfl
  case spawnCount => exact canFinish_spawnCount hs hpc
  case initFinal => exact canFinish_initFinal hs hpc
  case stopEntry => exact canFinish_stopEntry hs hpc
  case stopPost => exact canFinish_stopPost hs hpc
  case stopDrain => exact canFinish_stopDrain hs hpc
  case destroyEntry => exact .of_canReturn (canReturn_entry hs hpc)
  case destroyStore => exact .of_canReturn (canReturn_store hs hpc)
  case destroyNotify => exact .of_canReturn (canReturn_notify hs hpc)
  case destroyAlive => exact .of_canReturn (canReturn_alive hs hpc)
  case destroyErase => exact .of_canReturn (canReturn_erase hs hpc)
  case destroyNotifyAll => exact .of_canReturn (canReturn_notifyAll hs hpc)
  case destroyJoin => exact .of_canReturn (canReturn_joining hs hpc)
  case destroyClear => exact .of_canReturn (canReturn_clear hpc)

/-- `ThreadPool(1)` whose worker holds `m_task_lock` in `wait`, then `initialize_threadpool(2)`:
the master waits for the mutex at its reserve. -/
theorem initialize_can_finish_while_lock_held :
    ∃ s, Reachable specCodes s ∧ s.master.pc = .initReserve 2 ∧ s.pool.taskLock = some 1 ∧
      ∃ l s', run specCodes s l = some s' ∧
        (s'.master.pc = .idle ∨ ∃ p, s'.master.pc = .stopEntry (.shrink p)) := by
  obtain ⟨s, hs, hp⟩ := reach_of_run (C := specCodes)
    (l := lockHeldTrace ++ [.call (.initializeThreadpool 2), .master none none, .master none none])
    (p := fun s => s.master.pc == .initReserve 2 && s.pool.taskLock == some 1) (by decide)
  simp only [Bool.and_eq_true, beq_iff_eq] at hp
  exact ⟨s, hs, hp.1, hp.2,
    public_call_can_finish hs (by rw [hp.1]; nofun) (by rw [hp.1]; nofun)⟩

end PtlThreadPool
