import Mathlib.Logic.Relation
import PtlThreadPool.Invariants

/-!
# `destroy_threadpool` against running workers

`destroy_threadpool` stores `STOPPED`, broadcasts on `m_task_cond` under `m_task_lock`, erases
the workers from `f_thread_ids` and joins them. What that does to the workers is a property of
every interleaving, so it is stated over the runs of a stopped pool: the steps after which
`m_pool_state` still holds `STOPPED` (`StoppedStep`), from any reachable state.

* `destroy_broadcast_wakes_every_sleeper` — once the broadcast has run, no worker sleeps on
  `m_task_cond` or is on its way to sleep, and none ever gets there again while the pool is
  stopped: the mutex closes the window between a worker's test of `_wake` and its sleep.
* `stopped_pool_hands_tasks_only_to_early_or_draining` — in a stopped pool a worker starts a
  task only if it was still before its main loop, or already in the drain loop, when the
  run began. Neither of those paths reads `m_pool_state` before `GetTask`, and a worker
  created late takes the bootstrap task after the store (`stopped_pool_bootstrap_gets_task`).
* `destroy_threadpool_keeps_late_registration` — the erasure runs before the join, so a
  worker that registers in `start_thread` after it keeps its entry.

`JoinedSoFar` says what the join loop has done so far; `Lifecycle.lean` uses it at the clear.
-/

namespace PtlThreadPool

/-! ## Runs of a stopped pool -/

/-- One step after which `m_pool_state` still holds `STOPPED`. -/
def StoppedStep (C : StateCodes) (s s' : Sys) : Prop :=
  ∃ a, step C s a = some s' ∧ s'.pool.poolState = .STOPPED

section

variable {C : StateCodes}

/-- A property that every step from a reachable stopped state keeps holds along every run of
a stopped pool. -/
theorem stoppedRun_induct {P : Sys → Prop}
    (hkeep : ∀ {s s' : Sys} {a : Action}, Reachable C s → s.pool.poolState = .STOPPED →
      step C s a = some s' → P s → P s')
    {s s' : Sys} (hs : Reachable C s) (hst : s.pool.poolState = .STOPPED) (hP : P s)
    (hrun : Relation.ReflTransGen (StoppedStep C) s s') :
    Reachable C s' ∧ s'.pool.poolState = .STOPPED ∧ P s' := by
  induction hrun with
  | refl => exact ⟨hs, hst, hP⟩
  | tail _ hstep ih =>
    obtain ⟨a, h, hst'⟩ := hstep
    obtain ⟨hr, hst₁, hP₁⟩ := ih
    exact ⟨hr.step a h, hst', hkeep hr hst₁ h hP₁⟩

/-- What a step does to worker `u`: the master leaves it alone, wakes, joins or creates it,
another worker's step leaves it alone, and its own step is `Worker.executeThread` on what it
reads. -/
theorem step_worker_cases {s s' : Sys} {a : Action} (h : step C s a = some s') (u : Tid) :
    MasterTouch s s' u ∨
      ∃ q e, (s.workers u).executeThread C (s.input q) = .ok (s'.workers u, e) := by
  rcases step_cases h with ⟨c, h⟩ | ⟨f, wk, h⟩ | ⟨t, q, h⟩
  · simp only [callStep] at h
    split at h
    · cases h
      exact .inl (.inl rfl)
    · cases h
  · exact .inl ((masterStep_facts h).touch u)
  · obtain ⟨w, e, hstep, s₁, he, rfl⟩ := workerStep_eq h
    have hws := (Sys.applyEffect_facts he).2.1
    by_cases hut : u = t
    · subst hut
      exact .inr ⟨q, e, by simpa using hstep⟩
    · exact .inl (.inl (by simp [hut, hws]))

end

/-! ## The broadcast wakes every sleeper -/

/-- No worker is asleep on `m_task_cond` or about to release the mutex and sleep. -/
def NoSleeper (s : Sys) : Prop := ∀ t, (s.workers t).pc ≠ .blocked ∧ (s.workers t).pc ≠ .waitBlock

/-- Under `STOPPED` the wait predicate `_wake` holds, whatever the queue answers. -/
theorem wake_STOPPED (C : StateCodes) (q : QueueAnswer) : wake C q .STOPPED = true := by
  simp [wake, C.code_STOPPED_pos]

/-- The broadcast, taken with the mutex free, leaves no sleeper: a worker between a false
`_wake` and its sleep holds the mutex. -/
theorem noSleeper_notifyAll {s : Sys} (hi : Inv s) (hfree : s.lockFree = true) :
    NoSleeper (s.notifyAll.goto .destroyAlive) := fun t => by
  refine ⟨s.notifyAll_not_blocked t, fun hwb => ?_⟩
  rcases s.notifyAll_workers t with h | ⟨-, h⟩ <;> simp only [Sys.goto_workers, h] at hwb
  · have hown := hi.lockInv t true (by rw [hwb]; rfl)
    have hheld := (hi.mutex t).mpr ⟨hown, by simp [hwb], by simp [hwb]⟩
    simp [Sys.lockFree, hheld] at hfree
  · cases hwb

/-- In a stopped pool no worker goes to sleep: `_wake` holds, so `wait` returns at once. -/
theorem noSleeper_step {C : StateCodes} {s s' : Sys} {a : Action}
    (hst : s.pool.poolState = .STOPPED) (hn : NoSleeper s) (h : step C s a = some s') :
    NoSleeper s' := fun u => by
  rcases step_worker_cases h u with (h' | ⟨hb, -⟩ | ⟨-, h'⟩ | ⟨-, -, _, h'⟩) | ⟨q, e, hw⟩
  · rw [h']
    exact hn u
  · exact absurd hb (hn u).1
  · simp [h']
  · simp [h', Worker.spawned]
  · obtain ⟨hwb, hbl⟩ := Worker.executeThread_toSleep hw
    refine ⟨fun hb => ?_, fun hb => ?_⟩
    · rcases hbl hb with h' | h'
      exacts [(hn u).2 h', (hn u).1 h']
    · rcases hwb hb with h' | ⟨-, h'⟩
      · exact (hn u).2 h'
      · simp [Sys.input, hst, wake_STOPPED] at h'

/-- **No lost wake-up at shutdown.** From a reachable state where `destroy_threadpool` has
stored `STOPPED` and is at its first `notify_all`, take that step and then any steps that keep
the pool stopped: in every state reached, no worker is blocked in `m_task_cond.wait` or on its
way there, and the wait predicate `_wake` is true whatever the queue answers. -/
theorem destroy_broadcast_wakes_every_sleeper {C : StateCodes} {s s₁ s' : Sys}
    {f : Option SpawnFault} {wk : Option Tid} (hs : Reachable C s)
    (hpc : s.master.pc = .destroyNotify) (h : step C s (.master f wk) = some s₁)
    (hrun : Relation.ReflTransGen (StoppedStep C) s₁ s') (t : Tid) :
    (s'.workers t).pc ≠ .blocked ∧ (s'.workers t).pc ≠ .waitBlock ∧
      ∀ q, wake C q s'.pool.poolState = true := by
  have hi := hs.inv
  have hm : masterStep s f wk = some s₁ := by simpa [step, hpc] using h
  obtain ⟨hfree, rfl⟩ := (masterStep_facts hm).atNotify hpc
  obtain ⟨-, hst', hn⟩ := stoppedRun_induct (P := NoSleeper)
    (fun _ hst h hn => noSleeper_step hst hn h) (hs.step _ h)
    (by simpa using hi.notifyStopped hpc) (noSleeper_notifyAll hi hfree) hrun
  exact ⟨(hn t).1, (hn t).2, fun q => by rw [hst']; exact wake_STOPPED C q⟩

/-- A pool of one worker destroyed before the worker has run: the master at the broadcast. -/
def destroyBeforeStartTrace : List Action :=
  [.call (.ctor 1)] ++ List.replicate 9 (.master none none) ++
    [.call .destroy, .master none none, .master none none]

/-- `ThreadPool(1)` under `startedZeroCodes`, whose worker falls asleep in `m_task_cond.wait`
on an empty queue; then `destroy_threadpool()` up to its first `notify_all`. -/
def destroyWhileAsleepTrace : List Action :=
  [.call (.ctor 1)] ++ List.replicate 9 (.master none none) ++
    List.replicate 12 (.worker 1 ⟨true, 0, false⟩) ++
    [.call .destroy, .master none none, .master none none]

theorem destroy_broadcast_wakes_sleeping_worker :
    ∃ s s₁, Reachable startedZeroCodes s ∧ s.master.pc = .destroyNotify ∧
      (s.workers 1).pc = .blocked ∧ step startedZeroCodes s (.master none none) = some s₁ ∧
      (s₁.workers 1).pc ≠ .blocked ∧ (s₁.workers 1).pc ≠ .waitBlock ∧
      ∀ q, wake startedZeroCodes q s₁.pool.poolState = true := by
  obtain ⟨s, hs, hp⟩ := reach_of_run (C := startedZeroCodes) (l := destroyWhileAsleepTrace)
    (p := fun s => s.master.pc == .destroyNotify && (s.workers 1).pc == .blocked &&
      (step startedZeroCodes s (.master none none)).isSome)
    (by decide)
  simp only [Bool.and_eq_true, beq_iff_eq, Option.isSome_iff_exists] at hp
  obtain ⟨⟨hpc, hb⟩, s₁, h⟩ := hp
  exact ⟨s, s₁, hs, hpc, hb, h, destroy_broadcast_wakes_every_sleeper hs hpc h .refl 1⟩

/-! ## Every worker outside the drain loop returns -/

/-- The answers of an empty queue: `empty()` is true, `true_size()` is `0`, and `GetTask()`
returns no task. -/
def QueueAnswer.drained : QueueAnswer := ⟨true, 0, false⟩

/-- An upper bound on the steps a worker still takes under `STOPPED` before it has returned
from `execute_thread`: every `leave_pool` on its way reads `STOPPED`, and `_wake` holds. In
the drain loop the bound holds while the queue answers empty. The stop-token branch is outside
its domain and gets `0`. -/
def WorkerPc.stopRank : WorkerPc → ℕ
  | .start => 9
  | .bootAwake => 8
  | .initFunc | .sizeCheck | .afterWaitUnlock => 7
  | .bootGet | .awakeDecCheck | .awakeIncCheck | .waitBlock | .drainGet | .drainRun => 6
  | .bootRun | .awakeDec | .awakeInc | .blocked | .drainLoop => 5
  | .waitLoop | .waitLock | .waitReacquire => 4
  | .waitLoopExit | .waitEval => 3
  | .leaveRead _ => 2
  | .exiting => 1
  | .unspawned | .finished | .joined | .leaveLock _ | .leaveTokens _ => 0

theorem WorkerPc.stopRank_le_nine (pc : WorkerPc) : pc.stopRank ≤ 9 := by
  cases pc <;> exact Nat.le_of_ble_eq_true rfl

/-- Inside its domain, the rank is `0` only once the worker has returned. -/
theorem WorkerPc.eq_finished_of_stopRank_eq_zero {pc : WorkerPc} (h0 : pc.stopRank = 0)
    (hb : pc.inStopBranch = false) (hlive : pc ≠ .unspawned ∧ pc ≠ .joined) : pc = .finished := by
  cases pc <;> (try cases h0) <;> simp_all [WorkerPc.inStopBranch]

/-- Under `STOPPED`, outside the stop-token branch, every step of a worker that has not
returned brings it closer to returning: outside the drain loop whatever the queue answers, and
in it when the queue answers empty. -/
theorem Worker.executeThread_stopRank {C : StateCodes} {w w' : Worker} {inp : Input} {e : Effect}
    (h : w.executeThread C inp = .ok (w', e)) (hstop : inp.state = .STOPPED)
    (hb : w.pc.inStopBranch = false) (hlive : w.pc ≠ .unspawned ∧ w.pc ≠ .joined)
    (hq : w.pc.draining = false ∨ inp.queue = .drained) :
    w'.pc.stopRank < w.pc.stopRank ∨ w'.pc = .finished ∧ w.pc = .finished := by
  obtain ⟨pc, owns, wt, hint⟩ := w
  cases pc
  case unspawned => exact absurd rfl hlive.1
  case joined => exact absurd rfl hlive.2
  case finished =>
    obtain ⟨rfl, rfl⟩ := Prod.mk.inj (Except.ok.inj h)
    exact .inr ⟨rfl, rfl⟩
  case leaveRead site =>
    obtain ⟨rfl, rfl⟩ := Prod.mk.inj (Except.ok.inj h)
    rcases leavePool_pc C site inp.state ⟨.leaveRead site, owns, wt, hint⟩ with
      ⟨hpc, -⟩ | ⟨-, hv⟩ | ⟨-, hv⟩
    · rw [hpc]
      exact .inl (Nat.le_of_ble_eq_true rfl)
    · simp [hstop] at hv
    · exact absurd hstop hv
  case waitEval =>
    simp only [Worker.executeThread] at h
    split at h
    · obtain ⟨rfl, rfl⟩ := Prod.mk.inj (Except.ok.inj h)
      exact .inl (Nat.le_of_ble_eq_true rfl)
    · -- `_wake` holds under `STOPPED`
      rename_i hwake
      rw [hstop, wake_STOPPED] at hwake
      exact absurd rfl hwake
  case drainLoop | drainGet =>
    -- the drain loop ends when the queue answers empty
    simp only [Worker.executeThread, hq.resolve_left nofun, QueueAnswer.drained] at h
    obtain ⟨rfl, rfl⟩ := Prod.mk.inj (Except.ok.inj h)
    exact .inl (Nat.le_of_ble_eq_true rfl)
  -- the stop-token branch is outside the domain
  all_goals try (cases hb; done)
  all_goals
    try simp only [Worker.executeThread, lockIfNotOwned_eq, unlockIfOwned_eq] at h; split at h
    all_goals
      obtain ⟨rfl, rfl⟩ := Prod.mk.inj (Except.ok.inj h)
      exact .inl (Nat.le_of_ble_eq_true rfl)

/-- Under `STOPPED`, a worker outside the drain loop and the stop-token branch returns within
`stopRank` of its own steps, whatever the queue answers. -/
theorem Worker.run_stopRank (C : StateCodes) (inputs : List Input) :
    ∀ {w : Worker}, w.pc.draining = false → w.pc.inStopBranch = false →
      w.pc ≠ .unspawned ∧ w.pc ≠ .joined → (∀ inp ∈ inputs, inp.state = .STOPPED) →
      w.pc.stopRank ≤ inputs.length → ∃ w', Worker.run C w inputs = .ok w' ∧ w'.pc = .finished := by
  induction inputs with
  | nil =>
    exact fun _ hb hlive _ hr =>
      ⟨_, rfl, WorkerPc.eq_finished_of_stopRank_eq_zero (Nat.le_zero.mp hr) hb hlive⟩
  | cons inp inps ih =>
    intro w hd hb hlive hst hr
    have hinp := hst inp (List.mem_cons_self _ _)
    obtain ⟨⟨w₁, e⟩, h₁⟩ := w.executeThread_ok C inp
    have hrank := Worker.executeThread_stopRank h₁ hinp hb hlive (.inl hd)
    have hstay := Worker.executeThread_stays h₁
    have hd₁ : w₁.pc.draining = false := by
      cases hdr : w₁.pc.draining
      · rfl
      · rw [(Worker.executeThread_stage h₁ hinp hb).2 hdr] at hd
        cases hd
    have hb₁ : w₁.pc.inStopBranch = false := by
      cases hbr : w₁.pc.inStopBranch
      · rfl
      · rcases (Worker.executeThread_inStopBranch h₁).1 hbr with h | h
        · rw [hb] at h
          cases h
        · rw [hinp] at h
          cases h
    rw [Worker.run_cons, h₁]
    refine ih hd₁ hb₁ ⟨fun hu => hlive.1 (hstay.1 hu), fun hj => hlive.2 (hstay.2 hj)⟩
      (fun i hi => hst i (List.mem_cons_of_mem _ hi)) ?_
    show w₁.pc.stopRank ≤ inps.length
    rcases hrank with hlt | ⟨hf, -⟩
    · simp only [List.length_cons] at hr
      omega
    · rw [hf]
      exact Nat.zero_le _

/-- **Workers leave a stopped pool promptly.** Under `STOPPED`, a worker that has been created
and not yet joined, outside the drain loop and the stop-token branch, has returned from
`execute_thread` after any nine steps of its own, whatever the queue answers: the bootstrap,
the wait loop and `m_task_cond.wait` each reach a `leave_pool` that reads `STOPPED`. -/
theorem stopped_worker_returns_within_nine_steps (C : StateCodes) {w : Worker}
    (hd : w.pc.draining = false) (hb : w.pc.inStopBranch = false)
    (hlive : w.pc ≠ .unspawned ∧ w.pc ≠ .joined) (inputs : List Input)
    (hst : ∀ inp ∈ inputs, inp.state = .STOPPED) (hlen : 9 ≤ inputs.length) :
    ∃ w', Worker.run C w inputs = .ok w' ∧ w'.pc = .finished :=
  Worker.run_stopRank C inputs hd hb hlive hst (le_trans w.pc.stopRank_le_nine hlen)

theorem spawned_worker_returns_in_stopped_pool :
    ∃ w', Worker.run specCodes (Worker.spawned 1)
        (List.replicate 9 ⟨.STOPPED, false, 0, 1, ⟨true, 0, false⟩⟩) = .ok w' ∧
      w'.pc = .finished :=
  stopped_worker_returns_within_nine_steps specCodes (by decide) (by decide) (by decide) _
    (by decide) (by decide)

/-! ## Tasks after `STOPPED` -/

/-- In a stopped pool no worker enters the bootstrap or the drain loop anew: nothing leads
back to the bootstrap, and the drain loop is entered only past a `leave_pool` that read
something other than `STOPPED`. -/
theorem stopped_step_stage {C : StateCodes} {s s' : Sys} {a : Action} (hs : Reachable C s)
    (hst : s.pool.poolState = .STOPPED) (h : step C s a = some s') (u : Tid) :
    ((s'.workers u).pc.beforeLoop = true → (s.workers u).pc.beforeLoop = true) ∧
      ((s'.workers u).pc.draining = true → (s.workers u).pc.draining = true) := by
  have hi := hs.inv
  rcases step_worker_cases h u with (h' | ⟨-, h'⟩ | ⟨-, h'⟩ | ⟨rfl, -, _, h'⟩) | ⟨q, e, hw⟩
  · rw [h']
    exact ⟨id, id⟩
  · simp [h', WorkerPc.beforeLoop, WorkerPc.draining]
  · simp [h', WorkerPc.beforeLoop, WorkerPc.draining]
  · simp [h', hi.fresh _ le_rfl, Worker.spawned, Worker.unspawned, WorkerPc.beforeLoop,
      WorkerPc.draining]
  · exact Worker.executeThread_stage hw hst (hi.noStopBranch u)

/-- **Who can start a task after `STOPPED`.** Along any run of a stopped pool from a
reachable state `s`, a worker that runs a task it got from `GetTask` (the bootstrap task or a
drained one) was, at `s`, before its main loop (not yet created, in `start_thread` or in the
bootstrap) or in the drain loop. Every other worker starts no task. -/
theorem stopped_pool_hands_tasks_only_to_early_or_draining {C : StateCodes} {s s' : Sys}
    (hs : Reachable C s) (hst : s.pool.poolState = .STOPPED)
    (hrun : Relation.ReflTransGen (StoppedStep C) s s') (t : Tid)
    (htask : (s'.workers t).pc = .bootRun ∨ (s'.workers t).pc = .drainRun) :
    (s.workers t).pc.beforeLoop = true ∨ (s.workers t).pc.draining = true := by
  obtain ⟨-, -, hb, hd⟩ := stoppedRun_induct
    (P := fun s₁ => ((s₁.workers t).pc.beforeLoop = true → (s.workers t).pc.beforeLoop = true) ∧
      ((s₁.workers t).pc.draining = true → (s.workers t).pc.draining = true))
    (fun hs₁ hst₁ h ⟨hb, hd⟩ =>
      ⟨fun x => hb ((stopped_step_stage hs₁ hst₁ h t).1 x),
        fun x => hd ((stopped_step_stage hs₁ hst₁ h t).2 x)⟩)
    hs hst ⟨id, id⟩ hrun
  rcases htask with h | h
  · exact .inl (hb (by simp [h, WorkerPc.beforeLoop]))
  · exact .inr (hd (by simp [h, WorkerPc.draining]))

/-- A pool of one worker whose worker, woken by non-empty queue answers, reaches the drain
loop; then `destroy_threadpool` stores `STOPPED`. -/
def drainThenDestroyTrace : List Action :=
  [.call (.ctor 1)] ++ List.replicate 9 (.master none none) ++
    List.replicate 4 (.worker 1 ⟨true, 0, false⟩) ++
    List.replicate 3 (.worker 1 ⟨false, 1, false⟩) ++
    [.call .destroy, .master none none, .master none none]

theorem stopped_pool_drain_task_was_draining :
    ∃ s s', Reachable specCodes s ∧ s.pool.poolState = .STOPPED ∧
      Relation.ReflTransGen (StoppedStep specCodes) s s' ∧ (s'.workers 1).pc = .drainRun ∧
      ((s.workers 1).pc.beforeLoop = true ∨ (s.workers 1).pc.draining = true) := by
  let a : Action := .worker 1 ⟨false, 1, true⟩
  obtain ⟨s, hs, hp⟩ := reach_of_run (C := specCodes) (l := drainThenDestroyTrace)
    (p := fun s => s.pool.poolState == .STOPPED && (step specCodes s a).any fun s₁ =>
      s₁.pool.poolState == .STOPPED && (step specCodes s₁ a).any fun s' =>
        s'.pool.poolState == .STOPPED && (s'.workers 1).pc == .drainRun)
    (by decide)
  simp only [Bool.and_eq_true, beq_iff_eq, option_any_eq_true] at hp
  obtain ⟨hst, s₁, h₁, hst₁, s', h₂, hst', hrun⟩ := hp
  have hsteps : Relation.ReflTransGen (StoppedStep specCodes) s s' :=
    .tail (.single ⟨a, h₁, hst₁⟩) ⟨a, h₂, hst'⟩
  exact ⟨s, s', hs, hst, hsteps, hrun,
    stopped_pool_hands_tasks_only_to_early_or_draining hs hst hsteps 1 (.inr hrun)⟩

/-- A worker created before `destroy_threadpool` but first run after its store of `STOPPED`
takes the bootstrap task. -/
def lateStartTrace : List Action :=
  destroyBeforeStartTrace ++ List.replicate 3 (.worker 1 ⟨true, 0, false⟩)

theorem stopped_pool_bootstrap_gets_task :
    ∃ s s', Reachable specCodes s ∧ s.pool.poolState = .STOPPED ∧
      s.master.pc = .destroyNotify ∧ (s.workers 1).pc = .bootGet ∧
      step specCodes s (.worker 1 ⟨false, 1, true⟩) = some s' ∧ (s'.workers 1).pc = .bootRun := by
  obtain ⟨s, hs, hp⟩ := reach_of_run (C := specCodes) (l := lateStartTrace)
    (p := fun s => s.pool.poolState == .STOPPED && s.master.pc == .destroyNotify &&
      (s.workers 1).pc == .bootGet &&
      (step specCodes s (.worker 1 ⟨false, 1, true⟩)).any fun s' => (s'.workers 1).pc == .bootRun)
    (by decide)
  simp only [Bool.and_eq_true, beq_iff_eq, option_any_eq_true] at hp
  obtain ⟨⟨⟨hst, hpc⟩, hget⟩, s', h, hrun⟩ := hp
  exact ⟨s, s', hs, hst, hpc, hget, h, hrun⟩

/-! ## The registry after `destroy_threadpool` -/

/-- `ThreadPool(1)`, then `destroy_threadpool()` while the worker starts: the erasure of
`m_main_threads` from `f_thread_ids` runs, then the worker registers in `start_thread`, sees
`STOPPED` and returns, and the join completes. The trace stops before the last step of
`destroy_threadpool`. -/
def destroyDuringStartTrace : List Action :=
  [.call (.ctor 1)] ++ List.replicate 9 (.master none none) ++ [.call .destroy] ++
    List.replicate 6 (.master none none) ++ List.replicate 7 (.worker 1 ⟨true, 0, false⟩) ++
    List.replicate 2 (.master none none)

theorem destroy_threadpool_keeps_late_registration :
    ∃ s s', Reachable specCodes s ∧ s.master.pc = .destroyClear ∧
      step specCodes s (.master none none) = some s' ∧ s'.master.pc = .idle ∧
      s'.master.last = some (.returned 0) ∧ (s'.workers 1).pc = .joined ∧
      s'.registry.lookup 1 = some 1 := by
  obtain ⟨s, hs, hp⟩ := reach_of_run (C := specCodes) (l := destroyDuringStartTrace)
    (p := fun s => s.master.pc == .destroyClear && (step specCodes s (.master none none)).any
      fun s' => s'.master.pc == .idle && s'.master.last == some (.returned 0) &&
        (s'.workers 1).pc == .joined && s'.registry.lookup 1 == some 1)
    (by decide)
  simp only [Bool.and_eq_true, beq_iff_eq, option_any_eq_true] at hp
  obtain ⟨hpc, s', h, ⟨⟨hidle, hlast⟩, hjoined⟩, hreg⟩ := hp
  exact ⟨s, s', hs, hpc, h, hidle, hlast, hjoined, hreg⟩

/-! ## The join loop -/

/-- The join loop of `destroy_threadpool` has joined the threads it has passed: at
`destroyJoin k` those of `m_unique_threads` before `k`, at the clear all of them. -/
def JoinedSoFar (s : Sys) : Prop :=
  (∀ k, s.master.pc = .destroyJoin k → ∀ j < k, ∀ t, s.pool.uniqueThreads[j]? = some t →
      (s.workers t).pc = .joined) ∧
    (s.master.pc = .destroyClear → ∀ t ∈ s.pool.uniqueThreads, (s.workers t).pc = .joined)

/-- Outside the join loop there is nothing to say. -/
theorem JoinedSoFar.of_not_joining {s : Sys} (h : ∀ k, s.master.pc ≠ .destroyJoin k)
    (h' : s.master.pc ≠ .destroyClear) : JoinedSoFar s :=
  ⟨fun k hk => absurd hk (h k), fun hk => absurd hk h'⟩

theorem Sys.stopReturn_not_joining (s : Sys) (c : StopCaller) (r : ℕ) :
    (∀ k, (s.stopReturn c r).master.pc ≠ .destroyJoin k) ∧
      (s.stopReturn c r).master.pc ≠ .destroyClear := by
  cases c <;> simp only [Sys.stopReturn] <;> (try split_ifs) <;> simp

/-- Every step of the master keeps `JoinedSoFar`: a step of the join loop joins
`m_unique_threads[k]` and moves on, or finds the end of the vector and goes on to the clear. -/
theorem joinedSoFar_master {s s' : Sys} {f : Option SpawnFault} {wk : Option Tid}
    (hj : JoinedSoFar s) (h : masterStep s f wk = some s') : JoinedSoFar s' := by
  cases masterStep_move h
  case joinEnd k hpc hk =>
    refine ⟨fun k' hk' => by simp at hk', fun _ t ht => ?_⟩
    simp only [Sys.goto_pool, Sys.goto_workers] at ht ⊢
    obtain ⟨j, hjlt, hjt⟩ := List.getElem_of_mem ht
    -- the loop stopped at the end of the vector, past every index
    have hkj : j < k := by
      have := List.getElem?_eq_none_iff.mp hk
      omega
    exact hj.1 k hpc j hkj t (by rw [List.getElem?_eq_getElem hjlt, hjt])
  case join k u hpc hk hfin =>
    refine ⟨fun k' hk' j hjk t ht => ?_, fun hk' => by simp at hk'⟩
    simp only [Sys.goto_master_pc, MasterPc.destroyJoin.injEq] at hk'
    subst hk'
    simp only [Sys.goto_pool, Sys.setWorker_pool] at ht
    simp only [Sys.goto_workers, Sys.setWorker_workers]
    split
    · rfl
    · rcases Nat.lt_succ_iff_lt_or_eq.mp hjk with hjk | rfl
      · exact hj.1 k hpc j hjk t ht
      · rw [hk] at ht
        cases ht
        contradiction
  case destroyNotifyAll => exact ⟨fun k hk j hjk => by simp at hk; omega, fun hk => by simp at hk⟩
  case spawnThread =>
    unfold Sys.spawnThread
    split_ifs <;> exact .of_not_joining (fun k => by simp) (by simp)
  case countThread =>
    unfold Sys.countThread
    split_ifs <;> exact .of_not_joining (fun k => by simp) (by simp)
  case stopEmpty | stopDrain =>
    exact .of_not_joining (Sys.stopReturn_not_joining ..).1 (Sys.stopReturn_not_joining ..).2
  all_goals exact .of_not_joining (fun k => by simp) (by simp)

theorem joinedSoFar_step {C : StateCodes} {s s' : Sys} {a : Action} (hj : JoinedSoFar s)
    (h : step C s a = some s') : JoinedSoFar s' := by
  rcases step_cases h with ⟨c, h⟩ | ⟨f, wk, h⟩ | ⟨t, q, h⟩
  · simp only [callStep] at h
    split at h
    · cases h
      exact .of_not_joining (fun k => by cases c <;> simp [Call.entry]) (by cases c <;> simp [Call.entry])
    · cases h
  · exact joinedSoFar_master hj h
  · obtain ⟨w, e, hstep, s₁, he, rfl⟩ := workerStep_eq h
    obtain ⟨hms, hws, -⟩ := Sys.applyEffect_facts he
    have hpool := (Sys.applyEffect_members he).2.2.2.2
    -- a joined thread takes no step
    have hkeep : ∀ u, (s.workers u).pc = .joined → ((s₁.setWorker t w).workers u).pc = .joined := by
      intro u hu
      by_cases hut : u = t
      · subst hut
        have hw : (s.workers u).executeThread C (s.input q) = .ok (s.workers u, .none) := by
          simp [Worker.executeThread, hu]
        rw [hw] at hstep
        cases hstep
        simpa using hu
      · simpa [hut, hws] using hu
    exact ⟨fun k hk j hjk u hu =>
        hkeep u (hj.1 k (by simpa [hms] using hk) j hjk u (by simpa [hpool] using hu)),
      fun hk u hu => hkeep u (hj.2 (by simpa [hms] using hk) u (by simpa [hpool] using hu))⟩

theorem Reachable.joinedSoFar {C : StateCodes} {s : Sys} (hs : Reachable C s) : JoinedSoFar s := by
  induction hs with
  | init => exact .of_not_joining (fun k => nofun) nofun
  | step a _ h ih => exact joinedSoFar_step ih h

end PtlThreadPool
