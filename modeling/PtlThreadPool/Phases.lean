import PtlThreadPool.Shutdown

/-!
# The life of a worker thread, abstractly

`start_thread` and `execute_thread` take a worker through a few phases: it is created by the
spawn loop of `initialize_threadpool`, registers itself in `f_thread_ids`, loops in
`execute_thread` picking up tasks, leaves the pool, returns, and is joined by
`destroy_threadpool`. `Phase` and `PhaseStep` are that design as an abstract machine, with who
moves the worker on each edge; `WorkerPc.phase` maps the worker's position in the code to its
phase.

* `step_moves_phase` — every step of the whole system, over any interleaving, moves each worker
  along at most one edge of `PhaseStep`, taken by the right thread: the master only creates and
  joins, the worker itself does the rest, and it starts leaving only under `STOPPED`.
* `worker_runs_through_phases` — so along every run each worker's phases form a path of the
  abstract machine.
-/

namespace PtlThreadPool

/-- The phases of a worker thread's life. -/
inductive Phase : Type where
  /-- no thread yet -/
  | unborn
  /-- created, in `start_thread` before its `f_thread_ids` store -/
  | registering
  /-- in `execute_thread`, between tasks -/
  | pooled
  /-- running a task: the bootstrap one or one from the drain loop -/
  | working
  /-- `leave_pool` said leave: returning from `execute_thread` -/
  | leaving
  /-- returned, joinable -/
  | returned
  /-- joined by `destroy_threadpool` -/
  | joined
  deriving DecidableEq, Repr

/-- Who moves a worker on an edge of its life. -/
inductive Mover : Type where
  /-- the master thread: the spawn loop and the join loop -/
  | master
  /-- the worker thread itself -/
  | self
  deriving DecidableEq, Repr

/-- The edges of a worker's life, with the thread that takes each. -/
inductive PhaseStep : Mover → Phase → Phase → Prop where
  /-- `new Thread(ThreadPool::start_thread, ...)` -/
  | create : PhaseStep .master .unborn .registering
  /-- `f_thread_ids[std::this_thread::get_id()] = _idx` -/
  | register : PhaseStep .self .registering .pooled
  /-- `GetTask()` hands out a task -/
  | pick : PhaseStep .self .pooled .working
  /-- the task has run -/
  | finish : PhaseStep .self .working .pooled
  /-- `leave_pool()` returns `true` -/
  | leave : PhaseStep .self .pooled .leaving
  /-- `return` from `execute_thread` -/
  | exit : PhaseStep .self .leaving .returned
  /-- `m_unique_threads[i]->join()` -/
  | join : PhaseStep .master .returned .joined

/-- The phase a worker is in at each position of the code. -/
def WorkerPc.phase : WorkerPc → Phase
  | .unspawned => .unborn
  | .start => .registering
  | .bootRun | .drainRun => .working
  | .exiting => .leaving
  | .finished => .returned
  | .joined => .joined
  | _ => .pooled

/-- One step of a worker moves it along at most one edge that it takes itself, and into
`leaving` only on reading `STOPPED`, outside the stop-token branch. -/
theorem Worker.executeThread_phase {C : StateCodes} {w w' : Worker} {inp : Input} {e : Effect}
    (h : w.executeThread C inp = .ok (w', e)) (hb : w.pc.inStopBranch = false) :
    w'.pc.phase = w.pc.phase ∨
      PhaseStep .self w.pc.phase w'.pc.phase ∧
        (w'.pc.phase = .leaving → inp.state = .STOPPED) := by
  obtain ⟨pc, owns, wt, hint⟩ := w
  cases pc
  case leaveRead site =>
    obtain ⟨rfl, -⟩ := Prod.mk.inj (Except.ok.inj h)
    rcases leavePool_pc C site inp.state ⟨.leaveRead site, owns, wt, hint⟩ with
      ⟨hpc, hv⟩ | ⟨hpc, -⟩ | ⟨hpc, -⟩ <;> rw [hpc]
    · exact .inr ⟨.leave, fun _ => hv⟩
    · exact .inl rfl
    · cases site <;> exact .inl rfl
  case leaveLock | leaveTokens => cases hb
  case start =>
    obtain ⟨rfl, -⟩ := Prod.mk.inj (Except.ok.inj h)
    exact .inr ⟨.register, nofun⟩
  case bootRun | drainRun =>
    obtain ⟨rfl, -⟩ := Prod.mk.inj (Except.ok.inj h)
    exact .inr ⟨.finish, nofun⟩
  case exiting =>
    obtain ⟨rfl, -⟩ := Prod.mk.inj (Except.ok.inj h)
    exact .inr ⟨.exit, nofun⟩
  case bootGet | drainGet =>
    simp only [Worker.executeThread] at h
    split at h <;> obtain ⟨rfl, -⟩ := Prod.mk.inj (Except.ok.inj h)
    · exact .inr ⟨.pick, nofun⟩
    · exact .inl rfl
  all_goals
    simp only [Worker.executeThread, lockIfNotOwned_eq, unlockIfOwned_eq] at h
    try split at h
    all_goals
      obtain ⟨rfl, -⟩ := Prod.mk.inj (Except.ok.inj h)
      exact .inl rfl

/-- **Every step refines the abstract life of a worker.** In every reachable state, each step
of the system, by any thread, leaves the phase of every worker `t` as it was or moves it along
one edge of `PhaseStep`. An edge of the master is a step of the master: it creates `t` or
joins it. An edge of `t` itself is a step of `t`, and `t` starts leaving only when
`m_pool_state` holds `STOPPED`. No other worker moves `t`. -/
theorem step_moves_phase {C : StateCodes} {s s' : Sys} {a : Action} (hs : Reachable C s)
    (h : step C s a = some s') (t : Tid) :
    (s'.workers t).pc.phase = (s.workers t).pc.phase ∨
      (∃ f wk, a = .master f wk) ∧
        PhaseStep .master (s.workers t).pc.phase (s'.workers t).pc.phase ∨
      (∃ q, a = .worker t q) ∧
        PhaseStep .self (s.workers t).pc.phase (s'.workers t).pc.phase ∧
        ((s'.workers t).pc.phase = .leaving → s.pool.poolState = .STOPPED) := by
  unfold step at h
  split at h
  · cases h
  cases a with
  | call c =>
    simp only [callStep] at h
    split at h <;> cases h
    exact .inl rfl
  | master f wk =>
    rcases (masterStep_facts h).touch t with
      hw | ⟨hb, hw⟩ | ⟨hf, hw⟩ | ⟨rfl, -, hint, hw⟩
    · exact .inl (by rw [hw])
    · exact .inl (by rw [hw, hb]; rfl)
    · exact .inr (.inl ⟨⟨f, wk, rfl⟩, by rw [hw, hf]; exact .join⟩)
    · -- a thread is created only at a fresh id
      have h0 : s.workers s.nextTid = Worker.unspawned := hs.inv.fresh _ le_rfl
      exact .inr (.inl ⟨⟨f, wk, rfl⟩, by rw [hw, h0]; exact .create⟩)
  | worker u q =>
    obtain ⟨w, e, hstep, s₁, he, rfl⟩ := workerStep_eq h
    have hws := (Sys.applyEffect_facts he).2.1
    by_cases htu : t = u
    · subst htu
      simp only [Sys.setWorker_workers, if_pos rfl]
      rcases Worker.executeThread_phase hstep (hs.inv.noStopBranch t) with hp | ⟨hp, hv⟩
      · exact .inl hp
      · exact .inr (.inr ⟨⟨q, rfl⟩, hp, hv⟩)
    · left
      simp only [Sys.setWorker_workers, htu, if_false, hws]

/-- The spawn loop of `ThreadPool(1)` takes the creation edge for worker 1. -/
theorem spawn_step_creates_worker :
    ∃ s s', Reachable specCodes s ∧ step specCodes s (.master none none) = some s' ∧
      (s'.workers 1).pc.phase ≠ (s.workers 1).pc.phase ∧
      PhaseStep .master (s.workers 1).pc.phase (s'.workers 1).pc.phase := by
  obtain ⟨s, hs, hp⟩ := reach_of_run (C := specCodes)
    (l := [.call (.ctor 1)] ++ List.replicate 5 (.master none none))
    (p := fun s => (step specCodes s (.master none none)).any fun s' =>
      (s'.workers 1).pc.phase != (s.workers 1).pc.phase)
    (by decide)
  obtain ⟨s', h, hne⟩ := option_any_eq_true.mp hp
  have hne : (s'.workers 1).pc.phase ≠ (s.workers 1).pc.phase := by simpa using hne
  rcases step_moves_phase hs h 1 with hp | ⟨-, hp⟩ | ⟨⟨q, hq⟩, -⟩
  · exact absurd hp hne
  · exact ⟨s, s', hs, h, hne, hp⟩
  · cases hq

/-- **Each worker's life is a path of the abstract machine.** Along every run from a reachable
state, over any interleaving, the phases each worker goes through are linked by edges of
`PhaseStep`: no worker is created twice, none goes back to an earlier phase except from a task
to the loop, and a joined worker stays joined. -/
theorem worker_runs_through_phases {C : StateCodes} {t : Tid} (l : List Action) :
    ∀ {s s' : Sys}, Reachable C s → run C s l = some s' →
      Relation.ReflTransGen (fun p q => ∃ m, PhaseStep m p q)
        (s.workers t).pc.phase (s'.workers t).pc.phase := by
  induction l with
  | nil =>
    intro s s' _ h
    cases h
    exact .refl
  | cons a l ih =>
    intro s s' hs h
    obtain ⟨s₁, h₁, h₂⟩ := Option.bind_eq_some.mp h
    refine .trans ?_ (ih (hs.step a h₁) h₂)
    rcases step_moves_phase hs h₁ t with hp | ⟨-, hp⟩ | ⟨-, hp, -⟩
    · exact hp ▸ .refl
    · exact .single ⟨_, hp⟩
    · exact .single ⟨_, hp⟩

/-- Worker 1 of `ThreadPool(1)`, destroyed while it starts, goes from `unborn` to `joined`. -/
theorem worker_one_runs_from_unborn_to_joined :
    ∃ s', run specCodes Sys.init destroyDuringStartTrace = some s' ∧
      (s'.workers 1).pc.phase = .joined ∧
      Relation.ReflTransGen (fun p q => ∃ m, PhaseStep m p q) .unborn .joined := by
  have hr : (run specCodes Sys.init destroyDuringStartTrace).map
      (fun s => (s.workers 1).pc.phase == .joined) = some true := by
    decide
  obtain ⟨s', hrun, hj⟩ := Option.map_eq_some'.mp hr
  have hj : (s'.workers 1).pc.phase = .joined := beq_iff_eq.mp hj
  refine ⟨s', hrun, hj, ?_⟩
  rw [← hj]
  exact worker_runs_through_phases _ .init hrun

end PtlThreadPool
