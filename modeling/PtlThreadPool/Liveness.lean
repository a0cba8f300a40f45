import PtlThreadPool.Resize

/-!
# `destroy_threadpool` can always return

The shrink loop of `initialize_threadpool` stays in its loop under every schedule.
`destroy_threadpool` cannot get stuck that way: from every reachable state in which the master
is inside it, whatever the workers are doing, some schedule brings it back out with
`return 0`. The schedule has three parts:

* `free_task_lock` — the worker holding `m_task_lock`, if one does, runs alone with the queue
  answering empty until it has returned from `execute_thread` (`run_worker_alone`: under
  `STOPPED` each of its steps lowers `WorkerPc.stopRank`);
* `finish_live_workers` — then every other created and not yet joined worker, in turn;
* the master: its `notify_all` finds the mutex free, and each `join` of the loop finds its
  thread returned (`canReturn_join`).

The join loop relies on `DestroyInv`, which holds in every reachable state: `STOPPED` stays
stored from the store on, and `m_unique_threads` names distinct, created threads, none of which
is joined before the loop reaches it.
-/

namespace PtlThreadPool

/-! ## Runs -/

theorem run_cons_of_step {C : StateCodes} {s s₁ : Sys} {a : Action} (h : step C s a = some s₁)
    (l : List Action) : run C s (a :: l) = run C s₁ l := by
  simp only [run, h, Option.some_bind]

theorem run_append {C : StateCodes} (l₁ l₂ : List Action) :
    ∀ s : Sys, run C s (l₁ ++ l₂) = (run C s l₁).bind (run C · l₂) := by
  induction l₁ with
  | nil => exact fun _ => rfl
  | cons a l₁ ih =>
    intro s
    show (step C s a).bind (run C · (l₁ ++ l₂)) = ((step C s a).bind (run C · l₁)).bind (run C · l₂)
    simp only [ih, Option.bind_assoc]

/-! ## What `destroy_threadpool` relies on -/

/-- `destroy_threadpool` has stored `STOPPED`: from its first `notify_all` to the clear. -/
def MasterPc.afterStore : MasterPc → Bool
  | .destroyNotify | .destroyAlive | .destroyErase | .destroyNotifyAll | .destroyJoin _
  | .destroyClear => true
  | _ => false

/-- Inside `destroy_threadpool`. -/
def MasterPc.inDestroy : MasterPc → Bool
  | .destroyEntry | .destroyStore => true
  | pc => pc.afterStore

/-- The join loop of `destroy_threadpool` is past index `j` of `m_unique_threads`. -/
def MasterPc.joinedPast (j : ℕ) : MasterPc → Bool
  | .destroyJoin k => decide (j < k)
  | .destroyClear => true
  | _ => false

/-- What `destroy_threadpool` relies on to finish. -/
structure DestroyInv (s : Sys) : Prop where
  /-- `STOPPED` stays stored until `destroy_threadpool` returns -/
  stopped : s.master.pc.afterStore = true → s.pool.poolState = .STOPPED
  /-- `m_unique_threads` names each thread once -/
  nodup : s.pool.uniqueThreads.Nodup
  /-- and only threads that were created -/
  created : ∀ t ∈ s.pool.uniqueThreads, (s.workers t).pc ≠ .unspawned
  /-- none that the join loop has not passed is joined -/
  notJoined : ∀ j t, s.pool.uniqueThreads[j]? = some t → s.master.pc.joinedPast j = false →
    (s.workers t).pc ≠ .joined

/-- A step that keeps `m_unique_threads`, creates and joins no thread, moves no join index and
stores nothing after `STOPPED` keeps `DestroyInv`. -/
theorem DestroyInv.of_frame {s s' : Sys} (hd : DestroyInv s)
    (hu : s'.pool.uniqueThreads = s.pool.uniqueThreads)
    (hw : ∀ t, ((s'.workers t).pc = .unspawned → (s.workers t).pc = .unspawned) ∧
      ((s'.workers t).pc = .joined → (s.workers t).pc = .joined))
    (hst : s'.master.pc.afterStore = true →
      s.master.pc.afterStore = true ∧ s'.pool.poolState = s.pool.poolState)
    (hj : ∀ j, s'.master.pc.joinedPast j = s.master.pc.joinedPast j) : DestroyInv s' where
  stopped h := (hst h).2.trans (hd.stopped (hst h).1)
  nodup := hu ▸ hd.nodup
  created t ht hun := hd.created t (hu ▸ ht) ((hw t).1 hun)
  notJoined j t ht hjp hjn := hd.notJoined j t (hu ▸ ht) (hj j ▸ hjp) ((hw t).2 hjn)

/-- Outside the join loop no thread of `m_unique_threads` is joined. -/
theorem DestroyInv.notJoined_mem {s : Sys} (hd : DestroyInv s)
    (hj : ∀ j, s.master.pc.joinedPast j = false) :
    ∀ t ∈ s.pool.uniqueThreads, (s.workers t).pc ≠ .joined := by
  intro t ht
  obtain ⟨j, hjlt, rfl⟩ := List.getElem_of_mem ht
  exact hd.notJoined j _ (List.getElem?_eq_getElem hjlt) (hj j)

/-- A wake-up moves a sleeper to `waitReacquire`: it creates and joins no thread. -/
theorem wake_keeps {w w' : Worker}
    (h : w' = w ∨ w.pc = .blocked ∧ w' = { w with pc := .waitReacquire }) :
    (w'.pc = .unspawned → w.pc = .unspawned) ∧ (w'.pc = .joined → w.pc = .joined) := by
  rcases h with rfl | ⟨-, rfl⟩
  · exact ⟨id, id⟩
  · exact ⟨nofun, nofun⟩

theorem Sys.notifyOne_workers {s s₁ : Sys} {wk : Option Tid} (h : s.notifyOne wk = some s₁)
    (t : Tid) : s₁.workers t = s.workers t ∨
      (s.workers t).pc = .blocked ∧ s₁.workers t = { s.workers t with pc := .waitReacquire } := by
  cases wk with
  | none =>
    simp only [Sys.notifyOne] at h
    split at h
    · cases h
    · cases h
      exact .inl rfl
  | some u =>
    simp only [Sys.notifyOne] at h
    split at h
    · cases h
      by_cases ht : t = u
      · subst ht
        exact .inr ⟨by assumption, by simp⟩
      · exact .inl (by simp [ht])
    · cases h

/-- `stop_thread` returning is outside `destroy_threadpool`. -/
theorem Sys.stopReturn_outside (s : Sys) (c : StopCaller) (r : ℕ) :
    (s.stopReturn c r).master.pc.afterStore = false ∧
      ∀ j, (s.stopReturn c r).master.pc.joinedPast j = false := by
  cases c <;> simp only [Sys.stopReturn] <;> (try split_ifs) <;> exact ⟨rfl, fun _ => rfl⟩

/-- `new Thread(...)` appends the new thread, which had no id yet, to `m_unique_threads`. -/
theorem DestroyInv.spawnThread {s : Sys} {p thisTid i : ℕ} {f : Option SpawnFault} (hi : Inv s)
    (hd : DestroyInv s) (hpc : s.master.pc = .spawn p thisTid i) :
    DestroyInv (s.spawnThread p thisTid i f) := by
  have hj : ∀ j, s.master.pc.joinedPast j = false := fun j => by rw [hpc]; rfl
  unfold Sys.spawnThread
  split_ifs
  · exact hd.of_frame rfl (fun _ => ⟨id, id⟩) (fun h => by cases h) (fun j => (hj j).symm)
  -- the new id is not in `m_unique_threads` yet: no thread had it
  have hnew : s.nextTid ∉ s.pool.uniqueThreads := fun hm =>
    hd.created _ hm (by rw [hi.fresh _ le_rfl]; rfl)
  have hold : ∀ t ∈ s.pool.uniqueThreads, t ≠ s.nextTid := fun t ht h => hnew (h ▸ ht)
  have hlive : ∀ t ∈ s.pool.uniqueThreads ++ [s.nextTid],
      ((s.setWorker s.nextTid (Worker.spawned (thisTid + i + 1))).workers t).pc ≠ .unspawned ∧
        ((s.setWorker s.nextTid (Worker.spawned (thisTid + i + 1))).workers t).pc ≠ .joined := by
    intro t ht
    rcases List.mem_append.mp ht with ht | ht
    · simp only [Sys.setWorker_workers, if_neg (hold t ht)]
      exact ⟨hd.created t ht, hd.notJoined_mem hj t ht⟩
    · rw [List.mem_singleton.mp ht]
      simp [Worker.spawned]
  exact ⟨nofun, by simpa using hd.nodup.concat hnew, fun t ht => (hlive t ht).1,
    fun j t ht _ => (hlive t (List.getElem?_mem ht)).2⟩

theorem destroyInv_master {s s' : Sys} {f : Option SpawnFault} {wk : Option Tid} (hi : Inv s)
    (hd : DestroyInv s) (h : masterStep s f wk = some s') : DestroyInv s' := by
  cases masterStep_move h
  case spawnThread hpc _ => exact hd.spawnThread hi hpc
  case countThread hpc =>
    unfold Sys.countThread
    split_ifs <;>
      exact hd.of_frame rfl (fun _ => ⟨id, id⟩) (fun h => by cases h)
        (fun j => by rw [hpc]; rfl)
  case stopPost hpc _ h₁ =>
    exact hd.of_frame (by simp [(Sys.notifyOne_facts h₁).1, Sys.pushStopToken])
      (fun t => wake_keeps (by simpa using Sys.notifyOne_workers h₁ t)) (fun h => by cases h)
      (fun j => by simp [hpc, MasterPc.joinedPast])
  case stopEmpty hpc _ | stopDrain hpc _ =>
    try unfold Sys.drainStopThreads
    exact hd.of_frame (by simp) (fun _ => by simp)
      (fun h => by rw [(Sys.stopReturn_outside _ _ _).1] at h; cases h)
      (fun j => by rw [(Sys.stopReturn_outside _ _ _).2 j, hpc]; rfl)
  case destroyStore hpc =>
    exact ⟨fun _ => rfl, hd.nodup, hd.created,
      fun j t ht _ => hd.notJoined j t ht (by rw [hpc]; rfl)⟩
  case destroyNotify hpc _ | destroyNotifyAll hpc =>
    -- the broadcasts wake sleepers, and the loop starts at index `0`
    exact hd.of_frame rfl (fun t => wake_keeps (s.notifyAll_workers t))
      (fun _ => ⟨by rw [hpc]; rfl, rfl⟩) (fun j => by simp [hpc, MasterPc.joinedPast])
  case joinEnd hpc _ =>
    have hst : s.pool.poolState = .STOPPED := hd.stopped (by rw [hpc]; rfl)
    exact ⟨fun _ => hst, hd.nodup, hd.created, fun j t _ hjp => by cases hjp⟩
  case join k t hpc hk hfin =>
    -- a later index names another thread
    have hst : s.pool.poolState = .STOPPED := hd.stopped (by rw [hpc]; rfl)
    refine ⟨fun _ => hst, hd.nodup, fun u hu => ?_, fun j u hu hjp => ?_⟩
    · simp only [Sys.goto_workers, Sys.setWorker_workers]
      split
      · exact nofun
      · exact hd.created u hu
    · simp only [Sys.goto_master_pc, MasterPc.joinedPast, decide_eq_false_iff_not,
        Nat.lt_succ_iff, not_le] at hjp
      simp only [Sys.goto_pool, Sys.setWorker_pool] at hu
      have hut : u ≠ t := by
        rintro rfl
        have := List.getElem?_inj (List.getElem?_eq_some_iff.mp hk).1 hd.nodup (hk.trans hu.symm)
        omega
      simp only [Sys.goto_workers, Sys.setWorker_workers, if_neg hut]
      exact hd.notJoined j u hu (by rw [hpc]; simpa [MasterPc.joinedPast] using hjp.le)
  case destroyClear => exact ⟨nofun, List.nodup_nil, nofun, fun _ _ h => by simp at h⟩
  all_goals
    exact hd.of_frame rfl (fun _ => ⟨id, id⟩)
      (fun h' => by simp [‹s.master.pc = _›, MasterPc.afterStore] at h' ⊢)
      (fun j => by simp [‹s.master.pc = _›, MasterPc.joinedPast])

theorem destroyInv_step {C : StateCodes} {s s' : Sys} {a : Action} (hi : Inv s)
    (hd : DestroyInv s) (h : step C s a = some s') : DestroyInv s' := by
  rcases step_cases h with ⟨c, h⟩ | ⟨f, wk, h⟩ | ⟨t, q, h⟩
  · simp only [callStep] at h
    split at h
    · cases h
      rename_i hstart
      exact hd.of_frame rfl (fun _ => ⟨id, id⟩) (fun h => by cases c <;> cases h)
        (fun j => by rw [hstart]; cases c <;> rfl)
    · cases h
  · exact destroyInv_master hi hd h
  · obtain ⟨w, e, hstep, s₁, he, rfl⟩ := workerStep_eq h
    obtain ⟨hm, hws, -, hps, -⟩ := Sys.applyEffect_facts he
    have hu := (Sys.applyEffect_members he).2.2.2.2
    refine hd.of_frame (by simpa using hu) (fun u => ?_)
      (fun h => ⟨by simpa [hm] using h, by simpa using hps⟩) (fun j => by simp [hm])
    by_cases hut : u = t
    · subst hut
      simpa [hws] using Worker.executeThread_stays hstep
    · simp [hut, hws]

theorem Reachable.destroyInv {C : StateCodes} {s : Sys} (hs : Reachable C s) : DestroyInv s := by
  induction hs with
  | init => exact ⟨nofun, List.nodup_nil, nofun, fun _ _ h => by simp [Sys.init, Pool.init] at h⟩
  | step a hr h ih => exact destroyInv_step hr.inv ih h

/-! ## A worker runs alone -/

/-- What steps of the workers leave alone: the master, `m_pool_state` and `m_unique_threads`. -/
structure WorkersOnly (s s' : Sys) : Prop where
  /-- the master has not moved -/
  master : s'.master = s.master
  /-- `m_pool_state` -/
  poolState : s'.pool.poolState = s.pool.poolState
  /-- `m_unique_threads` -/
  uniqueThreads : s'.pool.uniqueThreads = s.pool.uniqueThreads

theorem WorkersOnly.refl (s : Sys) : WorkersOnly s s := ⟨rfl, rfl, rfl⟩

theorem WorkersOnly.trans {s s₁ s' : Sys} (h₁ : WorkersOnly s s₁) (h₂ : WorkersOnly s₁ s') :
    WorkersOnly s s' :=
  ⟨h₂.master.trans h₁.master, h₂.poolState.trans h₁.poolState,
    h₂.uniqueThreads.trans h₁.uniqueThreads⟩

/-- Under `STOPPED`, with the mutex free or its own, a worker that has not returned can always
take a step with the queue answering empty, and the step brings it closer to returning. -/
theorem step_worker_alone {C : StateCodes} {s : Sys} {t : Tid} (hi : Inv s)
    (hab : s.master.pc ≠ .aborted) (hst : s.pool.poolState = .STOPPED)
    (hlive : (s.workers t).pc ≠ .unspawned ∧ (s.workers t).pc ≠ .joined)
    (hlock : s.pool.taskLock = none ∨ s.pool.taskLock = some t) :
    ∃ s', step C s (.worker t .drained) = some s' ∧ WorkersOnly s s' ∧
      (∀ u, u ≠ t → s'.workers u = s.workers u) ∧
      (s'.pool.taskLock = none ∨ s'.pool.taskLock = some t) ∧
      ((s'.workers t).pc ≠ .unspawned ∧ (s'.workers t).pc ≠ .joined) ∧
      ((s'.workers t).pc.stopRank < (s.workers t).pc.stopRank ∨ (s'.workers t).pc = .finished) := by
  obtain ⟨⟨w, e⟩, hw⟩ := (s.workers t).executeThread_ok C (s.input .drained)
  have hacq := (Worker.executeThread_holds (hi.lockInv t) hw).1
  -- the worker takes the mutex only when it does not hold it, so only when it is free
  obtain ⟨s₁, h₁⟩ : ∃ s₁, s.applyEffect t e = some s₁ := by
    cases e
    case acquire =>
      have hfree : s.pool.taskLock = none :=
        hlock.resolve_right fun h => (hacq rfl).1 ((hi.mutex t).1 h)
      exact ⟨_, if_pos (by simp [Sys.lockFree, hfree])⟩
    all_goals exact ⟨_, rfl⟩
  obtain ⟨hm, hws, -, hps, -, ha, hr, ho⟩ := Sys.applyEffect_facts h₁
  have hu := (Sys.applyEffect_members h₁).2.2.2.2
  have hrank := Worker.executeThread_stopRank hw (by simpa [Sys.input] using hst) (hi.noStopBranch t)
    hlive (.inr rfl)
  have hstay := Worker.executeThread_stays hw
  refine ⟨s₁.setWorker t w, by simp [step, hab, workerStep, hw, h₁],
    ⟨by simp [hm], by simp [hps], by simp [hu]⟩, fun u hut => by simp [hut, hws], ?_, ?_, ?_⟩
  · simp only [Sys.setWorker_pool]
    by_cases hea : e = .acquire
    · exact .inr (ha hea).2
    by_cases her : e = .release
    · exact .inl (hr her)
    · rw [ho hea her]
      exact hlock
  · simp only [Sys.setWorker_workers, if_pos rfl]
    exact ⟨fun h => hlive.1 (hstay.1 h), fun h => hlive.2 (hstay.2 h)⟩
  · simp only [Sys.setWorker_workers, if_pos rfl]
    exact hrank.imp_right And.left

/-- Run alone under `STOPPED`, a worker returns from `execute_thread` within `stopRank` steps and
leaves the mutex free. -/
theorem run_worker_alone {C : StateCodes} (t : Tid) (n : ℕ) :
    ∀ {s : Sys}, Reachable C s → s.master.pc ≠ .aborted → s.pool.poolState = .STOPPED →
      (s.workers t).pc ≠ .unspawned ∧ (s.workers t).pc ≠ .joined →
      (s.pool.taskLock = none ∨ s.pool.taskLock = some t) → (s.workers t).pc.stopRank ≤ n →
      ∃ s', run C s (List.replicate n (.worker t .drained)) = some s' ∧ WorkersOnly s s' ∧
        (∀ u, u ≠ t → s'.workers u = s.workers u) ∧ (s'.workers t).pc = .finished ∧
        s'.pool.taskLock = none := by
  induction n with
  | zero =>
    intro s hs _ _ hlive hlock hr
    have hi := hs.inv
    have hfin :=
      WorkerPc.eq_finished_of_stopRank_eq_zero (Nat.le_zero.mp hr) (hi.noStopBranch t) hlive
    refine ⟨s, rfl, .refl s, fun _ _ => rfl, hfin, hlock.resolve_right fun h => ?_⟩
    -- a worker that has returned does not hold the mutex
    have hown := ((hi.mutex t).1 h).1
    rw [hi.lockInv t false (by rw [hfin]; rfl)] at hown
    cases hown
  | succ n ih =>
    intro s hs hab hst hlive hlock hr
    obtain ⟨s₁, h₁, hf₁, ho₁, hl₁, hlive₁, hr₁⟩ := step_worker_alone hs.inv hab hst hlive hlock
    have hr₁' : (s₁.workers t).pc.stopRank ≤ n := by
      rcases hr₁ with h | h
      · omega
      · rw [h]
        exact Nat.zero_le _
    obtain ⟨s', h', hf', ho', hfin, hfree⟩ := ih (hs.step _ h₁) (by rw [hf₁.master]; exact hab)
      (by rw [hf₁.poolState]; exact hst) hlive₁ hl₁ hr₁'
    refine ⟨s', ?_, hf₁.trans hf', fun u hu => (ho' u hu).trans (ho₁ u hu), hfin, hfree⟩
    rw [List.replicate_succ, run_cons_of_step h₁]
    exact h'

/-- Under `STOPPED`, the worker holding `m_task_lock`, if one does, can run until it has
returned, which frees the mutex. -/
theorem free_task_lock {C : StateCodes} {s : Sys} (hs : Reachable C s)
    (hab : s.master.pc ≠ .aborted) (hst : s.pool.poolState = .STOPPED) :
    ∃ l s', run C s l = some s' ∧ WorkersOnly s s' ∧ s'.pool.taskLock = none ∧
      ∀ u, s'.workers u = s.workers u ∨ (s'.workers u).pc = .finished := by
  cases hl : s.pool.taskLock with
  | none => exact ⟨[], s, rfl, .refl s, hl, fun _ => .inl rfl⟩
  | some h =>
    have hi := hs.inv
    have hown := ((hi.mutex h).1 hl).1
    -- the holder owns the lock, which a thread never created or joined does not
    have hlive : (s.workers h).pc ≠ .unspawned ∧ (s.workers h).pc ≠ .joined := by
      constructor <;> intro hpc <;>
        rw [hi.lockInv h false (by rw [hpc]; rfl)] at hown <;> cases hown
    obtain ⟨s', h', hf', ho', hfin, hfree⟩ :=
      run_worker_alone h 9 hs hab hst hlive (.inr hl) (WorkerPc.stopRank_le_nine _)
    refine ⟨_, s', h', hf', hfree, fun u => ?_⟩
    by_cases hu : u = h
    · exact .inr (hu ▸ hfin)
    · exact .inl (ho' u hu)

/-- Under `STOPPED` and with the mutex free, the workers of `L` that have not returned can run
one after the other until each has returned. -/
theorem finish_workers {C : StateCodes} (L : List Tid) :
    ∀ {s : Sys}, Reachable C s → s.master.pc ≠ .aborted → s.pool.poolState = .STOPPED →
      s.pool.taskLock = none →
      ∃ l s', run C s l = some s' ∧ WorkersOnly s s' ∧
        ∀ u, (s.workers u).pc = .finished ∨
            u ∈ L ∧ (s.workers u).pc ≠ .unspawned ∧ (s.workers u).pc ≠ .joined →
          (s'.workers u).pc = .finished := by
  induction L with
  | nil => exact fun _ _ _ _ => ⟨[], _, rfl, .refl _, fun u hu => hu.resolve_right nofun⟩
  | cons t L ih =>
    intro s hs hab hst hfree
    by_cases hlive : (s.workers t).pc ≠ .unspawned ∧ (s.workers t).pc ≠ .joined
    · obtain ⟨s₁, h₁, hf₁, ho₁, hfin₁, hfree₁⟩ :=
        run_worker_alone t 9 hs hab hst hlive (.inl hfree) (WorkerPc.stopRank_le_nine _)
      obtain ⟨l, s', h', hf', hall⟩ := ih (hs.run h₁) (by rw [hf₁.master]; exact hab)
        (by rw [hf₁.poolState]; exact hst) hfree₁
      refine ⟨_ ++ l, s', by rw [run_append, h₁]; exact h', hf₁.trans hf', fun u hu => hall u ?_⟩
      by_cases hut : u = t
      · exact .inl (hut ▸ hfin₁)
      · rw [ho₁ u hut]
        rcases hu with hu | ⟨hmem, hl⟩
        · exact .inl hu
        · exact .inr ⟨(List.mem_cons.mp hmem).resolve_left hut, hl⟩
    · obtain ⟨l, s', h', hf', hall⟩ := ih hs hab hst hfree
      refine ⟨l, s', h', hf', fun u hu => hall u ?_⟩
      rcases hu with hu | ⟨hmem, hl⟩
      · exact .inl hu
      · rcases List.mem_cons.mp hmem with rfl | hmem
        · exact absurd hl hlive
        · exact .inr ⟨hmem, hl⟩

/-- Under `STOPPED`, every created and not yet joined worker can be brought to return. -/
theorem finish_live_workers {C : StateCodes} {s : Sys} (hs : Reachable C s)
    (hab : s.master.pc ≠ .aborted) (hst : s.pool.poolState = .STOPPED) :
    ∃ l s', run C s l = some s' ∧ WorkersOnly s s' ∧
      ∀ u, (s.workers u).pc ≠ .unspawned → (s.workers u).pc ≠ .joined →
        (s'.workers u).pc = .finished := by
  obtain ⟨l₀, s₀, h₀, hf₀, hfree₀, hk₀⟩ := free_task_lock hs hab hst
  obtain ⟨l, s', h', hf', hall⟩ := finish_workers (List.range s.nextTid) (hs.run h₀)
    (by rw [hf₀.master]; exact hab) (by rw [hf₀.poolState]; exact hst) hfree₀
  refine ⟨l₀ ++ l, s', by rw [run_append, h₀]; exact h', hf₀.trans hf', fun u hu hj => hall u ?_⟩
  rcases hk₀ u with heq | hfin
  · -- a created thread has an id below `nextTid`
    have hlt : u < s.nextTid := by
      by_contra hge
      exact hu (by rw [hs.inv.fresh u (not_lt.mp hge)]; rfl)
    exact .inr ⟨List.mem_range.mpr hlt, heq ▸ hu, heq ▸ hj⟩
  · exact .inl hfin

/-! ## The master returns -/

/-- Some schedule from `s` ends `destroy_threadpool` with `return 0`. -/
def CanReturn (C : StateCodes) (s : Sys) : Prop :=
  ∃ l s', run C s l = some s' ∧ s'.master.pc = .idle ∧ s'.master.last = some (.returned 0)

theorem CanReturn.of_run {C : StateCodes} {s s₁ : Sys} {l : List Action}
    (h : run C s l = some s₁) (hc : CanReturn C s₁) : CanReturn C s := by
  obtain ⟨l', s', h', hpc, hlast⟩ := hc
  exact ⟨l ++ l', s', by rw [run_append, h]; exact h', hpc, hlast⟩

theorem CanReturn.of_step {C : StateCodes} {s s₁ : Sys} {a : Action} (h : step C s a = some s₁)
    (hc : CanReturn C s₁) : CanReturn C s :=
  CanReturn.of_run (l := [a]) (by simp [run, h]) hc

/-- The master's next step goes to `pc`, from where some schedule ends the call. -/
theorem CanReturn.of_master_step {C : StateCodes} {s : Sys} {pc : MasterPc} (hs : Reachable C s)
    (h : (step C s (.master none none)).any (fun s₁ => s₁.master.pc == pc) = true)
    (hc : ∀ s₁, Reachable C s₁ → s₁.master.pc = pc → CanReturn C s₁) : CanReturn C s := by
  obtain ⟨s₁, h₁, hp⟩ := option_any_eq_true.mp h
  exact CanReturn.of_step h₁ (hc s₁ (hs.step _ h₁) (by simpa using hp))

/-- The master's next step returns `0`. -/
theorem CanReturn.of_master_done {C : StateCodes} {s : Sys}
    (h : (step C s (.master none none)).any
      (fun s₁ => s₁.master.pc == .idle && s₁.master.last == some (.returned 0)) = true) :
    CanReturn C s := by
  obtain ⟨s₁, h₁, hp⟩ := option_any_eq_true.mp h
  simp only [Bool.and_eq_true, beq_iff_eq] at hp
  exact ⟨[.master none none], s₁, by simp [run, h₁], hp.1, hp.2⟩

theorem canReturn_clear {C : StateCodes} {s : Sys} (hpc : s.master.pc = .destroyClear) :
    CanReturn C s :=
  CanReturn.of_master_done
    (by simp [step, masterStep, Sys.destroyThreadpool, hpc, Sys.clearThreads, Sys.finish])

/-- The join loop past the end of `m_unique_threads` goes on to the clear. -/
theorem canReturn_joinEnd {C : StateCodes} {s : Sys} {k : ℕ} (hs : Reachable C s)
    (hpc : s.master.pc = .destroyJoin k) (hk : s.pool.uniqueThreads[k]? = none) :
    CanReturn C s :=
  CanReturn.of_master_step hs
    (by simp [step, masterStep, Sys.destroyThreadpool, hpc, Sys.joinStep, hk])
    fun _ _ => canReturn_clear

/-- The join loop from index `k` ends when every thread it has still to join has returned. -/
theorem canReturn_join {C : StateCodes} (m : ℕ) :
    ∀ {s : Sys} {k : ℕ}, Reachable C s → s.master.pc = .destroyJoin k →
      s.pool.uniqueThreads.length ≤ k + m → s.pool.uniqueThreads.Nodup →
      (∀ j t, k ≤ j → s.pool.uniqueThreads[j]? = some t → (s.workers t).pc = .finished) →
      CanReturn C s := by
  induction m with
  | zero =>
    intro s k hs hpc hlen _ _
    exact canReturn_joinEnd hs hpc (List.getElem?_eq_none_iff.mpr (by omega))
  | succ m ih =>
    intro s k hs hpc hlen hnd hfin
    cases hk : s.pool.uniqueThreads[k]? with
    | none => exact canReturn_joinEnd hs hpc hk
    | some t =>
      have hstep : step C s (.master none none) = some
          ((s.setWorker t { s.workers t with pc := .joined }).goto (.destroyJoin (k + 1))) := by
        simp [step, masterStep, Sys.destroyThreadpool, hpc, Sys.joinStep, hk, hfin k t le_rfl hk]
      refine CanReturn.of_step hstep
        (ih (hs.step _ hstep) rfl (by simp; omega) (by simpa using hnd) ?_)
      intro j u hj hu
      simp only [Sys.goto_pool, Sys.setWorker_pool] at hu
      -- a later index names another thread
      have hut : u ≠ t := by
        rintro rfl
        have := List.getElem?_inj (List.getElem?_eq_some_iff.mp hk).1 hnd (hk.trans hu.symm)
        omega
      simp only [Sys.goto_workers, Sys.setWorker_workers, if_neg hut]
      exact hfin j u (by omega) hu

theorem canReturn_joining {C : StateCodes} {s : Sys} {k : ℕ} (hs : Reachable C s)
    (hpc : s.master.pc = .destroyJoin k) : CanReturn C s := by
  have hd := hs.destroyInv
  obtain ⟨l, s', h', hf', hfin⟩ :=
    finish_live_workers hs (by simp [hpc]) (hd.stopped (by rw [hpc]; rfl))
  refine CanReturn.of_run h' (canReturn_join _ (hs.run h') (by rw [hf'.master, hpc])
    (Nat.le_add_left _ _) (hf'.uniqueThreads ▸ hd.nodup) fun j t hj ht => ?_)
  rw [hf'.uniqueThreads] at ht
  exact hfin t (hd.created t (List.getElem?_mem ht))
    (hd.notJoined j t ht (by simp [hpc, MasterPc.joinedPast, hj]))

theorem canReturn_notifyAll {C : StateCodes} {s : Sys} (hs : Reachable C s)
    (hpc : s.master.pc = .destroyNotifyAll) : CanReturn C s :=
  CanReturn.of_master_step hs (by simp [step, masterStep, Sys.destroyThreadpool, hpc])
    fun _ => canReturn_joining (k := 0)

theorem canReturn_erase {C : StateCodes} {s : Sys} (hs : Reachable C s)
    (hpc : s.master.pc = .destroyErase) : CanReturn C s :=
  CanReturn.of_master_step hs (by simp [step, masterStep, Sys.destroyThreadpool, hpc])
    fun _ => canReturn_notifyAll

theorem canReturn_alive {C : StateCodes} {s : Sys} (hs : Reachable C s)
    (hpc : s.master.pc = .destroyAlive) : CanReturn C s := by
  by_cases ha : s.pool.aliveFlag = true
  · -- the size check passes: the vectors agree
    have hv := hs.vectorsAgree.isJoined
    exact CanReturn.of_master_step hs
      (by simp [step, masterStep, Sys.destroyThreadpool, hpc, ha, hv]) fun _ => canReturn_erase
  · exact CanReturn.of_master_done
      (by simp [step, masterStep, Sys.destroyThreadpool, hpc, ha, Sys.finish])

theorem canReturn_notify {C : StateCodes} {s : Sys} (hs : Reachable C s)
    (hpc : s.master.pc = .destroyNotify) : CanReturn C s := by
  obtain ⟨l, s₀, h₀, hf₀, hfree, -⟩ :=
    free_task_lock hs (by simp [hpc]) (hs.inv.notifyStopped hpc)
  have hpc₀ : s₀.master.pc = .destroyNotify := by rw [hf₀.master, hpc]
  exact CanReturn.of_run h₀ (CanReturn.of_master_step (hs.run h₀)
    (by simp [step, masterStep, Sys.destroyThreadpool, hpc₀, Sys.lockFree, hfree])
    fun _ => canReturn_alive)

theorem canReturn_store {C : StateCodes} {s : Sys} (hs : Reachable C s)
    (hpc : s.master.pc = .destroyStore) : CanReturn C s :=
  CanReturn.of_master_step hs (by simp [step, masterStep, Sys.destroyThreadpool, hpc])
    fun _ => canReturn_notify

theorem canReturn_entry {C : StateCodes} {s : Sys} (hs : Reachable C s)
    (hpc : s.master.pc = .destroyEntry) : CanReturn C s :=
  CanReturn.of_master_step hs (by simp [step, masterStep, Sys.destroyThreadpool, hpc])
    fun _ => canReturn_store

/-- **`destroy_threadpool` cannot deadlock.** From every reachable state in which the master is
inside `destroy_threadpool`, whatever the workers are doing and whoever holds `m_task_lock`,
some schedule of the threads brings `destroy_threadpool` to return `0`: the workers leave
`execute_thread` once they read `STOPPED`, the mutex is then free for the `notify_all`, and
each `join` finds its thread returned. -/
theorem destroy_threadpool_can_return {C : StateCodes} {s : Sys} (hs : Reachable C s)
    (hpc : s.master.pc.inDestroy = true) :
    ∃ l s', run C s l = some s' ∧ s'.master.pc = .idle ∧ s'.master.last = some (.returned 0) := by
  cases h : s.master.pc <;> rw [h] at hpc <;> try cases hpc
  case destroyEntry => exact canReturn_entry hs h
  case destroyStore => exact canReturn_store hs h
  case destroyNotify => exact canReturn_notify hs h
  case destroyAlive => exact canReturn_alive hs h
  case destroyErase => exact canReturn_erase hs h
  case destroyNotifyAll => exact canReturn_notifyAll hs h
  case destroyJoin => exact canReturn_joining hs h
  case destroyClear => exact canReturn_clear h

theorem destroy_threadpool_returns_while_lock_held :
    ∃ s, Reachable specCodes s ∧ s.master.pc = .destroyEntry ∧ s.pool.taskLock = some 1 ∧
      ∃ l s', run specCodes s l = some s' ∧ s'.master.pc = .idle ∧
        s'.master.last = some (.returned 0) := by
  obtain ⟨s, hs, hp⟩ := reach_of_run (C := specCodes) (l := lockHeldTrace ++ [.call .destroy])
    (p := fun s => s.master.pc == .destroyEntry && s.pool.taskLock == some 1) (by decide)
  simp only [Bool.and_eq_true, beq_iff_eq] at hp
  exact ⟨s, hs, hp.1, hp.2, destroy_threadpool_can_return hs (by simp [hp.1, MasterPc.inDestroy])⟩

end PtlThreadPool
