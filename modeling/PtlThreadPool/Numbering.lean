import PtlThreadPool.Lifecycle

/-!
# The indices of `f_thread_ids`

`initialize_threadpool` hands the worker it creates at loop index `i` the index
`this_tid + i + 1`, where `this_tid` is the master's own index, and the worker stores it in
`f_thread_ids` in `start_thread`; `GetThisThreadID()` in a task then returns it. Along every
run in which `destroy_threadpool` is never called and no thread creation fails, these indices
are the threads' creation numbers: 0 for the master, `k` for the `k`-th worker
(`thread_ids_number_threads`). `Numbered` is the invariant behind it: `m_pool_size` counts the
workers created, and the spawn loop runs with `i == m_pool_size`.

The hypothesis on `destroy_threadpool` cannot go. `destroy_threadpool` leaves `m_pool_size`
as it was; a later `stop_thread()` sets it to `m_main_threads.size()`, which counts only the
workers created since, and the next `initialize_threadpool` hands out an index that a live
worker already has (`destroy_then_stop_thread_shares_index`).
-/

namespace PtlThreadPool

/-- A step that is no call of `destroy_threadpool` and makes no thread creation fail. -/
def Action.keepsNumbering : Action → Bool
  | .call .destroy => false
  | .master (some _) _ => false
  | _ => true

/-- Before the constructor's `GetThisThreadID()`. -/
def MasterPc.beforeTid : MasterPc → Bool
  | .unconstructed | .ctor _ => true
  | _ => false

/-- Between `new Thread` and `++m_pool_size` the thread just created is not counted yet. -/
def MasterPc.uncounted : MasterPc → ℕ
  | .spawnCount _ _ _ => 1
  | _ => 0

/-- In the spawn loop: at an iteration's `new Thread`, or at its `++m_pool_size`. -/
def MasterPc.inSpawnLoop : MasterPc → Bool
  | .spawn _ _ _ | .spawnCount _ _ _ => true
  | _ => false

theorem MasterPc.uncounted_of_inSpawnLoop {pc : MasterPc} (h : pc.inSpawnLoop = false) :
    pc.uncounted = 0 := by
  cases pc <;> first | rfl | cases h

namespace ThreadIdMap

/-- `GetThisThreadID` of a thread that has an entry reads it and changes nothing. -/
theorem getThisThreadID_of_lookup {m : ThreadIdMap} {t : Tid} {i : ℕ}
    (h : m.lookup t = some i) : m.getThisThreadID t = (i, m) := by
  have hmem : t ∈ m := AList.lookup_isSome.mp (by rw [h]; rfl)
  simp only [getThisThreadID, lookupOrInsert, if_pos hmem, readEntry, h]

/-- `start_thread` with a non-negative index stores it. -/
theorem startThread_natCast (m : ThreadIdMap) (t n : ℕ) : m.startThread t n = m.insert t n :=
  congrArg (fun i => m.insert t i) (if_neg (Int.not_ofNat_neg n))

end ThreadIdMap

/-- At `start` a worker registers the index it was created with. -/
theorem Worker.executeThread_start {C : StateCodes} {w w' : Worker} {inp : Input} {e : Effect}
    (h : w.executeThread C inp = .ok (w', e)) (hpc : w.pc = .start) : e = .register w.hint := by
  obtain ⟨pc, owns, wt, hint⟩ := w
  cases hpc
  exact (Prod.mk.inj (Except.ok.inj h)).2.symm

/-- A thread slot with no thread in it does nothing. -/
theorem Worker.executeThread_of_unspawned {C : StateCodes} {w w' : Worker} {inp : Input}
    {e : Effect} (h : w.executeThread C inp = .ok (w', e)) (hpc : w.pc = .unspawned) :
    w' = w := by
  obtain ⟨pc, owns, wt, hint⟩ := w
  cases hpc
  exact (Prod.mk.inj (Except.ok.inj h)).1.symm

/-- A thread registers itself only in `start_thread`, and no step leads back there. -/
theorem Worker.executeThread_register {C : StateCodes} {w w' : Worker} {inp : Input} {e : Effect}
    (h : w.executeThread C inp = .ok (w', e)) :
    (∀ hint, e = .register hint → w.pc = .start) ∧ w'.pc ≠ .start := by
  obtain ⟨pc, owns, wt, hint⟩ := w
  cases pc
  case start =>
    obtain ⟨rfl, rfl⟩ := Prod.mk.inj (Except.ok.inj h)
    exact ⟨fun _ _ => rfl, nofun⟩
  case leaveRead site =>
    obtain ⟨rfl, rfl⟩ := Prod.mk.inj (Except.ok.inj h)
    refine ⟨nofun, ?_⟩
    unfold leavePool
    split_ifs <;> cases site <;> nofun
  case leaveTokens site =>
    simp only [Worker.executeThread, unlockIfOwned_eq] at h
    split at h <;> obtain ⟨rfl, rfl⟩ := Prod.mk.inj (Except.ok.inj h)
    · exact ⟨nofun, nofun⟩
    · cases site <;> cases owns <;> exact ⟨nofun, nofun⟩
  all_goals
    simp only [Worker.executeThread, lockIfNotOwned_eq, unlockIfOwned_eq] at h
    try split at h
    all_goals
      obtain ⟨rfl, rfl⟩ := Prod.mk.inj (Except.ok.inj h)
      cases owns <;> exact ⟨nofun, nofun⟩

theorem Sys.stopReturn_registry (s : Sys) (c : StopCaller) (r : ℕ) :
    (s.stopReturn c r).registry = s.registry := by
  cases c <;> simp only [Sys.stopReturn] <;> (try split_ifs) <;> rfl

theorem Sys.notifyOne_registry {s s₁ : Sys} {wk : Option Tid} (h : s.notifyOne wk = some s₁) :
    s₁.registry = s.registry := by
  revert h
  cases wk <;> simp only [Sys.notifyOne] <;> split <;> rintro ⟨⟩ <;> rfl

theorem Sys.applyEffect_registry {s s₁ : Sys} {t : Tid} {e : Effect}
    (h : s.applyEffect t e = some s₁) :
    s₁.registry = s.registry ∨
      ∃ hint, e = .register hint ∧ s₁.registry = s.registry.startThread t hint := by
  cases e <;> simp only [Sys.applyEffect] at h
  case register hint =>
    cases h
    exact .inr ⟨hint, rfl, rfl⟩
  case acquire =>
    split at h <;> cases h
    exact .inl rfl
  all_goals
    cases h
    exact .inl rfl

/-! ## The invariant -/

/-- What keeps the indices of `f_thread_ids` equal to the threads' creation numbers. -/
structure Numbered (s : Sys) : Prop where
  /-- every entry of `f_thread_ids` is its thread's id -/
  registry : ∀ t i, s.registry.lookup t = some i → i = t
  /-- every worker past `start_thread` has its entry -/
  registered : ∀ t, (s.workers t).pc ≠ .unspawned → (s.workers t).pc ≠ .start →
    t ∈ s.registry
  /-- before the constructor's `GetThisThreadID()` there is no entry and no worker -/
  fresh : s.master.pc.beforeTid = true →
    s.registry = ∅ ∧ s.pool.poolSize = 0 ∧ ∀ t, (s.workers t).pc = .unspawned
  /-- from it on the master has its entry -/
  masterEntry : s.master.pc.beforeTid = false → masterTid ∈ s.registry
  /-- a worker about to register carries its own id as index -/
  hint : ∀ t, (s.workers t).pc = .start → (s.workers t).hint = t
  /-- `m_pool_size` counts the workers created, whose ids run from `masterTid + 1`, but for
  one created and not yet counted -/
  counted : s.nextTid = s.pool.poolSize + 1 + s.master.pc.uncounted
  /-- `m_pool_size == m_main_threads.size()`, but for the thread not yet counted -/
  sized : s.pool.poolSize + s.master.pc.uncounted = s.pool.mainThreads.length
  /-- the spawn loop runs with the master's index as `this_tid` and `i == m_pool_size` -/
  spawning : ∀ p thisTid i, s.master.pc = .spawn p thisTid i →
    thisTid = masterTid ∧ i = s.pool.poolSize
  /-- and so does `++m_pool_size` -/
  counting : ∀ p thisTid i, s.master.pc = .spawnCount p thisTid i →
    thisTid = masterTid ∧ i = s.pool.poolSize
  /-- `destroy_threadpool` has not been entered -/
  noDestroy : s.master.pc.inDestroy = false

theorem numbered_init : Numbered Sys.init where
  registry _ _ h := by cases h
  registered _ h := absurd rfl h
  fresh _ := ⟨rfl, rfl, fun _ => rfl⟩
  masterEntry := nofun
  hint _ := nofun
  counted := rfl
  sized := rfl
  spawning _ _ _ := nofun
  counting _ _ _ := nofun
  noDestroy := rfl

/-- An entry of `f_thread_ids` is the thread's own id. -/
theorem Numbered.lookup_of_mem {s : Sys} (hn : Numbered s) {t : Tid} (ht : t ∈ s.registry) :
    s.registry.lookup t = some t := by
  obtain ⟨i, hi⟩ := Option.isSome_iff_exists.mp (AList.lookup_isSome.mpr ht)
  rw [hi, hn.registry t i hi]

/-- A step of the master past the constructor's `GetThisThreadID()` and outside `++m_pool_size`
that keeps `f_thread_ids`, `m_pool_size`, `m_main_threads` and `nextTid`, at most wakes workers,
and stays out of the spawn loop and `destroy_threadpool` keeps `Numbered`. -/
theorem Numbered.of_frame {s s' : Sys} (hn : Numbered s) (hb : s.master.pc.beforeTid = false)
    (hu : s.master.pc.uncounted = 0) (hreg : s'.registry = s.registry)
    (hw : ∀ t, s'.workers t = s.workers t ∨
      (s.workers t).pc = .blocked ∧ s'.workers t = { s.workers t with pc := .waitReacquire })
    (hsize : s'.pool.poolSize = s.pool.poolSize) (hmain : s'.pool.mainThreads = s.pool.mainThreads)
    (hnt : s'.nextTid = s.nextTid) (hb' : s'.master.pc.beforeTid = false)
    (hsp : s'.master.pc.inSpawnLoop = false) (hd : s'.master.pc.inDestroy = false) :
    Numbered s' where
  registry := hreg ▸ hn.registry
  registered t := by
    rw [hreg]
    rcases hw t with h | ⟨hbl, h⟩ <;> rw [h]
    · exact hn.registered t
    · exact fun _ _ => hn.registered t (by rw [hbl]; nofun) (by rw [hbl]; nofun)
  fresh h := absurd (hb'.symm.trans h) Bool.false_ne_true
  masterEntry _ := hreg ▸ hn.masterEntry hb
  hint t := by
    rcases hw t with h | ⟨-, h⟩ <;> rw [h]
    · exact hn.hint t
    · nofun
  counted := by rw [hnt, hsize, hn.counted, hu, MasterPc.uncounted_of_inSpawnLoop hsp]
  sized := by rw [hsize, hmain, ← hn.sized, hu, MasterPc.uncounted_of_inSpawnLoop hsp]
  spawning p thisTid i h := by rw [h] at hsp; cases hsp
  counting p thisTid i h := by rw [h] at hsp; cases hsp
  noDestroy := hd

theorem Sys.stopReturn_inSpawnLoop (s : Sys) (c : StopCaller) (r : ℕ) :
    (s.stopReturn c r).master.pc.inSpawnLoop = false := by
  cases c <;> simp only [Sys.stopReturn] <;> (try split_ifs) <;> rfl

theorem Sys.stopReturn_inDestroy (s : Sys) (c : StopCaller) (r : ℕ) :
    (s.stopReturn c r).master.pc.inDestroy = false := by
  cases c <;> simp only [Sys.stopReturn] <;> (try split_ifs) <;> rfl

theorem Sys.stopReturn_beforeTid (s : Sys) (c : StopCaller) (r : ℕ) :
    (s.stopReturn c r).master.pc.beforeTid = false := by
  cases c <;> simp only [Sys.stopReturn] <;> (try split_ifs) <;> rfl

/-! ## One step -/

/-- Outside `++m_pool_size`, `m_pool_size` counts the workers created. -/
theorem Numbered.counted_of {s : Sys} (hn : Numbered s) (hu : s.master.pc.uncounted = 0) :
    s.nextTid = s.pool.poolSize + 1 := by
  rw [hn.counted, hu]

/-- Outside `++m_pool_size`, `m_pool_size == m_main_threads.size()`. -/
theorem Numbered.sized_of {s : Sys} (hn : Numbered s) (hu : s.master.pc.uncounted = 0) :
    s.pool.poolSize = s.pool.mainThreads.length := by
  rw [← hn.sized, hu]
  rfl

/-- `new Thread` that does not throw creates the worker `nextTid`, with index
`this_tid + i + 1`, and pushes it on `m_main_threads`. -/
theorem Sys.spawnThread_none (s : Sys) (p thisTid i : ℕ) :
    (s.spawnThread p thisTid i none).registry = s.registry ∧
      (s.spawnThread p thisTid i none).pool.poolSize = s.pool.poolSize ∧
      (s.spawnThread p thisTid i none).pool.mainThreads = s.pool.mainThreads ++ [s.nextTid] ∧
      (s.spawnThread p thisTid i none).nextTid = s.nextTid + 1 ∧
      (s.spawnThread p thisTid i none).master.pc = .spawnCount p thisTid i ∧
      ∀ u, (s.spawnThread p thisTid i none).workers u =
        if u = s.nextTid then Worker.spawned (thisTid + i + 1) else s.workers u :=
  ⟨rfl, rfl, rfl, rfl, rfl, fun _ => rfl⟩

/-- `new Thread(ThreadPool::start_thread, this, this_tid + i + 1)` hands the worker it creates
the index `this_tid + i + 1`, which is the worker's id. -/
theorem Numbered.spawnThread {s : Sys} {p thisTid i : ℕ} (hn : Numbered s)
    (hpc : s.master.pc = .spawn p thisTid i) : Numbered (s.spawnThread p thisTid i none) := by
  obtain ⟨rfl, rfl⟩ := hn.spawning p thisTid i hpc
  obtain ⟨hreg, hsize, hmain, hnt, hpc', hw⟩ := s.spawnThread_none p masterTid s.pool.poolSize
  have hb : s.master.pc.beforeTid = false := by rw [hpc]; rfl
  have hu : s.master.pc.uncounted = 0 := by rw [hpc]; rfl
  refine ⟨hreg ▸ hn.registry, fun t ht hst => ?_, fun h => (by rw [hpc'] at h; cases h),
    fun _ => hreg ▸ hn.masterEntry hb, fun t ht => ?_, ?_, ?_,
    fun _ _ _ h => (by rw [hpc'] at h; cases h), fun _ _ _ h => ?_, by rw [hpc']; rfl⟩
  · rw [hw] at ht hst
    split at hst
    · exact absurd rfl hst
    · rw [if_neg ‹_›] at ht
      exact hreg ▸ hn.registered t ht hst
  · rw [hw] at ht ⊢
    split
    · -- `this_tid + i + 1` with `this_tid == 0` and `i == m_pool_size`
      rename_i htn
      rw [htn, hn.counted_of hu]
      simp [Worker.spawned, masterTid]
    · rw [if_neg ‹_›] at ht
      exact hn.hint t ht
  · rw [hnt, hsize, hpc', hn.counted_of hu]
    rfl
  · rw [hsize, hmain, hpc', List.length_append, ← hn.sized_of hu]
    rfl
  · rw [hpc', MasterPc.spawnCount.injEq] at h
    obtain ⟨-, rfl, rfl⟩ := h
    exact ⟨rfl, hsize.symm⟩

/-- `++m_pool_size` counts the worker just created. -/
theorem Numbered.countThread {s : Sys} {p thisTid i : ℕ} (hn : Numbered s)
    (hpc : s.master.pc = .spawnCount p thisTid i) : Numbered (s.countThread p thisTid i none) := by
  obtain ⟨rfl, rfl⟩ := hn.counting p thisTid i hpc
  have hb : s.master.pc.beforeTid = false := by rw [hpc]; rfl
  have hu : s.master.pc.uncounted = 1 := by rw [hpc]; rfl
  refine ⟨hn.registry, hn.registered, nofun, fun _ => hn.masterEntry hb, hn.hint, ?_, ?_,
    fun _ _ _ h => ?_, nofun, rfl⟩
  · show s.nextTid = s.pool.poolSize + 1 + 1 + 0
    rw [hn.counted, hu]
  · show s.pool.poolSize + 1 + 0 = s.pool.mainThreads.length
    rw [← hn.sized, hu]
  · have h' : MasterPc.spawn p masterTid (s.pool.poolSize + 1) = _ := h
    rw [MasterPc.spawn.injEq] at h'
    obtain ⟨-, rfl, rfl⟩ := h'
    exact ⟨rfl, rfl⟩

/-- Every step of the master but a failed thread creation and `destroy_threadpool` keeps
`Numbered`: the constructor's `GetThisThreadID()` gives the master index 0 in the empty map,
the one of `initialize_threadpool` finds it, and `stop_thread` changes `m_pool_size` only to
`m_main_threads.size()`, which it already is. -/
theorem numbered_master {s s' : Sys} {wk : Option Tid} (hi : Inv s) (hn : Numbered s)
    (h : masterStep s none wk = some s') : Numbered s' := by
  have hd := hn.noDestroy
  cases masterStep_move h
  case threadPool p hpc =>
    -- `GetThisThreadID()` inserts the master at `size() == 0`
    obtain ⟨hempty, hzero, hnone⟩ := hn.fresh (by rw [hpc]; rfl)
    have hu : s.master.pc.uncounted = 0 := by rw [hpc]; rfl
    have hreg : (s.registry.getThisThreadID masterTid).2 =
        (∅ : ThreadIdMap).insert masterTid 0 := by
      rw [hempty]
      rfl
    refine ⟨fun t i ht => ?_, fun t h _ => absurd (hnone t) h, nofun,
      fun _ => by simp only [Sys.threadPool_eq, Sys.callGetThisThreadID, hreg, AList.mem_insert,
        true_or],
      fun t h => (nomatch (hnone t).symm.trans h), hn.counted_of hu, hn.sized_of hu, nofun, nofun,
      rfl⟩
    simp only [Sys.threadPool_eq, Sys.callGetThisThreadID, hreg] at ht
    by_cases htm : t = masterTid
    · rw [htm, AList.lookup_insert] at ht
      exact htm ▸ (Option.some.inj ht).symm
    · rw [AList.lookup_insert_ne htm] at ht
      cases ht
  case initTid p hpc =>
    -- `GetThisThreadID()` finds the master's entry, `masterTid`
    have hb : s.master.pc.beforeTid = false := by rw [hpc]; rfl
    have hu : s.master.pc.uncounted = 0 := by rw [hpc]; rfl
    have hr := ThreadIdMap.getThisThreadID_of_lookup (hn.lookup_of_mem (hn.masterEntry hb))
    refine ⟨?_, ?_, nofun, fun _ => ?_, hn.hint, hn.counted_of hu, hn.sized_of hu,
      fun _ _ _ h => ?_, nofun, rfl⟩
    all_goals simp only [Sys.takeThisTid, hr]
    · exact hn.registry
    · exact hn.registered
    · exact hn.masterEntry hb
    · simp only [Sys.takeThisTid, hr, Sys.goto_master_pc, MasterPc.spawn.injEq] at h
      exact ⟨h.2.1.symm, h.2.2.symm⟩
  case spawnThread hpc _ => exact hn.spawnThread hpc
  case countThread hpc => exact hn.countThread hpc
  case stopEmpty hpc _ =>
    exact hn.of_frame (by rw [hpc]; rfl) (by rw [hpc]; rfl) (Sys.stopReturn_registry _ _ _)
      (fun t => .inl (by rw [Sys.stopReturn_workers])) (by simp) (by simp) (by simp)
      (s.stopReturn_beforeTid _ 0) (s.stopReturn_inSpawnLoop _ 0) (s.stopReturn_inDestroy _ 0)
  case stopPost hpc _ h₁ =>
    obtain ⟨hp, hn', -⟩ := Sys.notifyOne_facts h₁
    exact hn.of_frame (by rw [hpc]; rfl) (by rw [hpc]; rfl) (Sys.notifyOne_registry h₁ :)
      (Sys.notifyOne_workers h₁ :) (by simp [hp, Sys.pushStopToken])
      (by simp [hp, Sys.pushStopToken]) (by simp [hn']) rfl rfl rfl
  case stopDrain hpc _ =>
    -- `m_stop_threads` is empty: `m_pool_size = m_main_threads.size()` changes nothing
    have hu : s.master.pc.uncounted = 0 := by rw [hpc]; rfl
    refine hn.of_frame (by rw [hpc]; rfl) hu
      (by simp only [Sys.drainStopThreads, Sys.stopReturn_registry]; rfl) (fun t => .inl (by simp))
      ?_ ?_ (by simp) (Sys.stopReturn_beforeTid _ _ _) (Sys.stopReturn_inSpawnLoop _ _ _)
      (Sys.stopReturn_inDestroy _ _ _)
    all_goals simp [Sys.drainStopThreads, hi.noAcks, hn.sized_of hu]
  all_goals first
    | (rw [‹s.master.pc = _›] at hd; cases hd; done)
    | exact hn.of_frame (by rw [‹s.master.pc = _›]; rfl) (by rw [‹s.master.pc = _›]; rfl)
        rfl (fun _ => .inl rfl) rfl rfl rfl rfl rfl rfl

/-- Under `Numbered`, a worker's step changes `f_thread_ids` only in `start_thread`, which stores
the worker at its own id. -/
theorem Numbered.applyEffect_registry {C : StateCodes} {s s₁ : Sys} {t : Tid} {w : Worker}
    {inp : Input} {e : Effect} (hn : Numbered s)
    (hstep : (s.workers t).executeThread C inp = .ok (w, e)) (he : s.applyEffect t e = some s₁) :
    (s.workers t).pc = .start ∧ s₁.registry = s.registry.insert t t ∨
      (s.workers t).pc ≠ .start ∧ s₁.registry = s.registry := by
  by_cases hst : (s.workers t).pc = .start
  · rw [Worker.executeThread_start hstep hst] at he
    simp only [Sys.applyEffect] at he
    cases he
    refine .inl ⟨hst, ?_⟩
    show s.registry.startThread t (s.workers t).hint = _
    rw [hn.hint t hst, ThreadIdMap.startThread_natCast]
  · rcases Sys.applyEffect_registry he with hr | ⟨hint, rfl, -⟩
    · exact .inr ⟨hst, hr⟩
    · exact absurd ((Worker.executeThread_register hstep).1 hint rfl) hst

/-- A worker's step registers at most itself, with the index it was created with. -/
theorem numbered_worker {C : StateCodes} {s s' : Sys} {t : Tid} {q : QueueAnswer}
    (hn : Numbered s) (h : workerStep C s t q = some s') : Numbered s' := by
  obtain ⟨w, e, hstep, s₁, he, rfl⟩ := workerStep_eq h
  obtain ⟨hms, hws, hnt, -, -⟩ := Sys.applyEffect_facts he
  obtain ⟨-, hps, hm, -, -⟩ := Sys.applyEffect_members he
  have hw' := (Worker.executeThread_register hstep).2
  have hr := hn.applyEffect_registry hstep he
  have hgrow : ∀ u, u ∈ s.registry → u ∈ s₁.registry := fun u hu => by
    rcases hr with ⟨-, hr⟩ | ⟨-, hr⟩ <;> rw [hr]
    · exact (AList.mem_insert _).mpr (.inr hu)
    · exact hu
  refine ⟨fun u i hu => ?_, fun u hu hst => ?_, fun hb => ?_,
    fun hb => hgrow _ (hn.masterEntry (hms ▸ hb)), fun u hu => ?_,
    by simp [hnt, hps, hms, hn.counted], by simp [hps, hm, hms, hn.sized],
    fun p thisTid i hp => by simpa [hps] using hn.spawning p thisTid i (hms ▸ hp),
    fun p thisTid i hp => by simpa [hps] using hn.counting p thisTid i (hms ▸ hp),
    hms ▸ hn.noDestroy⟩
  · -- the new entry is `t`'s own id
    change s₁.registry.lookup u = some i at hu
    rcases hr with ⟨-, hr⟩ | ⟨-, hr⟩ <;> rw [hr] at hu
    · by_cases hut : u = t
      · rw [hut, AList.lookup_insert] at hu
        exact hut ▸ (Option.some.inj hu).symm
      · rw [AList.lookup_insert_ne hut] at hu
        exact hn.registry u i hu
    · exact hn.registry u i hu
  · -- `t` is past `start` once it has registered
    by_cases hut : u = t
    · subst hut
      simp only [Sys.setWorker_workers, if_pos rfl] at hu
      rcases hr with ⟨-, hr⟩ | ⟨hst', hr⟩
      · exact hr ▸ (AList.mem_insert _).mpr (.inl rfl)
      · have hcr : (s.workers u).pc ≠ .unspawned := fun h0 =>
          hu (by rw [Worker.executeThread_of_unspawned hstep h0]; exact h0)
        exact hr ▸ hn.registered u hcr hst'
    · simp only [Sys.setWorker_workers, hut, if_false, hws] at hu hst
      exact hgrow u (hn.registered u hu hst)
  · -- before the constructor's `GetThisThreadID()` there is no worker to step
    obtain ⟨hempty, hzero, hnone⟩ := hn.fresh (hms ▸ hb)
    have hw := Worker.executeThread_of_unspawned hstep (hnone t)
    rcases hr with ⟨hst, -⟩ | ⟨-, hr⟩
    · exact absurd (hnone t ▸ hst) nofun
    refine ⟨hr.trans hempty, by simpa [hps] using hzero, fun u => ?_⟩
    by_cases hut : u = t
    · simp only [Sys.setWorker_workers, hut, if_true, hw, hnone t]
    · simp only [Sys.setWorker_workers, hut, if_false, hws, hnone u]
  · -- no step leads back to `start`
    by_cases hut : u = t
    · simp only [Sys.setWorker_workers, hut, if_true] at hu
      exact absurd hu hw'
    · simp only [Sys.setWorker_workers, hut, if_false, hws] at hu ⊢
      exact hn.hint u hu

/-- Every step but a call of `destroy_threadpool` and a failed thread creation keeps
`Numbered`. -/
theorem numbered_step {C : StateCodes} {s s' : Sys} {a : Action} (hs : Reachable C s)
    (hn : Numbered s) (ha : a.keepsNumbering = true) (h : step C s a = some s') : Numbered s' := by
  unfold step at h
  split at h
  · cases h
  cases a with
  | call c =>
    simp only [callStep] at h
    split at h
    · cases h
      rename_i hfrom
      have hu : s.master.pc.uncounted = 0 := by rw [hfrom]; cases c <;> rfl
      cases c
      case ctor p =>
        exact ⟨hn.registry, hn.registered, fun _ => hn.fresh (by rw [hfrom]; rfl), nofun, hn.hint,
          hn.counted_of hu, hn.sized_of hu, fun _ _ _ => nofun, fun _ _ _ => nofun, rfl⟩
      case destroy => cases ha
      all_goals
        exact hn.of_frame (by rw [hfrom]; rfl) hu rfl (fun _ => .inl rfl) rfl rfl rfl rfl rfl rfl
    · cases h
  | master f wk =>
    cases f
    · exact numbered_master hs.inv hn h
    · cases ha
  | worker t q => exact numbered_worker hn h

theorem numbered_run {C : StateCodes} (l : List Action) :
    ∀ {s s' : Sys}, Reachable C s → Numbered s → (∀ a ∈ l, a.keepsNumbering = true) →
      run C s l = some s' → Numbered s' := by
  induction l with
  | nil =>
    intro s s' _ hn _ h
    cases h
    exact hn
  | cons a l ih =>
    intro s s' hs hn hl h
    obtain ⟨s₁, h₁, h₂⟩ := Option.bind_eq_some.mp h
    exact ih (hs.step a h₁) (numbered_step hs hn (hl a (List.mem_cons_self a l)) h₁)
      (fun b hb => hl b (List.mem_cons_of_mem a hb)) h₂

/-! ## Creation numbers -/

/-- `ThreadPool(2)`, whose second worker has registered. -/
def twoWorkersTrace : List Action :=
  [.call (.ctor 2)] ++ List.replicate 11 (.master none none) ++ [.worker 2 .drained]

/-- `ThreadPool(1)` and `destroy_threadpool()`, which leaves `m_pool_size == 1`; then
`initialize_threadpool(2)` creates worker 2 at `i == 1`, `stop_thread()` sets `m_pool_size` to
`m_main_threads.size() == 1`, and `initialize_threadpool(2)` creates worker 3 at `i == 1`
again. Both workers then register. -/
def indexClashTrace : List Action :=
  [.call (.ctor 1)] ++ List.replicate 9 (.master none none) ++ [.call .destroy] ++
    List.replicate 6 (.master none none) ++ List.replicate 7 (.worker 1 ⟨true, 0, false⟩) ++
    List.replicate 3 (.master none none) ++
    [.call (.initializeThreadpool 2)] ++ List.replicate 8 (.master none none) ++
    [.call .stopThread] ++ List.replicate 3 (.master none none) ++
    [.call (.initializeThreadpool 2)] ++ List.replicate 8 (.master none none) ++
    [.worker 2 .drained, .worker 3 .drained]

/-- After `destroy_threadpool`, two live workers can share an index: both are in
`m_unique_threads`, running `execute_thread`, and `f_thread_ids` maps both to 2. -/
theorem destroy_then_stop_thread_shares_index :
    ∃ s, Reachable specCodes s ∧ s.pool.uniqueThreads = [2, 3] ∧
      (s.workers 2).pc = .bootAwake ∧ (s.workers 3).pc = .bootAwake ∧
      s.registry.lookup 2 = some 2 ∧ s.registry.lookup 3 = some 2 := by
  obtain ⟨s, hs, hp⟩ := reach_of_run (C := specCodes) (l := indexClashTrace)
    (p := fun s => s.pool.uniqueThreads == [2, 3] && (s.workers 2).pc == .bootAwake &&
      (s.workers 3).pc == .bootAwake && s.registry.lookup 2 == some 2 &&
      s.registry.lookup 3 == some 2)
    (by decide)
  simp only [Bool.and_eq_true, beq_iff_eq] at hp
  obtain ⟨⟨⟨⟨h₁, h₂⟩, h₃⟩, h₄⟩, h₅⟩ := hp
  exact ⟨s, hs, h₁, h₂, h₃, h₄, h₅⟩

end PtlThreadPool
