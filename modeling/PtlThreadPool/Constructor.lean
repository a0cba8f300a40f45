import PtlThreadPool.Liveness

/-!
# `ThreadPool(p)` creates `p` workers

The constructor runs `initialize_threadpool(p)` on a fresh pool. With every thread creation
succeeding it returns on some schedule (the master running alone), and on every interleaving
with the new workers' steps in which it returns, it returns `p` with `m_pool_size = p`, and
`m_main_threads` and `m_unique_threads` hold the `p` threads it created
(`constructor_creates_pool`). Calling `initialize_threadpool` again after `destroy_threadpool`
is another matter: `destroy_threadpool` leaves `m_pool_size` behind.

The proof follows the members only the master writes (`MasterView`) through the stages of the
constructor (`CtorAt`): the spawn loop's `i`-th iteration appends the thread
`masterTid + 1 + i`, and the workers' steps change none of these members.
-/

namespace PtlThreadPool

/-- The members only the master writes, with the next thread id. -/
structure MasterView : Type where
  /-- `m_pool_size` -/
  poolSize : ℕ
  /-- `m_main_threads` -/
  mainThreads : List Tid
  /-- `m_is_joined` -/
  isJoined : List Bool
  /-- `m_unique_threads` -/
  uniqueThreads : List Tid
  /-- `m_alive_flag` -/
  aliveFlag : Bool
  /-- `m_pool_state` -/
  poolState : PoolState
  /-- the id the next created thread gets -/
  nextTid : Tid

/-- What the master writes of a state. -/
def Sys.view (s : Sys) : MasterView :=
  ⟨s.pool.poolSize, s.pool.mainThreads, s.pool.isJoined, s.pool.uniqueThreads, s.pool.aliveFlag,
    s.pool.poolState, s.nextTid⟩

/-- After `k` iterations of the constructor's spawn loop: the threads `masterTid + 1`, …,
`masterTid + k`. -/
def ctorView (k : ℕ) : MasterView :=
  ⟨k, List.range' (masterTid + 1) k, List.replicate k false, List.range' (masterTid + 1) k, true,
    .STARTED, masterTid + 1 + k⟩

/-- Where the master can be in the constructor, and what it has written there. -/
def CtorAt (p : ℕ) (m : Master) (v : MasterView) : Prop :=
  match m.pc with
  | .ctor n | .initEntry n => n = p ∧ v = Sys.init.view
  | .initCheck n | .initReserve n | .initTid n => n = p ∧ v = ctorView 0
  | .spawn n _ i => n = p ∧ i ≤ p ∧ v = ctorView i
  | .spawnCount n _ i => n = p ∧ i < p ∧ v = { ctorView (i + 1) with poolSize := i }
  | .initFinal n => n = p ∧ v = ctorView p
  | .idle => m.last = some (.returned p) ∧ v = ctorView p
  | _ => False

/-- How many steps the constructor's master still takes. -/
def ctorRemaining (p : ℕ) : MasterPc → ℕ
  | .ctor _ => 2 * p + 7
  | .initEntry _ => 2 * p + 6
  | .initCheck _ => 2 * p + 5
  | .initReserve _ => 2 * p + 4
  | .initTid _ => 2 * p + 3
  | .spawn _ _ i => 2 * (p - i) + 2
  | .spawnCount _ _ i => 2 * (p - i) + 1
  | .initFinal _ => 1
  | _ => 0

/-- A step of the master in which no thread creation fails, or a step of a worker: no public
call starts. -/
def Action.quiet : Action → Bool
  | .master f _ => f.isNone
  | .worker _ _ => true
  | .call _ => false

/-- The workers write none of the master's members. -/
theorem workerStep_view {C : StateCodes} {s s' : Sys} {t : Tid} {q : QueueAnswer}
    (h : workerStep C s t q = some s') : s'.master = s.master ∧ s'.view = s.view := by
  obtain ⟨w, e, -, s₁, he, rfl⟩ := workerStep_eq h
  obtain ⟨hm, -, hn, hps, -⟩ := Sys.applyEffect_facts he
  obtain ⟨ha, hp, hmt, hj, hu⟩ := Sys.applyEffect_members he
  exact ⟨by simp [hm], by simp [Sys.view, ha, hp, hmt, hj, hu, hps, hn]⟩

/-- **One step of the constructor's master** leads to its next stage. -/
theorem ctorAt_masterStep {p : ℕ} (hp : 1 ≤ p) {s s' : Sys} {wk : Option Tid}
    (hc : CtorAt p s.master s.view) (h : masterStep s none wk = some s') :
    CtorAt p s'.master s'.view ∧ ctorRemaining p s'.master.pc < ctorRemaining p s.master.pc := by
  unfold CtorAt at hc
  cases masterStep_move h
  all_goals rw [‹s.master.pc = _›] at hc
  all_goals try exact absurd hc id
  case threadPool hpc | initGrow hpc _ _ | initReserve hpc _ =>
    exact ⟨hc, by simp [hpc, ctorRemaining]⟩
  case initZero => omega
  case initStart hpc _ =>
    obtain ⟨rfl, hv⟩ := hc
    simp only [Sys.view, Sys.init, Pool.init, MasterView.mk.injEq] at hv
    refine ⟨⟨rfl, ?_⟩, by simp [hpc, ctorRemaining]⟩
    simp [Sys.view, ctorView, Sys.storeStarted, hv]
  case initShrink | initSame =>
    -- the constructor's pool is empty at its size test
    obtain ⟨rfl, hv⟩ := hc
    simp only [Sys.view, ctorView, MasterView.mk.injEq] at hv
    omega
  case initTid hpc =>
    obtain ⟨rfl, hv⟩ := hc
    have hsz : s.pool.poolSize = 0 := congrArg MasterView.poolSize hv
    refine ⟨⟨rfl, by simp [hsz], ?_⟩, by simp [hpc, hsz, ctorRemaining]⟩
    rw [hsz]
    exact hv
  case spawnThread hpc hlt =>
    -- `new Thread(...)` pushes the thread `masterTid + 1 + i`
    obtain ⟨rfl, -, hv⟩ := hc
    simp only [Sys.view, ctorView, MasterView.mk.injEq] at hv
    obtain ⟨hsz, hmain, hj, hu, ha, hst, hn⟩ := hv
    refine ⟨⟨rfl, hlt, ?_⟩, by simp [hpc, Sys.spawnThread, ctorRemaining]⟩
    simp [Sys.spawnThread, Sys.view, ctorView, hsz, hmain, hj, hu, ha, hst, hn,
      List.range'_concat, List.replicate_succ']
    rfl
  case countThread hpc =>
    -- `++m_pool_size` counts it
    obtain ⟨rfl, hlt, hv⟩ := hc
    simp only [Sys.view, ctorView, MasterView.mk.injEq] at hv
    obtain ⟨hsz, hmain, hj, hu, ha, hst, hn⟩ := hv
    refine ⟨⟨rfl, hlt, ?_⟩, by simp [hpc, Sys.countThread, ctorRemaining]; omega⟩
    simp [Sys.countThread, Sys.view, ctorView, hsz, hmain, hj, hu, ha, hst, hn]
  case spawnDone hpc hge =>
    -- the loop ends at `i == p`
    obtain ⟨rfl, hi, hv⟩ := hc
    obtain rfl := Nat.le_antisymm hi (Nat.not_lt.mp hge)
    exact ⟨⟨rfl, hv⟩, by simp [hpc, ctorRemaining]⟩
  case initThrow hne =>
    obtain ⟨rfl, hv⟩ := hc
    simp only [Sys.view, ctorView, MasterView.mk.injEq] at hv
    simp [hv] at hne
  case initReturn hpc _ _ =>
    obtain ⟨rfl, hv⟩ := hc
    have hv' := hv
    simp only [Sys.view, ctorView, MasterView.mk.injEq] at hv'
    exact ⟨⟨by simp [Sys.finish, hv'], hv⟩, by simp [hpc, ctorRemaining]⟩

/-- From every stage but the return, the master's next step is enabled while the mutex is
free. -/
theorem ctorAt_enabled {p : ℕ} {s : Sys} (hc : CtorAt p s.master s.view)
    (hidle : s.master.pc ≠ .idle) (hfree : s.pool.taskLock = none) :
    ∃ s', masterStep s none none = some s' := by
  unfold CtorAt at hc
  cases hpc : s.master.pc <;> rw [hpc] at hc
  all_goals try exact absurd hc id
  case idle => exact absurd hpc hidle
  all_goals
    simp only [masterStep, hpc, Sys.initializeThreadpool, Sys.lockFree, hfree, Option.isNone_none,
      if_true]
    try split
    all_goals try split
    all_goals exact ⟨_, rfl⟩

/-- Before its return, and with the mutex free, the constructor's master takes its next step. -/
theorem ctorAt_next {C : StateCodes} {p : ℕ} (hp : 1 ≤ p) {s : Sys} (hc : CtorAt p s.master s.view)
    (hidle : s.master.pc ≠ .idle) (hfree : s.pool.taskLock = none) :
    ∃ s₁, step C s (.master none none) = some s₁ ∧ CtorAt p s₁.master s₁.view ∧
      ctorRemaining p s₁.master.pc < ctorRemaining p s.master.pc ∧ s₁.pool.taskLock = none := by
  obtain ⟨s₁, h₁⟩ := ctorAt_enabled hc hidle hfree
  obtain ⟨hc₁, hr₁⟩ := ctorAt_masterStep hp hc h₁
  have hab : s.master.pc ≠ .aborted := fun h => by unfold CtorAt at hc; rw [h] at hc; exact hc
  exact ⟨s₁, by rw [← h₁]; exact if_neg hab, hc₁, hr₁,
    by rw [(masterStep_facts h₁).taskLock]; exact hfree⟩

/-- Run alone, the constructor's master reaches its return. -/
theorem ctor_master_alone {C : StateCodes} {p : ℕ} (hp : 1 ≤ p) (n : ℕ) :
    ∀ {s : Sys}, CtorAt p s.master s.view → s.pool.taskLock = none →
      ctorRemaining p s.master.pc ≤ n →
      ∃ l s', (∀ a ∈ l, a.quiet = true) ∧ run C s l = some s' ∧ s'.master.pc = .idle := by
  induction n with
  | zero =>
    intro s hc hfree hr
    by_cases hidle : s.master.pc = .idle
    · exact ⟨[], s, nofun, rfl, hidle⟩
    · -- every stage before the return has a step left
      obtain ⟨_, -, -, hr₁, -⟩ := ctorAt_next (C := C) hp hc hidle hfree
      omega
  | succ n ih =>
    intro s hc hfree hr
    by_cases hidle : s.master.pc = .idle
    · exact ⟨[], s, nofun, rfl, hidle⟩
    · obtain ⟨s₁, hstep, hc₁, hr₁, hfree₁⟩ := ctorAt_next hp hc hidle hfree
      obtain ⟨l, s', hq, hrun, hidle'⟩ := ih hc₁ hfree₁ (by omega)
      exact ⟨.master none none :: l, s', List.forall_mem_cons.mpr ⟨rfl, hq⟩,
        by rw [run_cons_of_step hstep]; exact hrun, hidle'⟩

/-- Every quiet step keeps the constructor's stages. -/
theorem ctorAt_step {C : StateCodes} {p : ℕ} (hp : 1 ≤ p) {s s' : Sys} {a : Action}
    (hq : a.quiet = true) (hc : CtorAt p s.master s.view) (h : step C s a = some s') :
    CtorAt p s'.master s'.view := by
  simp only [step] at h
  split at h
  · cases h
  cases a with
  | call c => cases hq
  | master f wk =>
    obtain rfl : f = none := Option.isNone_iff_eq_none.mp hq
    exact (ctorAt_masterStep hp hc h).1
  | worker t q =>
    obtain ⟨hm, hv⟩ := workerStep_view h
    rw [hm, hv]
    exact hc

theorem ctorAt_run {C : StateCodes} {p : ℕ} (hp : 1 ≤ p) (l : List Action) :
    ∀ {s s' : Sys}, (∀ a ∈ l, a.quiet = true) → CtorAt p s.master s.view →
      run C s l = some s' → CtorAt p s'.master s'.view := by
  induction l with
  | nil =>
    intro s s' _ hc h
    cases h
    exact hc
  | cons a l ih =>
    intro s s' hq hc h
    obtain ⟨s₁, h₁, h₂⟩ := Option.bind_eq_some.mp h
    exact ih (fun b hb => hq b (List.mem_cons_of_mem _ hb))
      (ctorAt_step hp (hq a (List.mem_cons_self _ _)) hc h₁) h₂

/-- **`ThreadPool(p)` creates `p` workers.** With every thread creation succeeding, the
constructor's `initialize_threadpool(p)`, `p ≥ 1`, returns on some schedule (the master
running alone), and on every interleaving with the new workers' steps in which it returns, it
returns `p` with `m_pool_size = p`, and `m_main_threads` and `m_unique_threads` hold the `p`
threads it created, with the ids `masterTid + 1`, …, `masterTid + p`. -/
theorem constructor_creates_pool {C : StateCodes} {p : ℕ} (hp : 1 ≤ p) :
    (∃ l s', (∀ a ∈ l, a.quiet = true) ∧ run C Sys.init (.call (.ctor p) :: l) = some s' ∧
        s'.master.pc = .idle) ∧
      ∀ l s', (∀ a ∈ l, a.quiet = true) → run C Sys.init (.call (.ctor p) :: l) = some s' →
        s'.master.pc = .idle →
        s'.master.last = some (.returned p) ∧ s'.pool.poolSize = p ∧
          s'.pool.mainThreads = List.range' (masterTid + 1) p ∧
          s'.pool.uniqueThreads = s'.pool.mainThreads ∧
          ∀ t ∈ s'.pool.mainThreads, (s'.workers t).pc ≠ .unspawned := by
  have hcall : step C Sys.init (.call (.ctor p)) = some (Sys.init.goto (.ctor p)) := rfl
  have hc₀ : CtorAt p (Sys.init.goto (.ctor p)).master (Sys.init.goto (.ctor p)).view :=
    ⟨rfl, rfl⟩
  refine ⟨?_, fun l s' hq h hidle => ?_⟩
  · obtain ⟨l, s', hq, hrun, hidle⟩ := ctor_master_alone (C := C) hp _ hc₀ rfl le_rfl
    exact ⟨l, s', hq, by rw [run_cons_of_step hcall]; exact hrun, hidle⟩
  · rw [run_cons_of_step hcall] at h
    have hc := ctorAt_run hp l hq hc₀ h
    unfold CtorAt at hc
    rw [hidle] at hc
    obtain ⟨hlast, hv⟩ := hc
    simp only [Sys.view, ctorView, MasterView.mk.injEq] at hv
    obtain ⟨hsz, hmain, -, hu, -⟩ := hv
    -- the threads were created: `m_unique_threads` names only created threads
    have hd := ((Reachable.init.step _ hcall).run h).destroyInv
    refine ⟨hlast, hsz, hmain, hu.trans hmain.symm, fun t ht => hd.created t ?_⟩
    rwa [hu, ← hmain]

theorem constructor_creates_two_workers :
    (∃ l s', (∀ a ∈ l, a.quiet = true) ∧ run specCodes Sys.init (.call (.ctor 2) :: l) = some s' ∧
        s'.master.pc = .idle) ∧
      ∀ l s', (∀ a ∈ l, a.quiet = true) → run specCodes Sys.init (.call (.ctor 2) :: l) = some s' →
        s'.master.pc = .idle →
        s'.master.last = some (.returned 2) ∧ s'.pool.poolSize = 2 ∧
          s'.pool.mainThreads = List.range' (masterTid + 1) 2 ∧
          s'.pool.uniqueThreads = s'.pool.mainThreads ∧
          ∀ t ∈ s'.pool.mainThreads, (s'.workers t).pc ≠ .unspawned :=
  constructor_creates_pool (by decide)

end PtlThreadPool
