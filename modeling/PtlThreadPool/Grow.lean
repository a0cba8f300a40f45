import PtlThreadPool.Lifecycle

/-!
# `initialize_threadpool` grows a pool whose size is in step

After `destroy_threadpool`, `initialize_threadpool(p)` can return `p` without a worker, because
`destroy_threadpool` leaves `m_pool_size` behind (`Resize.lean`). That stale size is the only
way the call goes wrong: started with `m_pool_size == m_main_threads.size() <= p`, every run of
it that returns with every thread creation succeeded returns `p`, with `m_pool_size` at `p` and
exactly `p` workers created and not joined, whatever the workers do meanwhile
(`initialize_threadpool_grows_to_size`). The runs are those of `runInInitialize`, whose every
step starts inside the call; `GrowInv` is what each point of the call keeps.
-/

namespace PtlThreadPool

/-- The master is inside `initialize_threadpool(p)`, from its size test to its return. -/
def MasterPc.inInitialize (p : ℕ) : MasterPc → Bool
  | .initEntry n | .initCheck n | .initReserve n | .initTid n | .initFinal n | .spawn n _ _
  | .spawnCount n _ _ => n == p
  | _ => false

/-- Take the steps of a list in order, each from a state in which the master is inside
`initialize_threadpool(p)`. -/
def runInInitialize (C : StateCodes) (p : ℕ) : Sys → List Action → Option Sys
  | s, [] => some s
  | s, a :: as =>
    if s.master.pc.inInitialize p then (step C s a).bind (runInInitialize C p · as) else none

theorem Reachable.runInInitialize {C : StateCodes} {p : ℕ} {l : List Action} :
    ∀ {s s' : Sys}, Reachable C s → runInInitialize C p s l = some s' → Reachable C s' := by
  induction l with
  | nil =>
    intro s s' hs h
    cases h
    exact hs
  | cons a l ih =>
    intro s s' hs h
    simp only [PtlThreadPool.runInInitialize] at h
    split at h
    · obtain ⟨s₁, h₁, h₂⟩ := Option.bind_eq_some.mp h
      exact ih (hs.step a h₁) h₂
    · cases h

/-- What `initialize_threadpool(p)` keeps when it started with `m_pool_size` equal to
`m_main_threads.size()` and at most `p`: while no thread creation has failed, both count the
threads there are, and the spawn loop's `i` is that count. -/
def GrowInv (p : ℕ) (s : Sys) : Prop :=
  match s.master.pc with
  | .initEntry _ => s.pool.poolSize = s.pool.mainThreads.length ∧ s.pool.poolSize ≤ p
  | .initCheck _ | .initReserve _ | .initTid _ =>
    s.master.spawnFailed = false ∧ s.pool.poolSize = s.pool.mainThreads.length ∧
      s.pool.poolSize ≤ p
  | .spawn _ _ i =>
    i ≤ p ∧
      (s.master.spawnFailed = false → s.pool.poolSize = i ∧ s.pool.mainThreads.length = i)
  | .spawnCount _ _ i =>
    i < p ∧
      (s.master.spawnFailed = false → s.pool.poolSize = i ∧ s.pool.mainThreads.length = i + 1)
  | .initFinal _ =>
    s.master.spawnFailed = false → s.pool.poolSize = p ∧ s.pool.mainThreads.length = p
  | .idle =>
    s.master.spawnFailed = false →
      s.master.last = some (.returned p) ∧ s.pool.poolSize = p ∧ s.pool.mainThreads.length = p
  | .aborted => True
  | _ => False

/-- Every step of the master inside `initialize_threadpool(p)` keeps `GrowInv`: `new Thread`
adds the thread it creates to `m_main_threads` and `++m_pool_size` counts it, or a creation
that throws is recorded. -/
theorem growInv_master {p : ℕ} {s s' : Sys} {f : Option SpawnFault} {wk : Option Tid}
    (hv : VectorsAgree s) (hin : s.master.pc.inInitialize p = true) (hg : GrowInv p s)
    (h : masterStep s f wk = some s') : GrowInv p s' := by
  cases masterStep_move h
  all_goals
    rw [‹s.master.pc = _›] at hin
    simp only [GrowInv, ‹s.master.pc = _›] at hg
  all_goals have hn := (beq_iff_eq.mp hin).symm; subst hn
  case initZero =>
    -- `proposed_size < 1`: nothing to grow
    have h0 : p = 0 := by omega
    exact fun _ => ⟨by simp [Sys.finish, h0], (by omega : s.pool.poolSize = p),
      (by omega : s.pool.mainThreads.length = p)⟩
  case initStart => exact ⟨rfl, hg⟩
  case initShrink => exact absurd hg.2.2 (by omega)
  case initSame =>
    have heq : s.pool.poolSize = p := ‹_›
    exact fun _ => ⟨by simp [Sys.finish, heq], heq, hg.2.1.symm.trans heq⟩
  case initGrow | initReserve => exact hg
  case initTid => exact ⟨hg.2.2, fun _ => ⟨rfl, hg.2.1.symm⟩⟩
  case spawnThread =>
    unfold Sys.spawnThread
    split_ifs
    · exact ⟨by omega, fun hf => absurd hf (by simp)⟩
    · refine ⟨by omega, fun hf => ?_⟩
      obtain ⟨h₁, h₂⟩ := hg.2 hf
      simp [h₁, h₂]
  case countThread =>
    unfold Sys.countThread
    split_ifs
    · trivial
    · refine ⟨hg.1, fun hf => ?_⟩
      obtain ⟨h₁, h₂⟩ := hg.2 hf
      simp [h₁, h₂]
  case spawnDone =>
    -- the loop ends at `i == p`
    have hi : _ = p := Nat.le_antisymm hg.1 (by omega)
    exact fun hf => hi ▸ hg.2 hf
  case initThrow => exact absurd hv.isJoined ‹_›
  case initReturn => exact fun hf => ⟨by simp [Sys.finish, (hg hf).2], (hg hf).1, (hg hf).2⟩

/-- `GrowInv` reads only the master, `m_pool_size` and `m_main_threads`. -/
theorem GrowInv.congr {p : ℕ} {s s' : Sys} (hm : s'.master = s.master)
    (hsize : s'.pool.poolSize = s.pool.poolSize) (hmain : s'.pool.mainThreads = s.pool.mainThreads)
    (hg : GrowInv p s) : GrowInv p s' := by
  unfold GrowInv at hg ⊢
  rw [hm, hsize, hmain]
  exact hg

theorem growInv_step {C : StateCodes} {p : ℕ} {s s' : Sys} {a : Action} (hs : Reachable C s)
    (hin : s.master.pc.inInitialize p = true) (hg : GrowInv p s) (h : step C s a = some s') :
    GrowInv p s' := by
  rcases step_cases h with ⟨c, h⟩ | ⟨f, wk, h⟩ | ⟨t, q, h⟩
  · -- a call starts only between calls
    simp only [callStep] at h
    split at h
    · rw [‹s.master.pc = c.startsFrom›] at hin
      cases c <;> cases hin
    · cases h
  · exact growInv_master hs.vectorsAgree hin hg h
  · -- a worker moves neither the master nor the two counts
    obtain ⟨w, e, -, s₁, he, rfl⟩ := workerStep_eq h
    obtain ⟨-, hsize, hmain, -⟩ := Sys.applyEffect_members he
    exact hg.congr (Sys.applyEffect_facts he).1 hsize hmain

theorem growInv_run {C : StateCodes} {p : ℕ} {l : List Action} :
    ∀ {s s' : Sys}, Reachable C s → GrowInv p s → runInInitialize C p s l = some s' →
      GrowInv p s' := by
  induction l with
  | nil =>
    intro s s' _ hg h
    cases h
    exact hg
  | cons a l ih =>
    intro s s' hs hg h
    simp only [runInInitialize] at h
    split at h
    · obtain ⟨s₁, h₁, h₂⟩ := Option.bind_eq_some.mp h
      exact ih (hs.step a h₁) (growInv_step hs ‹_› hg h₁) h₂
    · cases h

/-- **`initialize_threadpool(p)` grows the pool to `p`.** From a reachable state at the start of
`initialize_threadpool(p)` in which `m_pool_size` equals `m_main_threads.size()` and is at most
`p`, every run of the call, under any interleaving with the workers, that returns with every
thread creation succeeded returns `p`, leaves `m_pool_size` and `m_main_threads.size()` at `p`,
and leaves exactly `p` threads created and not joined, those of `m_unique_threads`. -/
theorem initialize_threadpool_grows_to_size {C : StateCodes} {p : ℕ} {s s' : Sys} {l : List Action}
    (hs : Reachable C s) (hpc : s.master.pc = .initEntry p)
    (hsize : s.pool.poolSize = s.pool.mainThreads.length) (hle : s.pool.poolSize ≤ p)
    (hrun : runInInitialize C p s l = some s') (hidle : s'.master.pc = .idle)
    (hok : s'.master.spawnFailed = false) :
    s'.master.last = some (.returned p) ∧ s'.pool.poolSize = p ∧
      s'.pool.mainThreads.length = p ∧ s'.pool.uniqueThreads.length = p ∧
      s'.pool.uniqueThreads.Nodup ∧
      ∀ t, t ∈ s'.pool.uniqueThreads ↔ (s'.workers t).pc ≠ .unspawned ∧ (s'.workers t).pc ≠ .joined := by
  have hg := growInv_run hs (by simp only [GrowInv, hpc]; exact ⟨hsize, hle⟩) hrun
  simp only [GrowInv, hidle] at hg
  obtain ⟨hlast, hps, hmain⟩ := hg hok
  have hs' := hs.runInInitialize hrun
  have hd := hs'.destroyInv
  refine ⟨hlast, hps, hmain, by rw [← hs'.lifecycle.sameThreads, hmain], hd.nodup,
    fun t => ⟨fun ht => ?_, fun hl => hs'.lifecycle.owned t hl.1 hl.2⟩⟩
  exact ⟨hd.created t ht, hd.notJoined_mem (fun j => by rw [hidle]; rfl) t ht⟩

/-- `ThreadPool(0)`, then `initialize_threadpool(2)`: two iterations of the spawn loop. -/
def growTrace : List Action := List.replicate 10 (.master none none)

theorem initialize_threadpool_grows_empty_pool :
    ∃ s s', Reachable specCodes s ∧ s.master.pc = .initEntry 2 ∧
      s.pool.poolSize = s.pool.mainThreads.length ∧ s.pool.poolSize ≤ 2 ∧
      runInInitialize specCodes 2 s growTrace = some s' ∧ s'.master.pc = .idle ∧
      s'.master.spawnFailed = false ∧
      s'.master.last = some (.returned 2) ∧ s'.pool.poolSize = 2 ∧
      s'.pool.mainThreads.length = 2 ∧ s'.pool.uniqueThreads.length = 2 ∧
      s'.pool.uniqueThreads.Nodup ∧
      ∀ t, t ∈ s'.pool.uniqueThreads ↔ (s'.workers t).pc ≠ .unspawned ∧ (s'.workers t).pc ≠ .joined := by
  obtain ⟨s, hs, hp⟩ := reach_of_run (C := specCodes)
    (l := [.call (.ctor 0), .master none none, .master none none, .call (.initializeThreadpool 2)])
    (p := fun s => s.master.pc == .initEntry 2 && s.pool.poolSize == s.pool.mainThreads.length &&
      decide (s.pool.poolSize ≤ 2) && (runInInitialize specCodes 2 s growTrace).any
        fun s' => s'.master.pc == .idle && !s'.master.spawnFailed)
    (by decide)
  simp only [Bool.and_eq_true, beq_iff_eq, decide_eq_true_eq, Bool.not_eq_true',
    option_any_eq_true] at hp
  obtain ⟨⟨⟨hpc, hsize⟩, hle⟩, s', hrun, hidle, hok⟩ := hp
  exact ⟨s, s', hs, hpc, hsize, hle, hrun, hidle, hok,
    initialize_threadpool_grows_to_size hs hpc hsize hle hrun hidle hok⟩

end PtlThreadPool
