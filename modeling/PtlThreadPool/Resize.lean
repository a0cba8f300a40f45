import PtlThreadPool.Shutdown

/-!
# Growing and shrinking the pool

`initialize_threadpool(p)` on a started pool either returns at once (`m_pool_size == p`),
spawns the missing workers, or shrinks: `while(stop_thread() > proposed_size)`. Each
`stop_thread` pushes a stop token and drains `m_stop_threads`, the workers that took a token
in the `PARTIAL` branch of `leave_pool`.

* `shrinkStuck_run` — no code stores `PARTIAL` (`Inv.notPartial`), so no worker takes a token,
  and from any reachable state inside the shrink loop with more than `p` workers no run ever
  leaves the loop (`shrink_loop_never_returns`).
* `stepWithPartial` — the step relation with a store of `PARTIAL` allowed at any step. There
  the loop pushes a token on every round, acknowledged or not, and more workers leave than
  the shrink asks for (`shrink_with_partial_overshoots`).
* `thread_vectors_agree` — `m_main_threads`, `m_is_joined` and `m_unique_threads` always have
  one length, so the size checks of `initialize_threadpool` and `destroy_threadpool` never
  throw.
* `destroy_threadpool` clears the thread vectors and not `m_pool_size`, so the sizes disagree
  after it (`destroy_threadpool_leaves_pool_size`), and a later `initialize_threadpool(p)`
  with the old size returns `p` without spawning (`initialize_after_destroy_spawns_nothing`).
-/

namespace PtlThreadPool

/-! ## The shrink loop without `PARTIAL` -/

/-- The master is in the loop `while(stop_thread() > proposed_size)` of
`initialize_threadpool(p)`. -/
def MasterPc.inShrinkLoop (p : ℕ) : MasterPc → Bool
  | .stopEntry (.shrink n) | .stopPost (.shrink n) | .stopDrain (.shrink n) => n == p
  | _ => false

theorem MasterPc.inShrinkLoop_iff {p : ℕ} {pc : MasterPc} :
    pc.inShrinkLoop p = true ↔
      pc = .stopEntry (.shrink p) ∨ pc = .stopPost (.shrink p) ∨ pc = .stopDrain (.shrink p) := by
  cases pc <;> try (rename_i c; cases c)
  all_goals simp [MasterPc.inShrinkLoop]

/-- The shrink loop of `initialize_threadpool(p)` on a live pool of more than `p` workers. -/
structure ShrinkStuck (p : ℕ) (s : Sys) : Prop where
  /-- the master is in the loop -/
  loop : s.master.pc.inShrinkLoop p = true
  /-- `m_alive_flag` is set -/
  alive : s.pool.aliveFlag = true
  /-- `m_pool_size > p` -/
  poolSize : p < s.pool.poolSize
  /-- `m_main_threads.size() > p` -/
  mainThreads : p < s.pool.mainThreads.length

theorem Sys.stopReturn_shrink_of_lt (s : Sys) {p r : ℕ} (h : p < r) :
    s.stopReturn (.shrink p) r = s.goto (.stopEntry (.shrink p)) := by
  simp [Sys.stopReturn, h]

/-- One round of the loop: `stop_thread` pushes a token, finds no acknowledgement, and returns
the unchanged size, which is still above `p`. -/
theorem shrinkStuck_master {p : ℕ} {s s' : Sys} {f : Option SpawnFault} {wk : Option Tid}
    (hi : Inv s) (hs : ShrinkStuck p s) (h : masterStep s f wk = some s') : ShrinkStuck p s' := by
  obtain ⟨hloop, halive, hsize, hmain⟩ := hs
  cases masterStep_move h
  case stopEmpty hempty =>
    -- the pool is alive and not empty
    simp [halive, Nat.ne_of_gt (Nat.lt_of_le_of_lt (Nat.zero_le p) hsize)] at hempty
  case stopEnter c hpc _ =>
    rw [hpc] at hloop
    cases c with
    | publicCall => cases hloop
    | shrink n => exact ⟨hloop, halive, hsize, hmain⟩
  case stopPost c _ _ hpc _ h₁ =>
    -- a token and a `notify_one`
    rw [hpc] at hloop
    cases c with
    | publicCall => cases hloop
    | shrink n =>
      obtain ⟨hp, -, -, -⟩ := Sys.notifyOne_facts h₁
      exact ⟨hloop, by simpa [hp, Sys.pushStopToken] using halive,
        by simpa [hp, Sys.pushStopToken] using hsize, by simpa [hp, Sys.pushStopToken] using hmain⟩
  case stopDrain c hpc _ =>
    -- `m_stop_threads` is empty
    rw [hpc] at hloop
    cases c with
    | publicCall => cases hloop
    | shrink n =>
      obtain rfl : n = p := beq_iff_eq.mp hloop
      simp only [Sys.drainStopThreads, hi.noAcks, drainAcks_nil,
        Sys.stopReturn_shrink_of_lt _ hmain]
      exact ⟨by simp [MasterPc.inShrinkLoop], halive, hmain, hmain⟩
  all_goals simp [‹s.master.pc = _›, MasterPc.inShrinkLoop] at hloop

/-- Every step keeps the master in the shrink loop: no public call starts, a worker's step
touches nothing the loop reads, and a round of the loop changes nothing it tests. -/
theorem shrinkStuck_step {C : StateCodes} {p : ℕ} {s s' : Sys} {a : Action} (hi : Inv s)
    (hs : ShrinkStuck p s) (h : step C s a = some s') : ShrinkStuck p s' := by
  rcases step_cases h with ⟨c, h⟩ | ⟨f, wk, h⟩ | ⟨t, q, h⟩
  · simp only [callStep] at h
    split at h
    · have hloop := hs.loop
      rw [‹s.master.pc = c.startsFrom›] at hloop
      cases c <;> simp [Call.startsFrom, MasterPc.inShrinkLoop] at hloop
    · cases h
  · exact shrinkStuck_master hi hs h
  · obtain ⟨w, e, -, s₁, he, rfl⟩ := workerStep_eq h
    obtain ⟨ha, hp, hm, -⟩ := Sys.applyEffect_members he
    have hms := (Sys.applyEffect_facts he).1
    exact ⟨by simpa [hms] using hs.loop, by simpa [ha] using hs.alive,
      by simpa [hp] using hs.poolSize, by simpa [hm] using hs.mainThreads⟩

/-- **The shrink loop never returns.** From any reachable state inside the loop of
`initialize_threadpool(p)` on a live pool of more than `p` workers, every run keeps the master
in the loop with more than `p` workers. -/
theorem shrinkStuck_run {C : StateCodes} {p : ℕ} (as : List Action) :
    ∀ {s s' : Sys}, Reachable C s → ShrinkStuck p s → run C s as = some s' → ShrinkStuck p s' := by
  induction as with
  | nil =>
    intro s s' _ hs h
    cases h
    exact hs
  | cons a as ih =>
    intro s s' hr hs h
    obtain ⟨s₁, h₁, h₂⟩ := Option.bind_eq_some.mp h
    exact ih (hr.step a h₁) (shrinkStuck_step hr.inv hs h₁) h₂

/-- `ThreadPool(2)`, both workers in the main loop, then `initialize_threadpool(1)` enters the
shrink loop. -/
def shrinkTrace : List Action :=
  [.call (.ctor 2)] ++ List.replicate 11 (.master none none) ++
    List.replicate 4 (.worker 1 ⟨true, 0, false⟩) ++ List.replicate 4 (.worker 2 ⟨true, 0, false⟩) ++
    [.call (.initializeThreadpool 1), .master none none, .master none none]

theorem shrink_loop_never_returns :
    ∃ s, Reachable specCodes s ∧ s.pool.aliveFlag = true ∧ s.master.pc = .stopEntry (.shrink 1) ∧
      s.pool.poolSize = 2 ∧ (s.workers 1).pc = .waitLoop ∧ (s.workers 2).pc = .waitLoop ∧
      ∀ as s', run specCodes s as = some s' →
        s'.master.pc.inShrinkLoop 1 = true ∧ 1 < s'.pool.poolSize := by
  obtain ⟨s, hs, hp⟩ := reach_of_run (C := specCodes) (l := shrinkTrace)
    (p := fun s => s.pool.aliveFlag && s.master.pc == .stopEntry (.shrink 1) &&
      s.pool.poolSize == 2 && s.pool.mainThreads.length == 2 &&
      (s.workers 1).pc == .waitLoop && (s.workers 2).pc == .waitLoop)
    (by decide)
  simp only [Bool.and_eq_true, beq_iff_eq] at hp
  obtain ⟨⟨⟨⟨⟨halive, hpc⟩, hsize⟩, hmain⟩, hw₁⟩, hw₂⟩ := hp
  have hstuck : ShrinkStuck 1 s :=
    ⟨by simp [hpc, MasterPc.inShrinkLoop], halive, by omega, by omega⟩
  refine ⟨s, hs, halive, hpc, hsize, hw₁, hw₂, fun as s' h => ?_⟩
  have hs' := shrinkStuck_run as hs hstuck h
  exact ⟨hs'.loop, hs'.poolSize⟩

/-! ## The shrink loop with `PARTIAL` -/

/-- A step of the system, or a store of `PARTIAL` into `m_pool_state`, which no code of the
pool makes. -/
inductive PartialAction : Type where
  /-- a step of the system -/
  | act (a : Action)
  /-- `m_pool_state.store(PARTIAL)` -/
  | storePartial
  deriving DecidableEq, Repr

/-- The step relation with a store of `PARTIAL` allowed at any step. -/
def stepWithPartial (C : StateCodes) (s : Sys) : PartialAction → Option Sys
  | .act a => step C s a
  | .storePartial =>
    if s.master.pc = .aborted then none
    else some (s.setPool { s.pool with poolState := .PARTIAL })

/-- Take the steps of a list in order, stores of `PARTIAL` included. -/
def runWithPartial (C : StateCodes) : Sys → List PartialAction → Option Sys
  | s, [] => some s
  | s, a :: as => (stepWithPartial C s a).bind (runWithPartial C · as)

/-- `initialize_threadpool(1)` on a pool of two workers: the loop runs `stop_thread` twice
before any worker acknowledges, `PARTIAL` is stored, each worker takes a token and leaves,
and the third `stop_thread` drains both. -/
def partialShrinkTrace : List PartialAction :=
  (shrinkTrace ++ List.replicate 5 (Action.master none none)).map .act ++ [.storePartial] ++
    (List.replicate 5 (Action.worker 1 ⟨true, 0, false⟩) ++
      List.replicate 5 (Action.worker 2 ⟨true, 0, false⟩) ++ [Action.master none none]).map .act

theorem shrink_with_partial_overshoots :
    ∃ s, runWithPartial specCodes Sys.init partialShrinkTrace = some s ∧ s.master.pc = .idle ∧
      s.master.last = some (.returned 0) ∧ s.pool.poolSize = 0 ∧ s.pool.mainThreads = [] ∧
      s.pool.isStopped = [] ∧ s.pool.stopThreads = [] :=
  ⟨_, rfl, rfl, rfl, rfl, rfl, rfl, rfl⟩

/-! ## The thread vectors -/

/-- `m_main_threads`, `m_is_joined` and `m_unique_threads` have one entry per worker each, and
no size check of `initialize_threadpool` or `destroy_threadpool` has thrown. -/
structure VectorsAgree (s : Sys) : Prop where
  /-- `m_is_joined.size() == m_main_threads.size()` -/
  isJoined : s.pool.isJoined.length = s.pool.mainThreads.length
  /-- `m_unique_threads.size() == m_main_threads.size()` -/
  uniqueThreads : s.pool.uniqueThreads.length = s.pool.mainThreads.length
  /-- no `std::runtime_error` from a size check -/
  noThrow : s.master.last ≠ some .threw

/-- A step that leaves the three vectors alone and ends no call by throwing keeps them equal. -/
theorem VectorsAgree.of_frame {s s' : Sys} (hv : VectorsAgree s)
    (hj : s'.pool.isJoined = s.pool.isJoined) (hm : s'.pool.mainThreads = s.pool.mainThreads)
    (hu : s'.pool.uniqueThreads = s.pool.uniqueThreads)
    (hl : s'.master.last = s.master.last ∨ ∃ n, s'.master.last = some (.returned n)) :
    VectorsAgree s' := by
  refine ⟨by rw [hj, hm]; exact hv.isJoined, by rw [hu, hm]; exact hv.uniqueThreads, ?_⟩
  rcases hl with hl | ⟨n, hl⟩ <;> rw [hl]
  · exact hv.noThrow
  · simp

theorem Sys.stopReturn_last (s : Sys) (c : StopCaller) (r : ℕ) :
    (s.stopReturn c r).master.last = s.master.last ∨
      ∃ n, (s.stopReturn c r).master.last = some (.returned n) := by
  cases c <;> simp only [Sys.stopReturn] <;> (try split_ifs) <;> simp [Sys.finish, Sys.goto]

/-- `new Thread(...)` pushes the new thread on the three vectors together, or creates none. -/
theorem Sys.spawnThread_vectorsAgree {s : Sys} {p thisTid i : ℕ} {f : Option SpawnFault}
    (hv : VectorsAgree s) : VectorsAgree (s.spawnThread p thisTid i f) := by
  unfold Sys.spawnThread
  split_ifs
  · exact hv.of_frame rfl rfl rfl (.inl rfl)
  · exact ⟨by simp [hv.isJoined], by simp [hv.uniqueThreads], hv.noThrow⟩

/-- Every step of the master keeps the vectors equal: the spawn loop grows all three, the
drain of `stop_thread` finds no acknowledgement, `destroy_threadpool` clears all three, so
the size checks find nothing to throw about. -/
theorem vectorsAgree_master {s s' : Sys} {f : Option SpawnFault} {wk : Option Tid} (hi : Inv s)
    (hv : VectorsAgree s) (h : masterStep s f wk = some s') : VectorsAgree s' := by
  cases masterStep_move h
  case initZero | destroyDead => exact hv.of_frame rfl rfl rfl (.inr ⟨0, rfl⟩)
  case initSame | initReturn => exact hv.of_frame rfl rfl rfl (.inr ⟨_, rfl⟩)
  case initThrow hne | destroyThrow hne => exact absurd hv.isJoined hne
  case spawnThread => exact Sys.spawnThread_vectorsAgree hv
  case countThread =>
    unfold Sys.countThread
    split_ifs <;> exact hv.of_frame rfl rfl rfl (.inl rfl)
  case stopEmpty =>
    exact hv.of_frame (by simp) (by simp) (by simp) (Sys.stopReturn_last _ _ _)
  case stopPost h₁ =>
    obtain ⟨hp, -, hm, -⟩ := Sys.notifyOne_facts h₁
    exact hv.of_frame (by simp [hp, Sys.pushStopToken]) (by simp [hp, Sys.pushStopToken])
      (by simp [hp, Sys.pushStopToken]) (.inl (by simp [Sys.goto, hm]))
  case stopDrain =>
    exact hv.of_frame (by simp [Sys.drainStopThreads, hi.noAcks])
      (by simp [Sys.drainStopThreads, hi.noAcks]) (by simp [Sys.drainStopThreads])
      (Sys.stopReturn_last _ _ _)
  case destroyClear => exact ⟨rfl, rfl, by simp [Sys.clearThreads, Sys.finish]⟩
  all_goals exact hv.of_frame rfl rfl rfl (.inl rfl)

theorem vectorsAgree_step {C : StateCodes} {s s' : Sys} {a : Action} (hi : Inv s)
    (hv : VectorsAgree s) (h : step C s a = some s') : VectorsAgree s' := by
  rcases step_cases h with ⟨c, h⟩ | ⟨f, wk, h⟩ | ⟨t, q, h⟩
  · simp only [callStep] at h
    split at h
    · cases h
      exact hv.of_frame rfl rfl rfl (.inl rfl)
    · cases h
  · exact vectorsAgree_master hi hv h
  · obtain ⟨w, e, -, s₁, he, rfl⟩ := workerStep_eq h
    have hms := (Sys.applyEffect_facts he).1
    obtain ⟨-, -, hm, hj, hu⟩ := Sys.applyEffect_members he
    exact hv.of_frame (by simpa using hj) (by simpa using hm) (by simpa using hu)
      (.inl (by simp [hms]))

/-- The three vectors stay in step along every run. -/
theorem Reachable.vectorsAgree {C : StateCodes} {s : Sys} (hs : Reachable C s) :
    VectorsAgree s := by
  induction hs with
  | init => exact ⟨rfl, rfl, nofun⟩
  | step a hr h ih => exact vectorsAgree_step hr.inv ih h

/-- **The thread vectors always agree.** In every reachable state `m_main_threads`,
`m_is_joined` and `m_unique_threads` have the same length, and neither `initialize_threadpool`
nor `destroy_threadpool` has thrown the `std::runtime_error` of its size check. -/
theorem thread_vectors_agree {C : StateCodes} {s : Sys} (hs : Reachable C s) :
    s.pool.isJoined.length = s.pool.mainThreads.length ∧
      s.pool.uniqueThreads.length = s.pool.mainThreads.length ∧ s.master.last ≠ some .threw :=
  ⟨hs.vectorsAgree.isJoined, hs.vectorsAgree.uniqueThreads, hs.vectorsAgree.noThrow⟩

theorem thread_vectors_agree_after_destroy :
    ∃ s, Reachable specCodes s ∧ s.master.last = some (.returned 0) ∧
      s.pool.isJoined.length = s.pool.mainThreads.length ∧
      s.pool.uniqueThreads.length = s.pool.mainThreads.length ∧ s.master.last ≠ some .threw := by
  obtain ⟨s, hs, hp⟩ := reach_of_run (C := specCodes)
    (l := destroyDuringStartTrace ++ [.master none none])
    (p := fun s => s.master.last == some (.returned 0)) (by decide)
  exact ⟨s, hs, by simpa using hp, thread_vectors_agree hs⟩

/-! ## Sizes after `destroy_threadpool` -/

theorem destroy_threadpool_leaves_pool_size :
    ∃ s s', Reachable specCodes s ∧ s.master.pc = .destroyClear ∧
      step specCodes s (.master none none) = some s' ∧ s'.master.pc = .idle ∧
      s'.master.last = some (.returned 0) ∧ s'.pool.poolSize = 1 ∧ s'.pool.mainThreads = [] ∧
      s'.pool.isJoined = [] ∧ s'.pool.uniqueThreads = [] := by
  obtain ⟨s, hs, hp⟩ := reach_of_run (C := specCodes) (l := destroyDuringStartTrace)
    (p := fun s => s.master.pc == .destroyClear && (step specCodes s (.master none none)).any
      fun s' => s'.master.pc == .idle && s'.master.last == some (.returned 0) &&
        s'.pool.poolSize == 1 && s'.pool.mainThreads.isEmpty && s'.pool.isJoined.isEmpty &&
        s'.pool.uniqueThreads.isEmpty)
    (by decide)
  simp only [Bool.and_eq_true, beq_iff_eq, List.isEmpty_iff, option_any_eq_true] at hp
  obtain ⟨hpc, s', h, ⟨⟨⟨⟨⟨hidle, hlast⟩, hsize⟩, hmain⟩, hjoined⟩, hunique⟩⟩ := hp
  exact ⟨s, s', hs, hpc, h, hidle, hlast, hsize, hmain, hjoined, hunique⟩

theorem initialize_after_destroy_spawns_nothing :
    ∃ s s', Reachable specCodes s ∧ s.master.pc = .initCheck 1 ∧ s.master.spawnFailed = false ∧
      step specCodes s (.master none none) = some s' ∧ s'.master.pc = .idle ∧
      s'.master.last = some (.returned 1) ∧ s'.pool.poolSize = 1 ∧ s'.pool.mainThreads = [] ∧
      ∀ t, (s'.workers t).pc = .unspawned ∨ (s'.workers t).pc = .joined := by
  obtain ⟨s, hs, hp⟩ := reach_of_run (C := specCodes)
    (l := destroyDuringStartTrace ++ [.master none none, .call (.initializeThreadpool 1), .master none none])
    (p := fun s => s.master.pc == .initCheck 1 && !s.master.spawnFailed &&
      (step specCodes s (.master none none)).any fun s' =>
        s'.master.pc == .idle && s'.master.last == some (.returned 1) &&
        s'.pool.poolSize == 1 && s'.pool.mainThreads.isEmpty && s'.nextTid == 2 &&
        (s'.workers 0).pc == .unspawned && (s'.workers 1).pc == .joined)
    (by decide)
  simp only [Bool.and_eq_true, beq_iff_eq, Bool.not_eq_true', List.isEmpty_iff,
    option_any_eq_true] at hp
  obtain ⟨⟨hpc, hfail⟩, s', h, ⟨⟨⟨⟨⟨⟨hidle, hlast⟩, hsize⟩, hmain⟩, hnext⟩, hw₀⟩, hw₁⟩⟩ := hp
  refine ⟨s, s', hs, hpc, hfail, h, hidle, hlast, hsize, hmain, fun t => ?_⟩
  match t with
  | 0 => exact .inl hw₀
  | 1 => exact .inr hw₁
  | t + 2 =>
    have hle : s'.nextTid ≤ t + 2 := by rw [hnext]; exact Nat.le_add_left 2 t
    exact .inl (by rw [(hs.step _ h).inv.fresh (t + 2) hle]; rfl)

end PtlThreadPool
