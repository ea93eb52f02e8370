import LanguageBroker.Proofs.ManagerMoves

/-!
The phases of a manager that serves one activation: its first start is on its way, it is disposed
of because the start failed, and in the end it is quiet. A quiet manager makes no server any more,
whatever else its jobs do.
-/

namespace LanguageBroker

/-- Is it a question about a server's program, or is a server made or started? -/
def Happening.isToil : Happening → Bool
  | .asked .. => true
  | .backend _ .create | .backend _ (.start _) => true
  | .backend _ _ => false

/-- The questions, creations and starts so far. -/
def Site.toils (s : Site) : List (Time × Happening) := s.journal.filter fun h => h.2.isToil

namespace Site

theorem toils_noteBackend (s : Site) (b : BackendId) {e : BackendEvent}
    (idle : ∀ name, (Happening.backend name e).isToil = false) :
    (s.noteBackend b e).toils = s.toils := by
  unfold noteBackend
  split
  · simp [toils, note, idle]
  · rfl

@[simp] theorem toils_beginDispose (s : Site) (b : BackendId) :
    (s.beginDispose b).1.toils = s.toils := by
  rw [beginDispose_site]
  exact toils_noteBackend (s.modifyMiddleware b _) b fun _ => rfl

@[simp] theorem toils_endDispose (s : Site) (b : BackendId) :
    (s.endDispose b).toils = s.toils := by
  unfold endDispose
  split
  · split
    · rfl
    · exact toils_noteBackend s b fun _ => rfl
  · rfl

@[simp] theorem toils_endStart (s : Site) (b : BackendId) (options : Options) :
    (s.endStart b options).1.toils = s.toils := by
  rcases endStart_cases s b options with ⟨_, same⟩ | ⟨e, same⟩ | ⟨f, same⟩ <;> rw [same]
  · exact toils_noteBackend s b fun _ => rfl
  · exact toils_noteBackend s b fun _ => rfl

end Site

namespace Manager

variable {m n : Manager} {s t : Site} {x : Job} {j : JobId}

/-- Servers are made and started by jobs that may make one. -/
theorem JobStep.toils (step : JobStep m s x n t) (idle : x.mayMake = false) :
    t.toils = s.toils := by
  cases step with
  | bind | come | close | bound | launch | quit => rfl
  | retire | withdraw => exact Site.toils_beginDispose ..
  | relaunch | part => exact Site.toils_endDispose ..
  | create stage made => simp [Job.mayMake, stage] at idle
  | uncreated stage made => simp [Job.mayMake, stage] at idle
  | discard stage failed =>
    obtain rfl : _ = _ := congrArg Prod.fst failed
    simp
  | retract stage up disposed =>
    obtain rfl : _ = _ := congrArg Prod.fst up
    simp
  | settle stage up live =>
    obtain rfl : _ = t := congrArg Prod.fst up
    simp

/-- The first start is on its way, and nobody has called the disposal. -/
structure Starting (m : Manager) (j : JobId) : Prop where
  live : m.disposed = false
  kept : ∀ {i x}, m.job? i = some x → x.task ≠ .dispose
  only : ∀ {i x}, m.job? i = some x → x.isStart → i = j

/-- Is the server in the slot, or does it come up for a job? -/
def Has (m : Manager) (b : BackendId) : Prop :=
  m.slot = some b ∨ ∃ j x, m.job? j = some x ∧ x.stage.coming? = some b

/-- There is no server, and no job can make one. -/
structure Barren (m : Manager) : Prop where
  has : ∀ b, ¬ m.Has b
  makes : ∀ {i x}, m.job? i = some x → x.mayMake = false

/-- The first start has failed, and the disposal is on its way. -/
structure Settling (m : Manager) (j : JobId) : Prop where
  other : j ≠ restartJob
  old : j < m.nextJob
  task : ∀ {x}, m.job? j = some x → x.task = .dispose
  only : ∀ {i x}, m.job? i = some x → x.task = .dispose → i = j
  starts : ∀ {i x}, m.job? i = some x → x.isStart = false
  fresh : ∀ {x}, m.job? j = some x → x.stage = .fresh → m.disposed = false
  begun : ∀ {x}, m.job? j = some x → x.stage ≠ .fresh → m.disposed
  through : ∀ {x}, m.job? j = some x → x.stage ≠ .fresh → x.stage ≠ .queued → m.Barren

/-- The manager is disposed of and has nothing left. -/
structure Quiet (m : Manager) : Prop extends m.Barren where
  disposed : m.disposed

theorem mayMake_of_fresh (fresh : x.stage = .fresh) : x.mayMake = false := by
  simp [Job.mayMake, fresh]

/-- Other jobs than first starts need the slot for that. -/
theorem mayMake_of_free (fits : x.fits) (other : x.isStart = false) (free : ¬ x.holds) :
    x.mayMake = false := by
  obtain ⟨id, task, stage⟩ := x
  cases stage with
  | binding scope => cases task <;> simp_all [Job.fits, Job.isStart]
  | retiring | launching => simp [Job.holds] at free
  | queued => exact other
  | _ => rfl

/-! A manager without a server. -/

theorem JobStep.slot (step : JobStep m s x n t) :
    n.slot = m.slot ∨ n.slot = none ∨ n.slot = x.stage.coming? := by
  cases step with
  | retire | withdraw => exact .inr (.inl rfl)
  | settle stage => exact .inr (.inr (by rw [stage]; rfl))
  | _ => exact .inl rfl

/-- A job that may not make a server takes on none. -/
theorem JobStep.has (step : JobStep m s x n t) (hx : m.job? x.id = some x)
    (idle : x.mayMake = false) {b : BackendId} (has : n.Has b) : m.Has b := by
  rcases has with inside | ⟨i, y, hy, coming⟩
  · rcases step.slot with same | empty | up
    · exact .inl (same ▸ inside)
    · simp [empty] at inside
    · exact .inr ⟨x.id, x, hx, up ▸ inside⟩
  · obtain ⟨stage, advance⟩ := step.advance
    rw [job?_of_jobs hx advance.jobs] at hy
    split at hy
    · obtain rfl := Option.some.inj hy
      simp [advance.brings idle] at coming
    · exact .inr ⟨i, y, hy, coming⟩

theorem Barren.jobStep (h : m.Barren) (disposed : m.disposed) (hx : m.job? x.id = some x)
    (step : JobStep m s x n t) : n.Barren := by
  obtain ⟨stage, advance⟩ := step.advance
  refine ⟨fun b has => h.has b (step.has hx (h.makes hx) has), fun {i y} hy => ?_⟩
  rw [job?_of_jobs hx advance.jobs] at hy
  split at hy
  · obtain rfl := Option.some.inj hy
    exact advance.makes disposed (h.makes hx)
  · exact h.makes hy

theorem Aside.has {new : Job.Task → Prop} (aside : Aside new m n) (b : BackendId) :
    n.Has b ↔ m.Has b := by
  unfold Has
  rw [aside.slot]
  refine or_congr_right ⟨?_, ?_⟩
  · rintro ⟨i, y, hy, coming⟩
    rcases aside.old hy with old | ⟨fresh, _⟩
    · exact ⟨i, y, old, coming⟩
    · simp [fresh, Job.Stage.coming?] at coming
  · rintro ⟨i, y, hy, coming⟩
    refine ⟨i, y, aside.kept hy fun done => ?_, coming⟩
    cases stage : y.stage <;> simp_all [Job.isDone, Job.Stage.coming?]

theorem Barren.aside {new : Job.Task → Prop} (h : m.Barren) (aside : Aside new m n) :
    n.Barren where
  has b has := h.has b ((aside.has b).mp has)
  makes hx := by
    rcases aside.old hx with old | ⟨fresh, _⟩
    · exact h.makes old
    · exact mayMake_of_fresh fresh

theorem has_of_forget {b : BackendId} (has : (m.forget j).Has b) : m.Has b :=
  has.imp_right fun ⟨i, y, hy, coming⟩ => ⟨i, y, job?_of_forget hy, coming⟩

theorem Barren.forget (h : m.Barren) (j : JobId) : (m.forget j).Barren :=
  ⟨fun b has => h.has b (has_of_forget has), fun hy => h.makes (job?_of_forget hy)⟩

/-! The start is on its way. -/

theorem starting_new (variant : Variant) (scope : Scope) :
    ((new variant).ask (.start scope)).1.Starting ((new variant).ask (.start scope)).2 := by
  have only {i : JobId} {x : Job} (hx : ((new variant).ask (.start scope)).1.job? i = some x) :
      i = 1 ∧ x.task = .start scope := by
    rw [job?_ask rfl] at hx
    split at hx
    · next here =>
      obtain rfl := Option.some.inj hx
      exact ⟨here, rfl⟩
    · simp [new, job?] at hx
  refine ⟨rfl, fun hx => ?_, fun hx _ => (only hx).1⟩
  simp [(only hx).2]

theorem Starting.aside (h : m.Starting j) (aside : Aside (fun task => task.isMild) m n) :
    n.Starting j where
  live := aside.disposed.trans h.live
  kept {i x} hx := by
    rcases aside.old hx with old | ⟨_, _, mild⟩
    · exact h.kept old
    · intro task
      simp [task, Job.Task.isMild] at mild
  only {i x} hx start := by
    rcases aside.old hx with old | ⟨_, _, mild⟩
    · exact h.only old start
    · cases task : x.task <;> simp_all [Job.Task.isMild, Job.isStart]

theorem Starting.jobStep (h : m.Starting j) (hx : m.job? x.id = some x)
    (step : JobStep m s x n t) : n.Starting j := by
  obtain ⟨stage, advance⟩ := step.advance
  have jobs := job?_of_jobs hx advance.jobs
  refine ⟨?_, fun {i y} hy => ?_, fun {i y} hy start => ?_⟩
  · rcases step.disposed_cases with same | ⟨task, _⟩
    · exact same.trans h.live
    · exact absurd task (h.kept hx)
  · rw [jobs] at hy
    split at hy
    · obtain rfl := Option.some.inj hy
      exact h.kept (x := x) hx
    · exact h.kept hy
  · rw [jobs] at hy
    split at hy
    · next here =>
      obtain rfl := Option.some.inj hy
      exact here.trans (h.only (x := x) hx start)
    · exact h.only hy start

/-! The start has failed. -/

/-- The disposal of a manager in which no start and no other disposal is left is asked for. -/
theorem settling_ask (lined : m.Lined) (live : m.disposed = false)
    (old : ∀ {i y}, m.job? i = some y → y.isStart = false ∧ y.task ≠ .dispose) :
    (m.ask .dispose).1.Settling (m.ask .dispose).2 := by
  have jobs (i : JobId) := job?_ask lined.free .dispose i
  have disposal {y : Job} (hy : (m.ask .dispose).1.job? (m.ask .dispose).2 = some y) :
      { id := m.nextJob, task := .dispose } = y := by
    rw [jobs] at hy
    simpa [Manager.ask] using hy
  refine ⟨Nat.ne_of_gt lined.positive, Nat.lt_succ_self _, fun hy => ?_, fun {i y} hy task => ?_,
    fun {i y} hy => ?_, fun _ _ => live, fun hy begun => ?_, fun hy begun => ?_⟩
  · rw [← disposal hy]
  · rw [jobs] at hy
    split at hy
    · next here => exact here
    · exact absurd task (old hy).2
  · rw [jobs] at hy
    split at hy
    · obtain rfl := Option.some.inj hy
      rfl
    · exact (old hy).1
  · exact absurd (by rw [← disposal hy]) begun
  · exact absurd (by rw [← disposal hy]) begun

/-- The start is forgotten and the disposal is asked for. -/
theorem Starting.clean (h : m.Starting j) (lined : m.Lined) :
    ((m.forget j).ask .dispose).1.Settling ((m.forget j).ask .dispose).2 := by
  refine settling_ask (lined.forget j) h.live fun {i y} hy => ?_
  rw [job?_forget] at hy
  split at hy
  · simp at hy
  · next other =>
    refine ⟨?_, h.kept hy⟩
    by_contra start
    exact other (h.only hy (by simpa using start))

theorem Settling.aside (h : m.Settling j) (aside : Aside (fun task => task.isMild) m n) :
    n.Settling j := by
  have same {y : Job} (hy : n.job? j = some y) : m.job? j = some y := by
    rcases aside.old hy with old | ⟨_, zero | late, _⟩
    · exact old
    · exact absurd zero h.other
    · exact absurd h.old (Nat.not_lt.mpr late)
  refine ⟨h.other, Nat.lt_of_lt_of_le h.old aside.next, fun hy => h.task (same hy),
    fun {i y} hy task => ?_, fun {i y} hy => ?_, fun hy fresh => ?_, fun hy begun => ?_,
    fun hy begun past => (h.through (same hy) begun past).aside aside⟩
  · rcases aside.old hy with old | ⟨_, _, mild⟩
    · exact h.only old task
    · simp [task, Job.Task.isMild] at mild
  · rcases aside.old hy with old | ⟨_, _, mild⟩
    · exact h.starts old
    · cases task : y.task <;> simp_all [Job.Task.isMild, Job.isStart]
  · exact aside.disposed.trans (h.fresh (same hy) fresh)
  · rw [aside.disposed]
    exact h.begun (same hy) begun

/-- A disposal that has got the slot leaves it empty. -/
theorem JobStep.empties (step : JobStep m s x n t) (task : x.task = .dispose)
    (queued : x.stage = .queued) : n.slot = none := by
  cases step with
  | launch _ _ about => rcases about with about | ⟨about, _⟩ <;> simp [about] at task
  | withdraw | retire => rfl
  | quit _ _ _ _ _ empty => exact empty task (by simp [queued])
  | part stage => simp [queued, Job.Stage.leaving?] at stage
  | bind stage | come stage | close stage | bound stage | relaunch stage | create stage
  | uncreated stage | discard stage | retract stage | settle stage => simp [queued] at stage

/-- A disposal that has just got the slot leaves nobody with a server, if only those who had the
slot could make one. -/
theorem JobStep.barren (step : JobStep m s x n t) (hx : m.job? x.id = some x)
    (task : x.task = .dispose) (queued : x.stage = .queued) (disposed : m.disposed)
    (free : ∀ {i y}, m.job? i = some y → ¬ y.holds)
    (makes : ∀ {i y}, m.job? i = some y → y.mayMake = false) : n.Barren := by
  obtain ⟨stage, advance⟩ := step.advance
  have jobs := job?_of_jobs hx advance.jobs
  refine ⟨fun b has => ?_, fun {i y} hy => ?_⟩
  · rcases has with inside | ⟨i, y, hy, coming⟩
    · simp [step.empties task queued] at inside
    · rw [jobs] at hy
      split at hy
      · obtain rfl := Option.some.inj hy
        simp [advance.brings (makes hx)] at coming
      · exact free hy (Job.holds_of_coming coming)
  · rw [jobs] at hy
    split at hy
    · obtain rfl := Option.some.inj hy
      exact advance.makes disposed (makes hx)
    · exact makes hy

/-- Nobody has the slot when a job that waits for it gets it. -/
theorem free_of_queued (lined : m.Lined) (hx : m.job? x.id = some x) (queued : x.stage = .queued)
    {clock : Clock} (ready : m.canStep clock x) {i : JobId} {y : Job}
    (hy : m.job? i = some y) : ¬ y.holds :=
  lined.not_holds hx (by simpa [canStep, queued] using ready) (by simp [Job.holds, queued]) hy

/-- A disposal that has the slot, or is past it, leaves nobody behind who could make a server. -/
theorem Settling.jobStep (h : m.Settling j) (lined : m.Lined) (hx : m.job? x.id = some x)
    {clock : Clock} (ready : m.canStep clock x) (step : JobStep m s x n t) : n.Settling j := by
  obtain ⟨stage, advance⟩ := step.advance
  have jobs := job?_of_jobs hx advance.jobs
  refine ⟨h.other, step.nextJob ▸ h.old, fun {y} hy => ?_, fun {i y} hy task => ?_,
    fun {i y} hy => ?_, fun {y} hy fresh => ?_, fun {y} hy begun => ?_,
    fun {y} hy begun past => ?_⟩
  · rw [jobs] at hy
    split at hy
    · next here =>
      obtain rfl := Option.some.inj hy
      exact h.task (x := x) (here ▸ hx)
    · exact h.task hy
  · rw [jobs] at hy
    split at hy
    · next here =>
      obtain rfl := Option.some.inj hy
      exact here.trans (h.only (x := x) hx task)
    · exact h.only hy task
  · rw [jobs] at hy
    split at hy
    · obtain rfl := Option.some.inj hy
      exact h.starts (x := x) hx
    · exact h.starts hy
  · rw [jobs] at hy
    split at hy
    · obtain rfl := Option.some.inj hy
      have nearer := advance.nearer
      obtain rfl : stage = .fresh := fresh
      cases at_stage : x.stage <;> simp_all [Job.Stage.rank]
    · next other =>
      rcases step.disposed_cases with same | ⟨task, _⟩
      · exact same.trans (h.fresh hy fresh)
      · exact absurd (h.only hx task).symm other
  · by_cases first : x.task = .dispose ∧ x.stage = .fresh
    · exact step.disposed_of_dispose first.1 first.2
    · rw [jobs] at hy
      split at hy
      · next here =>
        have task := h.task (x := x) (here ▸ hx)
        exact step.disposed (h.begun (x := x) (here ▸ hx) fun fresh => first ⟨task, fresh⟩)
      · exact step.disposed (h.begun hy begun)
  · rw [jobs] at hy
    split at hy
    · next here =>
      obtain rfl := Option.some.inj hy
      have found : m.job? j = some x := here ▸ hx
      have task := h.task found
      by_cases fresh : x.stage = .fresh
      · exact absurd (advance.comes task fresh (h.fresh found fresh)) past
      · have disposed := h.begun found fresh
        by_cases queued : x.stage = .queued
        · have free {i : JobId} {y : Job} (hy : m.job? i = some y) : ¬ y.holds :=
            free_of_queued lined hx queued ready hy
          exact step.barren hx task queued disposed free
            fun hy => mayMake_of_free (lined.fits hy) (h.starts hy) (free hy)
        · exact (h.through found fresh queued).jobStep disposed hx step
    · have disposed := h.begun hy begun
      exact (h.through hy begun past).jobStep disposed hx step

/-- Any job may be put away. -/
theorem Settling.less (h : m.Settling j) (i : JobId) : (m.forget i).Settling j where
  other := h.other
  old := h.old
  task hx := h.task (job?_of_forget hx)
  only hx := h.only (job?_of_forget hx)
  starts hx := h.starts (job?_of_forget hx)
  fresh hx := h.fresh (job?_of_forget hx)
  begun hx := h.begun (job?_of_forget hx)
  through hx begun past := (h.through (job?_of_forget hx) begun past).forget i

/-- When the disposal is over, the manager is quiet. -/
theorem Settling.forget (h : m.Settling j) (hx : m.job? j = some x) (done : x.isDone) :
    (m.forget j).Quiet := by
  have fresh : x.stage ≠ .fresh := fun stage => by simp [Job.isDone, stage] at done
  have queued : x.stage ≠ .queued := fun stage => by simp [Job.isDone, stage] at done
  exact ⟨(h.through hx fresh queued).forget j, h.begun hx fresh⟩

/-! Nothing is left to do. -/

theorem Quiet.aside {new : Job.Task → Prop} (h : m.Quiet) (aside : Aside new m n) : n.Quiet where
  toBarren := h.toBarren.aside aside
  disposed := aside.disposed.trans h.disposed

theorem Quiet.jobStep (h : m.Quiet) (hx : m.job? x.id = some x) (step : JobStep m s x n t) :
    n.Quiet where
  toBarren := h.toBarren.jobStep h.disposed hx step
  disposed := step.disposed h.disposed

end Manager

end LanguageBroker
