import LanguageBroker.Proofs.ServerKeeping

/-!
What somebody outside can do to a manager: put a job away, or ask for the server or for the
disposal. Together with what happens aside this is everything besides the steps of jobs, and it
touches no server. A disposal that is on its way is put away only when a sweep is given up.
-/

namespace LanguageBroker.Manager

variable {m n : Manager} {s t : Site} {x : Job} {j : JobId} {task : Job.Task}

/-- The job is there for that task, unless it was put away. -/
structure Tasked (m : Manager) (j : JobId) (task : Job.Task) : Prop where
  other : j ≠ restartJob
  old : j < m.nextJob
  task : ∀ {x}, m.job? j = some x → x.task = task

/-- Servers are made for that scope alone. -/
structure Aims (m : Manager) (scope : Scope) : Prop where
  bound : ∀ {aim}, m.scope = some aim → aim = scope
  task : ∀ {i x aim}, m.job? i = some x → x.task = .start aim → aim = scope

/-- Nothing is left in a manager that is disposed of, or the disposal is about to see to it. -/
def Shut (m : Manager) : Prop :=
  m.disposed → m.Barren ∨ ∃ j x, m.job? j = some x ∧ x.task = .dispose ∧ x.stage = .queued

/-! Steps of jobs. -/

/-- A job of a new manager is another than before only in its stage. -/
theorem JobStep.old_job (step : JobStep m s x n t) (hx : m.job? x.id = some x) {i : JobId}
    {y : Job} (hy : n.job? i = some y) : ∃ z, m.job? i = some z ∧ y.task = z.task := by
  obtain ⟨stage, advance⟩ := step.advance
  rw [job?_of_jobs hx advance.jobs] at hy
  split at hy
  · next here =>
    obtain rfl := Option.some.inj hy
    exact ⟨x, here ▸ hx, rfl⟩
  · exact ⟨y, hy, rfl⟩

theorem Begun.jobStep (h : m.Begun) (hx : m.job? x.id = some x) (step : JobStep m s x n t) :
    n.Begun := by
  intro i y hy
  obtain ⟨z, hz, same⟩ := step.old_job hx hy
  have idle := h hz
  unfold Job.isStart at idle ⊢
  rw [same]
  exact idle

theorem Tasked.jobStep (h : m.Tasked j task) (hx : m.job? x.id = some x)
    (step : JobStep m s x n t) : n.Tasked j task where
  other := h.other
  old := step.nextJob ▸ h.old
  task hy := by
    obtain ⟨z, hz, same⟩ := step.old_job hx hy
    exact same.trans (h.task hz)

theorem Aims.jobStep {scope : Scope} (h : m.Aims scope) (hx : m.job? x.id = some x)
    (step : JobStep m s x n t) : n.Aims scope where
  bound bound := by
    rcases step.scope with same | ⟨aim, new, task, _⟩
    · exact h.bound (same ▸ bound)
    · obtain rfl := Option.some.inj (new.symm.trans bound)
      exact h.task hx task
  task hy task := by
    obtain ⟨z, hz, same⟩ := step.old_job hx hy
    exact h.task hz (same ▸ task)

/-- When a disposal gets the slot, nobody else can make a server. -/
private theorem Clear.makes_of_queued (h : m.Clear) (lined : m.Lined)
    (hx : m.job? x.id = some x) (task : x.task = .dispose) (queued : x.stage = .queued)
    {clock : Clock} (ready : m.canStep clock x) {i : JobId} {y : Job} (hy : m.job? i = some y) :
    y.mayMake = false := by
  have free := free_of_queued lined hx queued ready hy
  by_contra may
  have start : y.isStart := by
    by_contra other
    exact may (mayMake_of_free (lined.fits hy) (by simpa using other) free)
  have same : i = x.id := by
    cases stage : y.stage with
    | binding scope =>
      exact ((h.early hy (by simpa [Job.isEarly, stage] using start)).2.2 hx).symm
    | queued =>
      have head : m.line.head? = some x.id := by simpa [canStep, queued] using ready
      exact Option.some.inj ((h.next hy start stage).2.symm.trans head)
    | retiring | launching => exact absurd (by simp [Job.holds, stage]) free
    | _ => simp [Job.mayMake, stage] at may
  subst same
  obtain rfl := Option.some.inj (hx.symm.trans hy)
  simp [Job.isStart, task] at start

theorem Shut.jobStep (h : m.Shut) (clear : m.Clear) (lined : m.Lined)
    (hx : m.job? x.id = some x) {clock : Clock} (ready : m.canStep clock x)
    (step : JobStep m s x n t) : n.Shut := by
  intro disposed
  obtain ⟨stage, advance⟩ := step.advance
  have jobs := job?_of_jobs hx advance.jobs
  by_cases before : m.disposed
  · rcases h before with barren | ⟨i, y, hy, task, queued⟩
    · exact .inl (barren.jobStep before hx step)
    · by_cases here : i = x.id
      · subst here
        obtain rfl := Option.some.inj (hx.symm.trans hy)
        exact .inl (step.barren hx task queued before (free_of_queued lined hx queued ready)
          (clear.makes_of_queued lined hx task queued ready))
      · exact .inr ⟨i, y, by rw [jobs, if_neg here, hy], task, queued⟩
  · rcases step.disposed_cases with same | ⟨task, fresh, _⟩
    · exact absurd (same ▸ disposed) before
    · have queued := advance.comes task fresh (by simpa using before)
      exact .inr ⟨x.id, { x with stage }, by rw [jobs, if_pos rfl], task, queued⟩

/-! Everything else. -/

inductive Shift (lost : Prop) (m : Manager) : Manager → Prop
  | aside {n : Manager} (aside : Aside m.renews m n) : Shift lost m n
  | forget {j : JobId} (idle : ∀ x, m.job? j = some x →
      x.isDone ∨ x.task = .lookUp ∨ x.task = .dispose ∧ lost) : Shift lost m (m.forget j)
  | ask {task : Job.Task} (begun : m.Begun) (other : task = .lookUp ∨ task = .dispose) :
      Shift lost m (m.ask task).1
  /-- A first start that has failed is put away, and the disposal is asked for. -/
  | clean {j : JobId} (starting : m.Starting j) (ended : ∀ x, m.job? j = some x → x.isDone) :
      Shift lost m ((m.forget j).ask .dispose).1

theorem Begun.forget (h : m.Begun) (j : JobId) : (m.forget j).Begun :=
  fun hx => h (job?_of_forget hx)

theorem Starting.begun (h : m.Starting j) : (m.forget j).Begun := by
  intro i x hx
  by_contra start
  have same := h.only (job?_of_forget hx) (by simpa using start)
  simp [job?_forget, same] at hx

theorem Begun.ask (h : m.Begun) (lined : m.Lined) (other : ∀ scope, task ≠ .start scope) :
    (m.ask task).1.Begun := by
  intro i x hx
  rw [job?_ask lined.free] at hx
  split at hx
  · obtain rfl := Option.some.inj hx
    cases task <;> simp_all [Job.isStart]
  · exact h hx

theorem Begun.aside (h : m.Begun) (aside : Aside m.renews m n) : n.Begun := by
  intro i x hx
  rcases aside.old hx with old | ⟨_, _, task, _⟩
  · exact h old
  · simp [Job.isStart, task]

private theorem ne_start (other : task = .lookUp ∨ task = .dispose) (scope : Scope) :
    task ≠ .start scope := by
  rcases other with rfl | rfl <;> simp

/-- A job that may be put away brings no server up. -/
private theorem not_coming {lost : Prop} (lined : m.Lined)
    (idle : ∀ x, m.job? j = some x → x.isDone ∨ x.task = .lookUp ∨ x.task = .dispose ∧ lost)
    (hx : m.job? j = some x) : x.stage.coming? = none := by
  have fits := lined.fits hx
  rcases idle x hx with done | task | ⟨task, _⟩ <;>
    cases stage : x.stage <;> simp_all [Job.isDone, Job.Stage.coming?, Job.fits]

private theorem has_forget (idle : ∀ x, m.job? j = some x → x.stage.coming? = none)
    (b : BackendId) : (m.forget j).Has b ↔ m.Has b := by
  refine ⟨has_of_forget, ?_⟩
  rintro (inside | ⟨i, x, hx, coming⟩)
  · exact .inl inside
  · refine .inr ⟨i, x, ?_, coming⟩
    rw [job?_forget, if_neg, hx]
    rintro rfl
    simp [idle x hx] at coming

private theorem has_ask (lined : m.Lined) (task : Job.Task) (b : BackendId) :
    (m.ask task).1.Has b ↔ m.Has b := by
  refine or_congr_right ⟨?_, ?_⟩
  · rintro ⟨i, x, hx, coming⟩
    rw [job?_ask lined.free] at hx
    split at hx
    · obtain rfl := Option.some.inj hx
      simp [Job.Stage.coming?] at coming
    · exact ⟨i, x, hx, coming⟩
  · rintro ⟨i, x, hx, coming⟩
    refine ⟨i, x, ?_, coming⟩
    rw [job?_ask lined.free, if_neg, hx]
    rintro rfl
    simp [lined.free] at hx

namespace Shift

variable {lost : Prop}

theorem mono {wider : Prop} (h : Shift lost m n) (fits : lost → wider) : Shift wider m n := by
  cases h with
  | aside aside => exact .aside aside
  | forget idle =>
    exact .forget fun x hx => (idle x hx).imp_right (Or.imp_right (And.imp_right fits))
  | ask begun other => exact .ask begun other
  | clean starting ended => exact .clean starting ended

theorem fixed (h : Shift lost m n) :
    n.variant = m.variant ∧ n.scope = m.scope ∧ n.slot = m.slot ∧ n.disposed = m.disposed ∧
      m.nextJob ≤ n.nextJob := by
  cases h with
  | aside aside => exact ⟨aside.variant, aside.scope, aside.slot, aside.disposed, aside.next⟩
  | forget => exact ⟨rfl, rfl, rfl, rfl, Nat.le_refl _⟩
  | ask => exact ⟨rfl, rfl, rfl, rfl, Nat.le_succ _⟩
  | clean => exact ⟨rfl, rfl, rfl, rfl, Nat.le_succ _⟩

theorem lined (h : Shift lost m n) (lined : m.Lined) : n.Lined := by
  cases h with
  | aside aside => exact aside.lined lined
  | forget => exact lined.forget _
  | ask => exact lined.ask _
  | clean => exact (lined.forget _).ask _

theorem clear (h : Shift lost m n) (lined : m.Lined) (clear : m.Clear) : n.Clear := by
  cases h with
  | aside aside => exact clear.aside lined aside
  | forget => exact clear.forget _
  | ask begun other => exact clear.ask lined begun (ne_start other)
  | clean starting => exact (clear.forget _).ask (lined.forget _) starting.begun (by simp)

theorem begun (h : Shift lost m n) (lined : m.Lined) (begun : m.Begun) : n.Begun := by
  cases h with
  | aside aside => exact begun.aside aside
  | forget => exact begun.forget _
  | ask _ other => exact begun.ask lined (ne_start other)
  | clean starting => exact Begun.ask starting.begun (lined.forget _) (by simp)

theorem has (h : Shift lost m n) (lined : m.Lined) (b : BackendId) : n.Has b ↔ m.Has b := by
  cases h with
  | aside aside => exact aside.has b
  | forget idle => exact has_forget (fun _ => not_coming lined idle) b
  | ask => exact has_ask lined _ b
  | @clean j _ ended =>
    have idle (x : Job) (hx : m.job? j = some x) :
        x.isDone ∨ x.task = .lookUp ∨ x.task = .dispose ∧ False := .inl (ended x hx)
    exact (has_ask (lined.forget j) _ b).trans (has_forget (fun _ => not_coming lined idle) b)

/-- A job is an old one, or it is new and has another number. -/
theorem job (h : Shift lost m n) (lined : m.Lined) {i : JobId} {x : Job}
    (hx : n.job? i = some x) : m.job? i = some x ∨
      x.stage = .fresh ∧ (i = restartJob ∨ m.nextJob ≤ i) ∧ ∀ scope, x.task ≠ .start scope := by
  cases h with
  | aside aside =>
    exact (aside.old hx).imp_right fun ⟨fresh, number, task, _⟩ => ⟨fresh, number, by simp [task]⟩
  | forget => exact .inl (job?_of_forget hx)
  | ask begun other =>
    rw [job?_ask lined.free] at hx
    split at hx
    · next here =>
      obtain rfl := Option.some.inj hx
      exact .inr ⟨rfl, .inr (Nat.le_of_eq here.symm), ne_start other⟩
    · exact .inl hx
  | clean =>
    rw [job?_ask (lined.forget _).free] at hx
    split at hx
    · next here =>
      obtain rfl := Option.some.inj hx
      exact .inr ⟨rfl, .inr (Nat.le_of_eq here.symm), by simp⟩
    · exact .inl (job?_of_forget hx)

theorem aims {scope : Scope} (h : Shift lost m n) (lined : m.Lined) (aims : m.Aims scope) :
    n.Aims scope where
  bound bound := aims.bound (h.fixed.2.1 ▸ bound)
  task {i x aim} hx task := by
    rcases h.job lined hx with old | ⟨_, _, other⟩
    · exact aims.task old task
    · exact absurd task (other aim)

theorem tasked (h : Shift lost m n) (lined : m.Lined) (tasked : m.Tasked j task) :
    n.Tasked j task where
  other := tasked.other
  old := Nat.lt_of_lt_of_le tasked.old h.fixed.2.2.2.2
  task hx := by
    rcases h.job lined hx with old | ⟨_, zero | late, _⟩
    · exact tasked.task old
    · exact absurd zero tasked.other
    · exact absurd tasked.old (Nat.not_lt.mpr late)

theorem barren (h : Shift lost m n) (lined : m.Lined) (barren : m.Barren) : n.Barren where
  has b has := barren.has b ((h.has lined b).mp has)
  makes hx := by
    rcases h.job lined hx with old | ⟨fresh, _⟩
    · exact barren.makes old
    · exact mayMake_of_fresh fresh

theorem quiet (h : Shift lost m n) (lined : m.Lined) (quiet : m.Quiet) : n.Quiet where
  toBarren := h.barren lined quiet.toBarren
  disposed := h.fixed.2.2.2.1.trans quiet.disposed

/-- A job that is not over stays, unless it asks for the server. -/
theorem kept (h : Shift False m n) (lined : m.Lined) (hx : m.job? j = some x) (busy : ¬ x.isDone)
    (other : x.task ≠ .lookUp) : n.job? j = some x := by
  have stays {i : JobId} (idle : ∀ y, m.job? i = some y →
      y.isDone ∨ y.task = .lookUp ∨ y.task = .dispose ∧ False) : (m.forget i).job? j = some x := by
    rw [job?_forget, if_neg, hx]
    rintro rfl
    rcases idle x hx with done | task | ⟨_, never⟩
    · exact busy done
    · exact other task
    · exact never
  have asked {k : Manager} (lined : k.Lined) (hx : k.job? j = some x) (task : Job.Task) :
      (k.ask task).1.job? j = some x := by
    rw [job?_ask lined.free, if_neg, hx]
    rintro rfl
    simp [lined.free] at hx
  cases h with
  | aside aside => exact aside.kept hx busy
  | forget idle => exact stays idle
  | ask => exact asked lined hx _
  | clean _ ended => exact asked (lined.forget _) (stays fun y hy => .inl (ended y hy)) _

theorem shut (h : Shift False m n) (lined : m.Lined) (shut : m.Shut) : n.Shut := by
  intro disposed
  rcases shut (h.fixed.2.2.2.1 ▸ disposed) with barren | ⟨i, x, hx, task, queued⟩
  · exact .inl (h.barren lined barren)
  · refine .inr ⟨i, x, h.kept lined hx ?_ (by simp [task]), task, queued⟩
    simp [Job.isDone, queued]

end Shift

/-- All that can become of a manager at once. -/
inductive Turn (lost : Prop) (s : Site) (m : Manager) : Manager → Prop
  | shift {n : Manager} (shift : Shift lost m n) : Turn lost s m n
  | step {n : Manager} {x : Job} {t : Site} {clock : Clock} (found : m.job? x.id = some x)
      (ready : m.canStep clock x) (step : JobStep m s x n t) : Turn lost s m n

namespace Turn

variable {lost : Prop}

theorem mono {wider : Prop} (h : Turn lost s m n) (fits : lost → wider) : Turn wider s m n := by
  cases h with
  | shift shift => exact .shift (shift.mono fits)
  | step found ready step => exact .step found ready step

theorem variant (h : Turn lost s m n) : n.variant = m.variant := by
  cases h with
  | shift shift => exact shift.fixed.1
  | step _ _ step => exact step.variant

theorem clear (h : Turn lost s m n) (lined : m.Lined) (clear : m.Clear) : n.Clear := by
  cases h with
  | shift shift => exact shift.clear lined clear
  | step found _ step => exact clear.jobStep lined found step

theorem begun (h : Turn lost s m n) (lined : m.Lined) (begun : m.Begun) : n.Begun := by
  cases h with
  | shift shift => exact shift.begun lined begun
  | step found _ step => exact begun.jobStep found step

theorem aims {scope : Scope} (h : Turn lost s m n) (lined : m.Lined) (aims : m.Aims scope) :
    n.Aims scope := by
  cases h with
  | shift shift => exact shift.aims lined aims
  | step found _ step => exact aims.jobStep found step

theorem tasked (h : Turn lost s m n) (lined : m.Lined) (tasked : m.Tasked j task) :
    n.Tasked j task := by
  cases h with
  | shift shift => exact shift.tasked lined tasked
  | step found _ step => exact tasked.jobStep found step

theorem quiet (h : Turn lost s m n) (lined : m.Lined) (quiet : m.Quiet) : n.Quiet := by
  cases h with
  | shift shift => exact shift.quiet lined quiet
  | step found _ step => exact quiet.jobStep found step

theorem shut (h : Turn False s m n) (lined : m.Lined) (clear : m.Clear) (shut : m.Shut) :
    n.Shut := by
  cases h with
  | shift shift => exact shift.shut lined shut
  | step found ready step => exact shut.jobStep clear lined found ready step

end Turn

/-! Jobs that have just been asked for. -/

theorem tasked_ask (lined : m.Lined) (task : Job.Task) :
    (m.ask task).1.Tasked (m.ask task).2 task where
  other := Nat.ne_of_gt lined.positive
  old := Nat.lt_succ_self _
  task {x} hx := by
    rw [job?_ask lined.free] at hx
    obtain rfl : _ = x := by simpa [ask] using hx
    rfl

private theorem job?_starting {variant : Variant} {scope : Scope} {i : JobId}
    (hx : ((new variant).ask (.start scope)).1.job? i = some x) :
    i = 1 ∧ x = { id := 1, task := .start scope } := by
  rw [job?_ask rfl] at hx
  split at hx
  · next here => exact ⟨here, (Option.some.inj hx).symm⟩
  · simp [new, job?] at hx

theorem clear_starting (variant : Variant) (scope : Scope) :
    ((new variant).ask (.start scope)).1.Clear where
  alone _ _ := rfl
  early hx _ := ⟨rfl, rfl, fun hy => (job?_starting hy).1.trans (job?_starting hx).1.symm⟩
  next hx _ queued := by simp [(job?_starting hx).2] at queued
  closed hx task := by simp [(job?_starting hx).2] at task
  aimed hx aim := by simp [(job?_starting hx).2, Job.aim?] at aim

theorem aims_starting (variant : Variant) (scope : Scope) :
    ((new variant).ask (.start scope)).1.Aims scope where
  bound bound := by simp [new, ask] at bound
  task hx task := by simpa [(job?_starting hx).2, eq_comm] using task

theorem shut_starting (variant : Variant) (scope : Scope) :
    ((new variant).ask (.start scope)).1.Shut := by
  intro disposed
  simp [new, ask] at disposed

theorem has_starting (variant : Variant) (scope : Scope) (b : BackendId) :
    ¬ ((new variant).ask (.start scope)).1.Has b := by
  rintro (inside | ⟨i, x, hx, coming⟩)
  · simp [new, ask] at inside
  · simp [(job?_starting hx).2, Job.Stage.coming?] at coming

end LanguageBroker.Manager
