import LanguageBroker.Proofs.ServerAccounts

/-!
The way of a first start to the slot. It binds the options before it has the slot, and from then on
a restart would find a scope to make a server for. But nothing on the way makes it wait: before the
first start nobody keeps the slot, so whoever comes for it, has it in the same turn.
-/

namespace LanguageBroker

namespace Manager

/-- Before a first start has the slot nothing was made, and only the job whose turn it is may have
begun without being over. -/
structure Opening (turn : Option Duty) (m : Manager) (s : Site) : Prop where
  given : m.scope ≠ none → m.started
  begun : ∀ {j x}, m.job? j = some x → x.isStart → x.stage ≠ .fresh → ¬ x.isDone → m.started
  early : m.started = false ∨ (∃ j x, m.job? j = some x ∧ x.opens) →
    s.backends = [] ∧ m.slot = none ∧ ∀ {j x}, m.job? j = some x →
      x.stage = .fresh ∨ x.isDone ∨ turn.bind Duty.job? = some j ∧ x.comes

namespace Opening

variable {turn : Option Duty} {m n : Manager} {s t : Site} {j : JobId} {x : Job}

theorem empty (h : Opening turn m s) (hx : m.job? j = some x) (opens : x.opens) :
    m.slot = none ∧ s.backends = [] :=
  have early := h.early (.inr ⟨j, x, hx, opens⟩)
  ⟨early.2.1, early.1⟩

/-- Nothing has to wait before a first start has the slot. -/
theorem ready (h : Opening turn m s) (lined : m.Lined)
    (early : m.started = false ∨ ∃ j x, m.job? j = some x ∧ x.opens)
    (hx : m.job? j = some x) (comes : x.comes) (clock : Clock) : m.canStep clock x := by
  obtain ⟨-, -, stages⟩ := h.early early
  have begun : turn.bind Duty.job? = some j := by
    rcases stages hx with fresh | done | ⟨turn, _⟩
    · simp [Job.comes, fresh] at comes
    · cases stage : x.stage <;> simp_all [Job.isDone, Job.comes]
    · exact turn
  cases stage : x.stage with
  | binding scope => simp [canStep, stage]
  | queued =>
    -- nobody else stands in line
    have inside : j ∈ m.line := (lined.mem_line j).mpr ⟨x, hx, by simp [Job.inLine, stage]⟩
    cases line : m.line with
    | nil => simp [line] at inside
    | cons i rest =>
      obtain ⟨y, hy, waits⟩ := (lined.mem_line i).mp (by simp [line])
      have same : i = j := by
        rcases stages hy with fresh | done | ⟨turn, _⟩
        · simp [Job.inLine, Job.holds, fresh] at waits
        · cases at_stage : y.stage <;> simp_all [Job.isDone, Job.inLine, Job.holds]
        · exact Option.some.inj (turn.symm.trans begun)
      simp [canStep, stage, line, same, job?_id hx]
  | _ => simp [Job.comes, stage] at comes

/-- What holds between turns holds in every turn. -/
theorem anyTurn (h : Opening none m s) (turn : Option Duty) : Opening turn m s where
  given := h.given
  begun := h.begun
  early open' := by
    obtain ⟨none, slot, stages⟩ := h.early open'
    refine ⟨none, slot, fun hx => ?_⟩
    rcases stages hx with fresh | done | ⟨turn, _⟩
    · exact .inl fresh
    · exact .inr (.inl done)
    · simp at turn

/-- A turn ends. -/
theorem yield {duty : Duty} (h : Opening (some duty) m s) (lined : m.Lined)
    (free : m.goesOn s.clock duty = false) : Opening none m s where
  given := h.given
  begun := h.begun
  early open' := by
    obtain ⟨none, slot, stages⟩ := h.early open'
    have opening : m.isOpening := by
      simp only [isOpening, Bool.or_eq_true, Bool.not_eq_true', List.any_eq_true]
      exact open'.imp_right fun ⟨j, x, hx, opens⟩ => ⟨x, mem_of_job? hx, opens⟩
    refine ⟨none, slot, fun {j x} hx => ?_⟩
    rcases stages hx with fresh | done | ⟨turn, comes⟩
    · exact .inl fresh
    · exact .inr (.inl done)
    · have steps := h.ready lined open' hx comes s.clock
      cases duty with
      | job i =>
        obtain rfl : i = j := by simpa [Duty.job?] using turn
        simp [goesOn, opening, isReady, isMoving, Duty.job?, hx, steps, comes] at free
      | restart =>
        obtain rfl : restartJob = j := by simpa [Duty.job?] using turn
        simp [goesOn, opening, isReady, Duty.job?, hx, steps, comes] at free
      | _ => simp [Duty.job?] at turn

/-- New jobs have not begun, and forgotten ones are missed by nobody. -/
theorem aside (h : Opening turn m s) {new : Job.Task → Prop} (aside : Aside new m n)
    (site : s.SameServers t) : Opening turn n t where
  given := by
    rw [aside.scope, aside.started]
    exact h.given
  begun hx start begun live := by
    rw [aside.started]
    rcases aside.old hx with old | ⟨fresh, _⟩
    · exact h.begun old start begun live
    · exact absurd fresh begun
  early open' := by
    rw [site.backends, aside.slot]
    have before : m.started = false ∨ ∃ j x, m.job? j = some x ∧ x.opens := by
      rcases open' with unstarted | ⟨j, x, hx, opens⟩
      · exact .inl (aside.started.symm.trans unstarted)
      · rcases aside.old hx with old | ⟨fresh, _⟩
        · exact .inr ⟨j, x, old, opens⟩
        · simp [Job.opens, fresh] at opens
    obtain ⟨none, empty, stages⟩ := h.early before
    refine ⟨none, empty, fun hx => ?_⟩
    rcases aside.old hx with old | ⟨fresh, _⟩
    · exact stages old
    · exact .inl fresh

/-- Only the job whose turn it is can be on its way. -/
theorem turn_of_opens (h : Opening turn m s) (hx : m.job? j = some x) (opens : x.opens) :
    turn.bind Duty.job? = some j := by
  obtain ⟨-, -, stages⟩ := h.early (.inr ⟨j, x, hx, opens⟩)
  rcases stages hx with fresh | done | ⟨turn, _⟩
  · simp [Job.opens, fresh] at opens
  · cases stage : x.stage <;> simp_all [Job.isDone, Job.opens]
  · exact turn

/-- Before a first start no job goes beyond coming for the slot. -/
theorem stage_of_unstarted (h : Opening turn m s) (unstarted : m.started = false)
    (hx : m.job? j = some x) : x.stage = .fresh ∨ x.isDone ∨ x.comes := by
  obtain ⟨-, -, stages⟩ := h.early (.inl unstarted)
  rcases stages hx with fresh | done | ⟨_, comes⟩
  · exact .inl fresh
  · exact .inr (.inl done)
  · exact .inr (.inr comes)

/-- The job whose turn it is takes a step. -/
theorem advance {duty : Duty} {stage : Job.Stage} (h : Opening (some duty) m s)
    (turn : duty.job? = some x.id)
    (jobs : ∀ i, n.job? i = if i = x.id then some { x with stage } else m.job? i)
    (started : m.started → n.started) (given : n.scope ≠ none → n.started)
    (begun : x.isStart → ¬ Job.isDone { x with stage } → n.started)
    (early : n.started = false ∨ Job.opens { x with stage } →
      (m.started = false ∨ m.job? x.id = some x ∧ x.opens) ∧ t.backends = s.backends ∧
        n.slot = m.slot ∧ (Job.isDone { x with stage } ∨ Job.comes { x with stage })) :
    Opening (some duty) n t where
  given := given
  begun {i y} hy start fresh live := by
    rw [jobs] at hy
    split at hy
    · obtain rfl := Option.some.inj hy
      exact begun start live
    · exact started (h.begun hy start fresh live)
  early open' := by
    have here : n.started = false ∨ Job.opens { x with stage } := by
      rcases open' with unstarted | ⟨i, y, hy, opens⟩
      · exact .inl unstarted
      · rw [jobs] at hy
        split at hy
        · exact .inr (Option.some.inj hy ▸ opens)
        · next other =>
          have also := h.turn_of_opens hy opens
          exact absurd (Option.some.inj (also.symm.trans turn)) other
    obtain ⟨before, backends, slot, stage⟩ := early here
    obtain ⟨none, empty, stages⟩ := h.early
      (before.imp_right fun ⟨hx, opens⟩ => ⟨x.id, x, hx, opens⟩)
    refine ⟨backends.trans none, slot.trans empty, fun {i y} hy => ?_⟩
    rw [jobs] at hy
    split at hy
    · next same =>
      obtain rfl := Option.some.inj hy
      exact .inr (stage.imp_right fun comes => ⟨same ▸ turn, comes⟩)
    · exact stages hy

/-- After the first start jobs are free to go wherever they do not look like another one. -/
theorem advance_started {duty : Duty} {stage : Job.Stage} (h : Opening (some duty) m s)
    (turn : duty.job? = some x.id)
    (jobs : ∀ i, n.job? i = if i = x.id then some { x with stage } else m.job? i)
    (started : m.started) (still : n.started = m.started)
    (shut : Job.opens { x with stage } = false) : Opening (some duty) n t := by
  refine h.advance turn jobs still.trans (fun _ => still.trans started)
    (fun _ _ => still.trans started) ?_
  rintro (unstarted | opens)
  · exact absurd (unstarted.symm.trans (still.trans started)) (by simp)
  · exact absurd (shut.symm.trans opens) (by simp)

/-- Every step of a job keeps the way of a first start clear. -/
theorem jobStep {duty : Duty} (h : Opening (some duty) m s) (turn : duty.job? = some x.id)
    (hx : m.job? x.id = some x) (step : JobStep m s x n t) : Opening (some duty) n t := by
  have late (fresh : x.stage ≠ .fresh) (live : x.isDone = false) (gone : x.comes = false) :
      m.started := by
    by_contra unstarted
    rcases h.stage_of_unstarted (by simpa using unstarted) hx with stage | done | comes
    · exact fresh stage
    · simp [live] at done
    · simp [gone] at comes
  have filled {b : BackendId} (slot : m.slot = some b) : m.started := by
    by_contra unstarted
    have early := h.early (.inl (by simpa using unstarted))
    simp [early.2.1] at slot
  cases step with
  | bind stage task live first =>
    exact h.advance turn (job?_at rfl hx _) (fun _ => rfl) (fun _ => rfl) (fun _ _ => rfl)
      fun _ => ⟨.inl first, rfl, rfl, .inr rfl⟩
  | come stage task =>
    have other : ¬ x.isStart := by rcases task with task | task <;> simp [Job.isStart, task]
    refine h.advance turn (job?_at rfl hx _) id h.given (fun start => absurd start other) ?_
    rintro (unstarted | opens)
    · exact ⟨.inl unstarted, rfl, rfl, .inr rfl⟩
    · exact absurd opens other
  | close stage task live =>
    have other : ¬ x.isStart := by simp [Job.isStart, task]
    refine h.advance turn (job?_at rfl hx _) id h.given (fun start => absurd start other) ?_
    rintro (unstarted | opens)
    · exact ⟨.inl unstarted, rfl, rfl, .inr rfl⟩
    · exact absurd opens other
  | bound stage =>
    refine h.advance turn (job?_at rfl hx _) id h.given (fun start _ => ?_) fun _ =>
      ⟨.inr ⟨hx, by simp [Job.opens, stage]⟩, rfl, rfl, .inr rfl⟩
    exact h.begun hx start (by simp [stage]) (by simp [Job.isDone, stage])
  | launch stage head task =>
    have started : m.started := by
      rcases task with task | ⟨_, _, bound, _⟩
      · exact h.begun hx (by simp [Job.isStart, task]) (by simp [stage])
          (by simp [Job.isDone, stage])
      · exact h.given (by simp [bound])
    exact h.advance_started turn (job?_at rfl hx _) started rfl rfl
  | retire stage head task live slot =>
    exact h.advance_started turn (job?_at rfl hx _) (filled slot) rfl rfl
  | withdraw stage head task slot =>
    exact h.advance_started turn (job?_at rfl hx _) (filled slot) rfl rfl
  | relaunch stage bound =>
    exact h.advance_started turn (job?_at rfl hx _) (h.given (by simp [bound])) rfl rfl
  | create stage | uncreated stage | discard stage | retract stage | settle stage =>
    have started := late (by simp [stage]) (by simp [Job.isDone, stage])
      (by simp [Job.comes, stage])
    exact h.advance_started turn (job?_at rfl hx _) started rfl rfl
  | part stage start =>
    have started : m.started := by
      cases at_stage : x.stage <;> simp_all [Job.Stage.leaving?, Job.isDone, Job.comes]
    exact h.advance_started turn (job?_at rfl hx _) started rfl rfl
  | quit live leaving coming start closed empty =>
    refine h.advance turn (job?_at rfl hx _) id h.given (fun _ live => absurd rfl live) ?_
    rintro (unstarted | opens)
    · exact ⟨.inl unstarted, rfl, rfl, .inl rfl⟩
    · simp [Job.opens] at opens

end Opening

theorem opening_new (variant : Variant) (turn : Option Duty) (s : Site) (none : s.backends = []) :
    Opening turn (new variant) s where
  given := by simp [new]
  begun := by simp [new, job?]
  early _ := ⟨none, rfl, by simp [new, job?]⟩

end Manager

end LanguageBroker
