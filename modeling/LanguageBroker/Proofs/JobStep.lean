import LanguageBroker.Proofs.JobLine

/-!
Everything that one step of a job can do to its manager and to the site. Whatever is proved of a
manager's life is proved once for each of these changes.
-/

namespace LanguageBroker

/-- The server that shuts down while the job is at the stage. -/
def Job.Stage.leaving? : Job.Stage → Option BackendId
  | .retiring b _ | .discarding b _ _ | .withdrawing b _ => some b
  | _ => none

/-- The server that comes up while the job is at the stage. -/
def Job.Stage.coming? : Job.Stage → Option BackendId
  | .starting b _ _ => some b
  | _ => none

/-- The scope that the job is to make a server for, from its first step on. -/
def Job.aim? (x : Job) : Option Scope :=
  match x.stage, x.task with
  | .binding _, .start scope | .queued, .start scope | .launching scope, _ => some scope
  | _, _ => none

theorem Job.holds_of_coming {x : Job} {b : BackendId} (h : x.stage.coming? = some b) :
    x.holds := by
  unfold Job.Stage.coming? at h
  split at h
  · next stage => simp [Job.holds, stage]
  · simp at h

/-- May the job still make a server, also when its manager is disposed of? -/
def Job.mayMake (x : Job) : Bool :=
  match x.stage with
  | .binding _ | .retiring .. | .launching _ => true
  | .queued => x.isStart
  | _ => false

/-- How many steps a job may take from the stage on. -/
def Job.Stage.rank : Job.Stage → Nat
  | .fresh => 7
  | .binding _ => 6
  | .queued => 5
  | .retiring .. => 4
  | .launching _ => 3
  | .starting .. => 2
  | .discarding .. | .withdrawing .. => 1
  | .done _ => 0

def Job.Outcome.isFailure : Job.Outcome → Bool
  | .failed _ => true
  | _ => false

/-- Options that cannot be worked out leave no trace. -/
theorem Provider.options_error {p q : Provider} {h : Host} {e : OptionsError}
    (unread : p.options h = (q, .error e)) : q = p := by
  unfold options at unread
  split at unread
  · exact (Prod.mk.inj unread).1.symm
  · split at unread
    · exact (Prod.mk.inj unread).1.symm
    · simp at unread

/-- Options that are worked out are made for the provider's scope. -/
theorem Provider.options_ok {p q : Provider} {h : Host} {made : Options}
    (read : p.options h = (q, .ok made)) : ∃ scope inputs, p.scope = some scope ∧
      Options.make h p.variant scope = .ok (made, inputs) ∧ q = { p with seen := inputs } := by
  unfold options at read
  split at read
  · simp at read
  · next scope bound =>
    split at read
    · simp at read
    · next inputs worked =>
      simp only [Prod.mk.injEq, Except.ok.injEq] at read
      obtain ⟨rfl, rfl⟩ := read
      exact ⟨scope, inputs, bound, worked, rfl⟩

namespace Manager

inductive JobStep (m : Manager) (s : Site) (x : Job) : Manager → Site → Prop
  /-- A first start begins. -/
  | bind {scope : Scope} (stage : x.stage = .fresh) (task : x.task = .start scope)
      (live : m.disposed = false) (first : m.started = false) :
      JobStep m s x ({ m with started := true, scope := some scope }.put x.id (.binding scope)) s
  /-- A restart or a question comes for the slot. -/
  | come (stage : x.stage = .fresh) (task : x.task = .restart ∨ x.task = .lookUp) :
      JobStep m s x ((m.enqueue x.id).put x.id .queued) s
  /-- The first disposal closes the manager and comes for the slot. -/
  | close (stage : x.stage = .fresh) (task : x.task = .dispose) (live : m.disposed = false) :
      JobStep m s x (({ m.silence with disposed := true }.enqueue x.id).put x.id .queued) s
  /-- A first start has its options and comes for the slot. -/
  | bound {scope : Scope} {provider : Provider} (stage : x.stage = .binding scope)
      (binds : m.provider.bindScope s.host scope = (provider, .ok ())) :
      JobStep m s x
        (({ m with
            provider
            changes := some {}
            restarter := some ⟨s.host.quietTime, .idle⟩ }.enqueue x.id).put x.id .queued) s
  /-- A first start, or a restart that finds the slot empty, has got it. -/
  | launch {scope : Scope} (stage : x.stage = .queued) (head : m.line.head? = some x.id)
      (task : x.task = .start scope ∨
        x.task = .restart ∧ m.disposed = false ∧ m.scope = some scope ∧ m.slot = none) :
      JobStep m s x (m.put x.id (.launching scope)) s
  /-- A restart takes the server out of the slot. -/
  | retire {b : BackendId} (stage : x.stage = .queued) (head : m.line.head? = some x.id)
      (task : x.task = .restart) (live : m.disposed = false) (slot : m.slot = some b) :
      JobStep m s x ({ m with slot := none }.put x.id (.retiring b (s.beginDispose b).2))
        (s.beginDispose b).1
  /-- A disposal takes the server out of the slot. -/
  | withdraw {b : BackendId} (stage : x.stage = .queued) (head : m.line.head? = some x.id)
      (task : x.task = .dispose) (slot : m.slot = some b) :
      JobStep m s x
        (({ m with slot := none }.leave x.id).put x.id (.withdrawing b (s.beginDispose b).2))
        (s.beginDispose b).1
  /-- The old server is gone. -/
  | relaunch {b : BackendId} {due : Deadline} {scope : Scope} (stage : x.stage = .retiring b due)
      (bound : m.scope = some scope) :
      JobStep m s x (m.put x.id (.launching scope)) (s.endDispose b)
  /-- A server is made and its start is called. -/
  | create {scope : Scope} {provider : Provider} {options : Options} {b : BackendId} {t : Site}
      (stage : x.stage = .launching scope) (made : s.create m.variant scope = (t, .ok b))
      (read : m.provider.options s.host = (provider, .ok options)) :
      JobStep m s x
        ({ m with provider }.put x.id (.starting b (t.beginStart b options).2 options))
        (t.beginStart b options).1
  /-- No server could be made. -/
  | uncreated {scope : Scope} {provider : Provider} {options : Options} {e : BackendError}
      {t : Site} (stage : x.stage = .launching scope)
      (made : s.create m.variant scope = (t, .error e))
      (read : m.provider.options s.host = (provider, .ok options)) :
      JobStep m s x ({ m with provider }.finish x.id (.failed (.backend e))) t
  /-- The server did not come up. -/
  | discard {b : BackendId} {due : Deadline} {options : Options} {e : BackendError} {t : Site}
      (stage : x.stage = .starting b due options) (failed : s.endStart b options = (t, .error e)) :
      JobStep m s x (m.put x.id (.discarding b (t.beginDispose b).2 (.backend e)))
        (t.beginDispose b).1
  /-- The server came up for a manager that is disposed of. -/
  | retract {b : BackendId} {due : Deadline} {options : Options} {t : Site}
      (stage : x.stage = .starting b due options) (up : s.endStart b options = (t, .ok ()))
      (disposed : m.disposed) :
      JobStep m s x (m.put x.id (.withdrawing b (t.beginDispose b).2)) (t.beginDispose b).1
  /-- The server came up and takes the slot. -/
  | settle {b : BackendId} {due : Deadline} {options : Options} {t : Site}
      (stage : x.stage = .starting b due options) (up : s.endStart b options = (t, .ok ()))
      (live : m.disposed = false) :
      JobStep m s x ({ m with slot := some b }.finish x.id .finished) t
  /-- A server that the job shut down is gone, and the job is over. -/
  | part {b : BackendId} {o : Job.Outcome} (stage : x.stage.leaving? = some b)
      (start : x.isStart → o.isFailure) :
      JobStep m s x (m.finish x.id o) (s.endDispose b)
  /-- The job is over without having touched a server. -/
  | quit {o : Job.Outcome} {provider : Provider} (live : ¬ x.isDone)
      (leaving : x.stage.leaving? = none) (coming : x.stage.coming? = none)
      (start : x.isStart → o.isFailure)
      (closed : x.task = .dispose → x.stage = .fresh → m.disposed)
      (empty : x.task = .dispose → x.stage ≠ .fresh → m.slot = none)
      (unmade : provider = m.provider ∨ ∃ scope e, x.stage = .binding scope ∧
        m.provider.bindScope s.host scope = (provider, .error e)) :
      JobStep m s x ({ m with provider }.finish x.id o) s

variable {m : Manager} {s : Site} {x : Job}

private theorem jobStep_begin (stage : x.stage = .fresh) :
    JobStep m s x (m.beginJob s x).1 (m.beginJob s x).2 := by
  have quits (o : Job.Outcome) (start : x.isStart → o.isFailure)
      (closed : x.task = .dispose → m.disposed) : JobStep m s x (m.finish x.id o) s :=
    .quit (by simp [Job.isDone, stage]) (by simp [stage, Job.Stage.leaving?])
      (by simp [stage, Job.Stage.coming?]) start (fun task _ => closed task)
      (fun _ other => absurd stage other) (.inl rfl)
  unfold beginJob
  split
  · next scope task =>
    split
    · exact quits _ (fun _ => rfl) (by simp [task])
    · split
      · exact quits _ (fun _ => rfl) (by simp [task])
      · next live first => exact .bind stage task (by simpa using live) (by simpa using first)
  · next task => exact .come stage (.inl task)
  · next task => exact .come stage (.inr task)
  · next task =>
    split
    · next closed => exact quits _ (by simp [Job.isStart, task]) (fun _ => closed)
    · next live => exact .close stage task (by simpa using live)

private theorem jobStep_bind {scope : Scope} (stage : x.stage = .binding scope) (fits : x.fits) :
    JobStep m s x (m.bindOptions s x scope).1 (m.bindOptions s x scope).2 := by
  have task : x.task ≠ .dispose := by
    intro task
    simp [Job.fits, stage, task] at fits
  unfold bindOptions
  split
  · next provider e unread =>
    exact .quit (by simp [Job.isDone, stage]) (by simp [stage, Job.Stage.leaving?])
      (by simp [stage, Job.Stage.coming?]) (fun _ => rfl) (fun h => absurd h task)
      (fun h => absurd h task) (.inr ⟨scope, e, stage, unread⟩)
  · next binds => exact .bound stage binds

private theorem jobStep_enter (stage : x.stage = .queued) (head : m.line.head? = some x.id) :
    JobStep m s x (m.enter s x).1 (m.enter s x).2 := by
  have quits (o : Job.Outcome) (start : ¬ x.isStart) (empty : x.task = .dispose → m.slot = none) :
      JobStep m s x (m.finish x.id o) s :=
    .quit (by simp [Job.isDone, stage]) (by simp [stage, Job.Stage.leaving?])
      (by simp [stage, Job.Stage.coming?]) (fun h => absurd h start) (by simp [stage])
      (fun task _ => empty task) (.inl rfl)
  unfold enter
  split
  · next scope task => exact .launch stage head (.inl task)
  · next task =>
    split
    · exact quits _ (by simp [Job.isStart, task]) (by simp [task])
    · next live =>
      split
      · exact quits _ (by simp [Job.isStart, task]) (by simp [task])
      · next scope bound slot =>
        exact .launch stage head (.inr ⟨task, by simpa using live, bound, slot⟩)
      · next b _ slot => exact .retire stage head task (by simpa using live) slot
  · next task => exact quits _ (by simp [Job.isStart, task]) (by simp [task])
  · next task =>
    split
    · next empty => exact quits _ (by simp [Job.isStart, task]) (fun _ => empty)
    · next b slot => exact .withdraw stage head task slot

private theorem jobStep_launch {scope : Scope} (stage : x.stage = .launching scope)
    (fits : x.fits) : JobStep m s x (m.launch s x scope).1 (m.launch s x scope).2 := by
  have task : x.task ≠ .dispose := by
    intro task
    simp [Job.fits, stage, task] at fits
  unfold launch
  split
  · next unread =>
    exact .quit (by simp [Job.isDone, stage]) (by simp [stage, Job.Stage.leaving?])
      (by simp [stage, Job.Stage.coming?]) (fun _ => rfl) (fun h => absurd h task)
      (fun h => absurd h task) (.inl (Provider.options_error unread))
  · next read =>
    dsimp only
    split
    · next made => exact .uncreated stage made read
    · next made => exact .create stage made read

private theorem jobStep_arrive {b : BackendId} {due : Deadline} {options : Options}
    (stage : x.stage = .starting b due options) :
    JobStep m s x (m.arrive s x b options).1 (m.arrive s x b options).2 := by
  unfold arrive
  split
  · next failed => exact .discard stage failed
  · next up =>
    split
    · next closed => exact .retract stage up closed
    · next live => exact .settle stage up (by simpa using live)

/-- A job that can take a step takes one of those. -/
theorem jobStep_stepJob (fits : x.fits) (ready : m.canStep s.clock x) :
    JobStep m s x (m.stepJob s x).1 (m.stepJob s x).2 := by
  unfold stepJob
  split
  · next stage => exact jobStep_begin stage
  · next scope stage => exact jobStep_bind stage fits
  · next stage => exact jobStep_enter stage (by simpa [canStep, stage] using ready)
  · next b due stage =>
    have restart : ¬ x.isStart := by
      intro start
      cases task : x.task <;> simp_all [Job.fits, Job.isStart]
    split
    · next scope bound => exact .relaunch stage bound
    · exact .part (by simp [stage, Job.Stage.leaving?]) (fun h => absurd h restart)
  · next scope stage => exact jobStep_launch stage fits
  · next b due options stage => exact jobStep_arrive stage
  · next b due cause stage => exact .part (by simp [stage, Job.Stage.leaving?]) (fun _ => rfl)
  · next b due stage =>
    have ended : ∃ o, m.withdrawn x = m.finish x.id o ∧ (x.isStart → o.isFailure) := by
      unfold withdrawn
      split
      · next task => exact ⟨_, rfl, by simp [Job.isStart, task]⟩
      · exact ⟨_, rfl, fun _ => rfl⟩
    obtain ⟨o, same, start⟩ := ended
    rw [same]
    exact .part (by simp [stage, Job.Stage.leaving?]) start
  · next o stage => simp [canStep, stage] at ready

/-- What the stage that a step leads to has to do with the one before. -/
structure Advance (m n : Manager) (x : Job) (stage : Job.Stage) : Prop where
  nearer : stage.rank < x.stage.rank
  /-- All other jobs stay where they are. -/
  jobs : n.jobs = (m.put x.id stage).jobs
  refused : m.disposed → x.isStart → ∀ o, stage = .done o → o.isFailure
  makes : m.disposed → x.mayMake = false → Job.mayMake { x with stage } = false
  comes : x.task = .dispose → x.stage = .fresh → m.disposed = false → stage = .queued
  brings : x.mayMake = false → stage.coming? = none
  aims : ∀ scope, Job.aim? { x with stage } = some scope →
    x.aim? = some scope ∨ n.scope = some scope

theorem JobStep.advance {n : Manager} {t : Site} (step : JobStep m s x n t) :
    ∃ stage, Advance m n x stage := by
  cases step with
  | @bind scope stage task live first =>
    refine ⟨.binding scope, by simp [stage, Job.Stage.rank], rfl, by simp, ?_, by simp [task],
      fun _ => rfl, by simp [Job.aim?, task, put]⟩
    simp [live]
  | come stage task =>
    refine ⟨.queued, by simp [stage, Job.Stage.rank], rfl, by simp, fun _ _ => ?_, by simp,
      fun _ => rfl, ?_⟩
    · rcases task with task | task <;> simp [Job.mayMake, Job.isStart, task]
    · rcases task with task | task <;> simp [Job.aim?, task]
  | close stage task live =>
    exact ⟨.queued, by simp [stage, Job.Stage.rank], rfl, by simp, by simp [live], by simp,
      fun _ => rfl, by simp [Job.aim?, task]⟩
  | bound stage =>
    refine ⟨.queued, by simp [stage, Job.Stage.rank], rfl, by simp, by simp [Job.mayMake, stage],
      by simp, fun _ => rfl, fun scope aim => .inl ?_⟩
    cases task : x.task <;> simp_all [Job.aim?]
  | @launch scope stage head task =>
    refine ⟨.launching scope, by simp [stage, Job.Stage.rank], rfl, by simp, ?_, by simp [stage],
      fun _ => rfl, ?_⟩
    · rcases task with task | ⟨task, live, _⟩
      · simp [Job.mayMake, Job.isStart, stage, task]
      · simp [live]
    · rintro aim ⟨⟩
      rcases task with task | ⟨_, _, bound, _⟩
      · exact .inl (by simp [Job.aim?, stage, task])
      · exact .inr bound
  | @retire b stage head task live slot =>
    exact ⟨.retiring b _, by simp [stage, Job.Stage.rank], rfl, by simp, by simp [live],
      by simp [stage], fun _ => rfl, by simp [Job.aim?]⟩
  | @withdraw b stage head task slot =>
    exact ⟨.withdrawing b _, by simp [stage, Job.Stage.rank], rfl, by simp,
      by simp [Job.mayMake], by simp [stage], fun _ => rfl, by simp [Job.aim?]⟩
  | @relaunch b due scope stage bound =>
    exact ⟨.launching scope, by simp [stage, Job.Stage.rank], rfl, by simp,
      by simp [Job.mayMake, stage], by simp [stage], fun _ => rfl, by simp [Job.aim?, put, bound]⟩
  | create stage made =>
    exact ⟨_, by simp [stage, Job.Stage.rank], rfl, by simp, by simp [Job.mayMake, stage],
      by simp [stage], by simp [Job.mayMake, stage], by simp [Job.aim?]⟩
  | @uncreated scope provider options e t' stage made =>
    refine ⟨.done _, by simp [stage, Job.Stage.rank], rfl, fun _ _ o same => ?_,
      by simp [Job.mayMake, stage], by simp [stage], fun _ => rfl, by simp [Job.aim?]⟩
    obtain rfl : .failed (.backend e) = o := by simpa using same
    rfl
  | discard stage failed =>
    exact ⟨_, by simp [stage, Job.Stage.rank], rfl, by simp, by simp [Job.mayMake],
      by simp [stage], fun _ => rfl, by simp [Job.aim?]⟩
  | retract stage up disposed =>
    exact ⟨_, by simp [stage, Job.Stage.rank], rfl, by simp, by simp [Job.mayMake],
      by simp [stage], fun _ => rfl, by simp [Job.aim?]⟩
  | settle stage up live =>
    exact ⟨_, by simp [stage, Job.Stage.rank], rfl, by simp [live], by simp [live],
      by simp [stage], fun _ => rfl, by simp [Job.aim?]⟩
  | @part b o stage start =>
    refine ⟨.done o, ?_, rfl, fun _ first o' same => ?_, by simp [Job.mayMake], ?_,
      fun _ => rfl, by simp [Job.aim?]⟩
    · cases at_stage : x.stage <;> simp_all [Job.Stage.leaving?, Job.Stage.rank]
    · obtain rfl : o = o' := by simpa using same
      exact start first
    · intro _ fresh
      simp [fresh, Job.Stage.leaving?] at stage
  | @quit o provider live leaving coming start closed empty =>
    refine ⟨.done o, ?_, rfl, fun _ first o' same => ?_, by simp [Job.mayMake], ?_,
      fun _ => rfl, by simp [Job.aim?]⟩
    · cases at_stage : x.stage <;> simp_all [Job.isDone, Job.Stage.rank]
    · obtain rfl : o = o' := by simpa using same
      exact start first
    · intro task fresh open'
      simp [closed task fresh] at open'

/-- Only a disposal that begins makes a difference to whether its manager is disposed of. -/
theorem JobStep.disposed_cases {n : Manager} {t : Site} (step : JobStep m s x n t) :
    n.disposed = m.disposed ∨ x.task = .dispose ∧ x.stage = .fresh ∧ n.disposed := by
  cases step with
  | close stage task live => exact .inr ⟨task, stage, rfl⟩
  | _ => exact .inl rfl

/-- Only a first start that begins binds the manager to a scope. -/
theorem JobStep.scope {n : Manager} {t : Site} (step : JobStep m s x n t) :
    n.scope = m.scope ∨ ∃ scope, n.scope = some scope ∧ x.task = .start scope ∧
      x.stage = .fresh := by
  cases step with
  | bind stage task => exact .inr ⟨_, rfl, task, stage⟩
  | _ => exact .inl rfl

theorem JobStep.nextJob {n : Manager} {t : Site} (step : JobStep m s x n t) :
    n.nextJob = m.nextJob := by
  cases step <;> rfl

theorem JobStep.disposed_of_dispose {n : Manager} {t : Site} (step : JobStep m s x n t)
    (task : x.task = .dispose) (fresh : x.stage = .fresh) : n.disposed := by
  cases step with
  | bind stage task' => simp [task'] at task
  | come stage task' => rcases task' with task' | task' <;> simp [task'] at task
  | close => rfl
  | part stage start => simp [fresh, Job.Stage.leaving?] at stage
  | quit live leaving coming start closed empty => exact closed task fresh
  | bound stage | launch stage | retire stage | withdraw stage | relaunch stage | create stage
  | uncreated stage | discard stage | retract stage | settle stage => simp [fresh] at stage

/-- A manager that is disposed of stays so. -/
theorem JobStep.disposed {n : Manager} {t : Site} (step : JobStep m s x n t)
    (disposed : m.disposed) : n.disposed := by
  rcases step.disposed_cases with same | ⟨_, _, closed⟩
  · exact same.trans disposed
  · exact closed

/-- After the disposal of a manager whose slot is empty, jobs that have not got the slot touch no
server. They come for the slot or are over. -/
theorem JobStep.after_disposal {n : Manager} {t : Site} (step : JobStep m s x n t)
    (disposed : m.disposed) (empty : m.slot = none)
    (waits : x.stage = .fresh ∨ x.stage = .queued ∧ ¬ x.isStart) :
    t = s ∧ n.slot = none ∧ ∃ stage : Job.Stage, n.jobs = (m.put x.id stage).jobs ∧
      (Job.isDone { x with stage } ∨ stage = .queued ∧ ¬ x.isStart) := by
  cases step with
  | bind stage task live first => simp [live] at disposed
  | come stage task =>
    have other : ¬ x.isStart := by rcases task with task | task <;> simp [Job.isStart, task]
    exact ⟨rfl, empty, .queued, rfl, .inr ⟨rfl, other⟩⟩
  | close stage task live => simp [live] at disposed
  | launch stage head task =>
    rcases task with task | ⟨_, live, _⟩
    · have start : x.isStart := by simp [Job.isStart, task]
      simp [stage, start] at waits
    · simp [live] at disposed
  | retire stage head task live slot => simp [live] at disposed
  | withdraw stage head task slot => simp [slot] at empty
  | part stage start =>
    rcases waits with fresh | ⟨queued, _⟩
    · simp [fresh, Job.Stage.leaving?] at stage
    · simp [queued, Job.Stage.leaving?] at stage
  | @quit o provider live leaving coming start closed empty' =>
    exact ⟨rfl, empty, .done o, rfl, .inl rfl⟩
  | bound stage | relaunch stage | create stage | uncreated stage | discard stage | retract stage
  | settle stage => simp [stage] at waits

/-- Every step keeps the jobs and the line in order. -/
theorem Lined.jobStep {n : Manager} {t : Site} (h : m.Lined) (hx : m.job? x.id = some x)
    (step : JobStep m s x n t) : n.Lined := by
  have fits := h.fits hx
  have first := h.first hx
  cases step with
  | @bind scope stage task live _ =>
    have bound := h.congr (n := { m with started := true, scope := some scope }) rfl rfl rfl
    refine bound.put hx ?_ ?_ ?_
    · simp [Job.fits, task]
    · simp [Job.inLine, Job.holds, stage]
    · simp [Job.holds]
  | come stage task => exact h.join hx (by simp [Job.inLine, Job.holds, stage])
  | close stage task live =>
    have closed := h.congr (n := { m.silence with disposed := true }) rfl rfl rfl
    exact closed.join hx (by simp [Job.inLine, Job.holds, stage])
  | @bound scope provider stage =>
    have bound := h.congr (n := { m with
      provider, changes := some {}, restarter := some ⟨s.host.quietTime, .idle⟩ }) rfl rfl rfl
    exact bound.join hx (by simp [Job.inLine, Job.holds, stage])
  | launch stage head task =>
    refine h.put hx ?_ ?_ fun _ => head
    · rcases task with task | ⟨task, _⟩ <;> simp [Job.fits, task]
    · simp [Job.inLine, Job.holds, stage]
  | retire stage head task live slot =>
    have emptied := h.congr (n := { m with slot := none }) rfl rfl rfl
    refine emptied.put hx ?_ ?_ fun _ => head
    · simp [Job.fits, task]
    · simp [Job.inLine, Job.holds, stage]
  | withdraw stage head task slot =>
    have emptied := h.congr (n := { m with slot := none }) rfl rfl rfl
    refine emptied.depart hx ?_ ?_
    · simp [Job.fits, task]
    · simp [Job.inLine, Job.holds, task]
  | relaunch stage bound =>
    refine h.put hx ?_ ?_ fun _ => first (by simp [Job.holds, stage])
    · cases task : x.task <;> simp_all [Job.fits]
    · simp [Job.inLine, Job.holds, stage]
  | @create scope provider options b t' stage made =>
    have asked := h.congr (n := { m with provider }) rfl rfl rfl
    refine asked.put hx ?_ ?_ fun _ => first (by simp [Job.holds, stage])
    · cases task : x.task <;> simp_all [Job.fits]
    · simp [Job.inLine, Job.holds, stage]
  | @uncreated scope provider options e t' stage made =>
    exact (h.congr (n := { m with provider }) rfl rfl rfl).finish hx _
  | discard stage failed =>
    refine h.put hx ?_ ?_ fun _ => first (by simp [Job.holds, stage])
    · cases task : x.task <;> simp_all [Job.fits]
    · simp [Job.inLine, Job.holds, stage]
  | retract stage up disposed =>
    refine h.put hx ?_ ?_ fun _ => first (by simp [Job.holds, stage])
    · cases task : x.task <;> simp_all [Job.fits]
    · cases task : x.task <;> simp_all [Job.fits, Job.inLine, Job.holds]
  | @settle b due options t' stage up live =>
    exact (h.congr (n := { m with slot := some b }) rfl rfl rfl).finish hx _
  | part stage start => exact h.finish hx _
  | @quit o provider live leaving coming start closed empty =>
    exact (h.congr (n := { m with provider }) rfl rfl rfl).finish hx _

end Manager

end LanguageBroker
