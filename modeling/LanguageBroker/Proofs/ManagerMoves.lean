import LanguageBroker.Proofs.JobStep
import LanguageBroker.Proofs.ServerRecord

/-!
One manager and everything that can happen to it, in any order: its duties and jobs take turns,
time passes, jobs are asked for, announcements are heard and the surroundings change. Between two
turns anything may happen, and a turn may be as short as one step. Only until a first start has
reached the slot a job that comes for it goes on until it has to wait: the surroundings answer at
once, so nothing but the slot and the servers makes it wait. Moves that are not possible change
nothing, so every list of moves is a run.
-/

namespace LanguageBroker

/-- Is it a first start on its way to the slot? -/
def Job.opens (x : Job) : Bool :=
  match x.stage with
  | .binding _ => true
  | .queued => x.isStart
  | _ => false

/-- Does the job come for the slot? -/
def Job.comes (x : Job) : Bool :=
  match x.stage with
  | .binding _ | .queued => true
  | _ => false

/-- A provider goes on for the same variant and scope. -/
theorem Provider.act_bound (p : Provider) (h : Host) (clock : Clock) (duty : Provider.Duty) :
    (p.act h clock duty).1.variant = p.variant ∧ (p.act h clock duty).1.scope = p.scope := by
  cases duty with
  | listen => cases watch : p.watch <;> simp [act, listen, watch]
  | checkSettings => exact ⟨rfl, rfl⟩
  | checkEnvironment => cases read : h.modules p.resource <;> simp [act, checkEnvironment, read]

namespace Manager

/-- Has no first start reached the slot yet, or is one on its way? -/
def isOpening (m : Manager) : Bool := !m.started || m.jobs.any Job.opens

/-- The job that a duty takes further. -/
def Duty.job? : Duty → Option JobId
  | .job j => some j
  | .restart => some restartJob
  | _ => none

/-- Does the turn have to go on? -/
def goesOn (m : Manager) (clock : Clock) (duty : Duty) : Bool :=
  m.isOpening && m.isReady clock duty && (duty.job?.bind m.job?).any Job.comes

structure Moment where
  manager : Manager
  site : Site
  /-- Whose turn it is. -/
  turn : Option Duty := none

inductive Move
  /-- An agent that is ready has its turn. -/
  | take (duty : Duty)
  /-- Whoever has the turn takes a step. -/
  | go
  /-- Whoever has the turn has to wait, or somebody else comes first. -/
  | yield
  | wait (duration : Nat)
  /-- Somebody asks for a start, a restart, the server or the disposal. -/
  | ask (task : Job.Task)
  /-- Somebody asks for a restart after a time of rest. -/
  | restart
  | hear (event : WorkspaceEvent)
  /-- Whoever asked for a job hears how it ended. -/
  | collect (j : JobId)
  /-- The surroundings answer differently from now on, and servers behave differently. -/
  | change (host : Host) (plan : BackendName → Plan)

namespace Moment

/-- A manager that nobody has used, at a site where nothing has been made. -/
def opening (variant : Variant) (host : Host) (plan : BackendName → Plan) (clock : Clock) :
    Moment := { manager := .new variant, site := { clock, host, plan } }

def isReady (w : Moment) (duty : Duty) : Bool := w.manager.isReady w.site.clock duty

/-- A step of the one whose turn it is. -/
def act (w : Moment) (duty : Duty) : Moment :=
  let (manager, site) := w.manager.act { w.site with clock := w.site.clock.tick } duty
  { manager, site, turn := some duty }

/-- What happens between two turns. -/
def outside (w : Moment) : Move → Moment
  | .take duty => if w.isReady duty then { w with turn := some duty } else w
  | .wait duration =>
    { w with site := { w.site with clock := w.site.clock.set (w.site.clock.now + duration) } }
  | .ask task => { w with manager := (w.manager.ask task).1 }
  | .restart => { w with manager := w.manager.restart w.site.clock }
  | .hear event => { w with manager := w.manager.hear event }
  | .collect j =>
    if (w.manager.outcome? j).isSome && j != restartJob then
      { w with manager := w.manager.forget j } else w
  | .change host plan => { w with site := { w.site with host, plan } }
  | .go | .yield => w

/-- What happens in a turn. -/
def inside (w : Moment) (duty : Duty) : Move → Moment
  | .go => if w.isReady duty then w.act duty else w
  | .yield => if w.manager.goesOn w.site.clock duty then w else { w with turn := none }
  | _ => w

def move (w : Moment) (next : Move) : Moment :=
  match w.turn with
  | some duty => w.inside duty next
  | none => w.outside next

def run (w : Moment) (moves : List Move) : Moment := moves.foldl move w

@[simp] theorem run_nil (w : Moment) : w.run [] = w := rfl

@[simp] theorem run_cons (w : Moment) (next : Move) (moves : List Move) :
    w.run (next :: moves) = (w.move next).run moves := rfl

theorem run_append (w : Moment) (before after : List Move) :
    w.run (before ++ after) = (w.run before).run after := List.foldl_append ..

/-- What every move keeps holds in every run. -/
theorem run_induction {P : Moment → Prop} (keeps : ∀ w next, P w → P (w.move next)) {w : Moment}
    (start : P w) (moves : List Move) : P (w.run moves) := by
  induction moves generalizing w with
  | nil => exact start
  | cons next moves ih => exact ih (keeps w next start)

/-- Every job is over. -/
def isIdle (w : Moment) : Prop := ∀ x ∈ w.manager.jobs, x.isDone

/-- Is the server's disposal on its way? -/
def isLeaving (w : Moment) (b : BackendId) : Prop :=
  ∃ x ∈ w.manager.jobs, x.stage.leaving? = some b

end Moment

/-- Is the task a restart, and can changes lead to one at all? -/
def renews (m : Manager) (task : Job.Task) : Prop := task = .restart ∧ m.restarter ≠ none

/-- Nothing happens to the server. Jobs may be new or, when they are done, forgotten. -/
structure Aside (new : Job.Task → Prop) (m n : Manager) : Prop where
  variant : n.variant = m.variant
  started : n.started = m.started
  disposed : n.disposed = m.disposed
  scope : n.scope = m.scope
  slot : n.slot = m.slot
  old : ∀ {i x}, n.job? i = some x → m.job? i = some x ∨
    x.stage = .fresh ∧ (i = restartJob ∨ m.nextJob ≤ i) ∧ new x.task
  next : m.nextJob ≤ n.nextJob
  kept : ∀ {i x}, m.job? i = some x → ¬ x.isDone → n.job? i = some x
  lined : m.Lined → n.Lined
  line : m.Lined → n.line = m.line
  /-- Only a first start sets up what gathers changes. -/
  unready : m.restarter = none → n.restarter = none
  options : n.provider.variant = m.provider.variant ∧ n.provider.scope = m.provider.scope

namespace Aside

variable {new : Job.Task → Prop} {m n : Manager}

/-- Only the options and what gathers changes are different. -/
theorem of_jobs (started : n.started = m.started) (disposed : n.disposed = m.disposed)
    (scope : n.scope = m.scope) (slot : n.slot = m.slot) (jobs : n.jobs = m.jobs)
    (line : n.line = m.line) (next : n.nextJob = m.nextJob) (variant : n.variant = m.variant)
    (unready : m.restarter = none → n.restarter = none)
    (options : n.provider.variant = m.provider.variant ∧
      n.provider.scope = m.provider.scope := by exact ⟨rfl, rfl⟩) :
    Aside new m n where
  variant := variant
  started := started
  disposed := disposed
  scope := scope
  slot := slot
  old hx := .inl (by simpa [job?, jobs] using hx)
  next := Nat.le_of_eq next.symm
  kept hx _ := by simpa [job?, jobs] using hx
  lined h := h.congr jobs line next
  line _ := line
  unready := unready
  options := options

/-- A job is new. -/
theorem of_add {j : JobId} {task : Job.Task} (started : n.started = m.started)
    (disposed : n.disposed = m.disposed) (scope : n.scope = m.scope) (slot : n.slot = m.slot)
    (free : m.job? j = none) (jobs : n.jobs = m.jobs ++ [{ id := j, task }])
    (line : n.line = m.line) (above : j < n.nextJob) (next : m.nextJob ≤ n.nextJob)
    (number : j = restartJob ∨ m.nextJob ≤ j) (fits : new task) (variant : n.variant = m.variant)
    (unready : m.restarter = none → n.restarter = none)
    (options : n.provider.variant = m.provider.variant ∧
      n.provider.scope = m.provider.scope := by exact ⟨rfl, rfl⟩) :
    Aside new m n where
  variant := variant
  started := started
  disposed := disposed
  scope := scope
  slot := slot
  old {i x} hx := by
    rw [job?_add free jobs] at hx
    split at hx
    · next same =>
      obtain rfl := Option.some.inj hx
      exact .inr ⟨rfl, same ▸ number, fits⟩
    · exact .inl hx
  next := next
  kept {i x} hx _ := by
    rw [job?_add free jobs]
    split
    · next same =>
      subst same
      simp [free] at hx
    · exact hx
  lined h := h.add free jobs line above next
  line _ := line
  unready := unready
  options := options

/-- A job that is done is forgotten. -/
theorem of_forget {j : JobId} {x : Job} (hx : m.job? j = some x) (done : x.isDone)
    (started : n.started = m.started) (disposed : n.disposed = m.disposed)
    (scope : n.scope = m.scope) (slot : n.slot = m.slot) (jobs : n.jobs = (m.forget j).jobs)
    (line : n.line = (m.forget j).line) (next : n.nextJob = m.nextJob)
    (variant : n.variant = m.variant) (unready : m.restarter = none → n.restarter = none)
    (options : n.provider.variant = m.provider.variant ∧
      n.provider.scope = m.provider.scope := by exact ⟨rfl, rfl⟩) :
    Aside new m n where
  variant := variant
  started := started
  disposed := disposed
  scope := scope
  slot := slot
  old {i y} hy := by
    have found : (m.forget j).job? i = some y := by simpa [job?, jobs] using hy
    rw [job?_forget] at found
    split at found
    · simp at found
    · exact .inl found
  next := Nat.le_of_eq next.symm
  kept {i y} hy live := by
    have found : (m.forget j).job? i = some y := by
      rw [job?_forget]
      split
      · next same =>
        subst same
        obtain rfl := Option.some.inj (hy.symm.trans hx)
        exact absurd done live
      · exact hy
    simpa [job?, jobs] using found
  lined h := (h.forget j).congr jobs line next
  line h := by
    rw [line, forget_line, List.filter_eq_self]
    intro i inside
    obtain ⟨y, hy, waits⟩ := (h.mem_line i).mp inside
    rw [decide_eq_true_eq]
    rintro rfl
    obtain rfl := Option.some.inj (hx.symm.trans hy)
    exact Job.not_inLine_of_isDone done waits
  unready := unready
  options := options

theorem mono {wider : Job.Task → Prop} (h : Aside new m n) (fits : ∀ task, new task → wider task) :
    Aside wider m n :=
  { h with
    old := fun hx => (h.old hx).imp_right fun ⟨fresh, number, new⟩ => ⟨fresh, number, fits _ new⟩ }

/-- A restart is mild. -/
theorem mild (h : Aside m.renews m n) : Aside (fun task => task.isMild) m n :=
  h.mono fun task renews => by simp [renews.1, Job.Task.isMild]

theorem trans {o : Manager} (h : Aside new m n) (h' : Aside new n o) : Aside new m o where
  variant := h'.variant.trans h.variant
  started := h'.started.trans h.started
  disposed := h'.disposed.trans h.disposed
  scope := h'.scope.trans h.scope
  slot := h'.slot.trans h.slot
  old hx := by
    rcases h'.old hx with old | ⟨fresh, number, mild⟩
    · exact h.old old
    · exact .inr ⟨fresh, number.imp_right (Nat.le_trans h.next), mild⟩
  next := Nat.le_trans h.next h'.next
  kept hx live := h'.kept (h.kept hx live) live
  lined := h'.lined ∘ h.lined
  line lined := (h'.line (h.lined lined)).trans (h.line lined)
  unready := h'.unready ∘ h.unready
  options := ⟨h'.options.1.trans h.options.1, h'.options.2.trans h.options.2⟩

theorem renews {o : Manager} (h : Aside m.renews m n) (h' : Aside n.renews n o) :
    Aside m.renews m o :=
  h.trans (h'.mono fun _ ⟨task, ready⟩ => ⟨task, fun none => ready (h.unready none)⟩)

end Aside

variable {m : Manager} {s : Site}

/-- A job is asked for. -/
theorem Lined.asks (lined : m.Lined) {P : Job.Task → Prop} {task : Job.Task} (fits : P task) :
    Aside P m (m.ask task).1 :=
  .of_add rfl rfl rfl rfl lined.free rfl rfl (Nat.lt_succ_self _) (Nat.le_succ _)
    (.inr (Nat.le_refl _)) fits rfl id

theorem isDone_of_outcome? {j : JobId} (h : (m.outcome? j).isSome) :
    ∃ x, m.job? j = some x ∧ x.isDone := by
  unfold outcome? at h
  split at h
  · next id task o found => exact ⟨_, found, rfl⟩
  · simp at h

/-- A turn of the restart that changes lead to, or of what brings it about. -/
theorem stepRestart_cases (lined : m.Lined) (ready : m.isReady s.clock .restart) :
    (∃ x, x.id = restartJob ∧ m.job? x.id = some x ∧ m.canStep s.clock x ∧
      JobStep m s x (m.stepRestart s).1 (m.stepRestart s).2) ∨
    (Aside m.renews m (m.stepRestart s).1 ∧ (m.stepRestart s).2 = s) := by
  unfold stepRestart
  split
  · next none =>
    have gathers : m.restarter ≠ Option.none := by
      intro absent
      simp [isReady, none, absent] at ready
    exact .inr ⟨.of_add rfl rfl rfl rfl none rfl rfl lined.positive (Nat.le_refl _) (.inl rfl)
      ⟨rfl, gathers⟩ rfl fun absent => absurd absent gathers, rfl⟩
  · next x hx =>
    have id := job?_id hx
    split
    · next o stage =>
      exact .inr ⟨.of_forget hx (by simp [Job.isDone, stage]) rfl rfl rfl rfl rfl rfl rfl rfl
        fun absent => by simp [absent], rfl⟩
    · next live =>
      have steps : m.canStep s.clock x := by
        simp only [isReady, hx, Bool.or_eq_true] at ready
        rcases ready with steps | ended
        · exact steps
        · obtain ⟨y, hy, done⟩ := isDone_of_outcome? ended
          obtain rfl := Option.some.inj (hy.symm.trans hx)
          cases stage : y.stage <;> simp_all [Job.isDone]
      exact .inl ⟨x, id, id.symm ▸ hx, steps, jobStep_stepJob (lined.fits hx) steps⟩

/-- Whoever has the turn takes a job further or keeps aside. -/
theorem act_cases (lined : m.Lined) {duty : Duty} (ready : m.isReady s.clock duty) :
    (∃ x, duty.job? = some x.id ∧ m.job? x.id = some x ∧ m.canStep s.clock x ∧
      JobStep m s x (m.act s duty).1 (m.act s duty).2) ∨
    (Aside m.renews m (m.act s duty).1 ∧ (m.act s duty).2 = s) := by
  cases duty with
  | options duty =>
    exact .inr ⟨.of_jobs rfl rfl rfl rfl rfl rfl rfl rfl id (m.provider.act_bound ..), rfl⟩
  | forward =>
    exact .inr ⟨.of_jobs rfl rfl rfl rfl rfl rfl rfl rfl fun absent => by
      simp [act, Manager.restart, absent], rfl⟩
  | restart =>
    rcases stepRestart_cases lined ready with ⟨x, id, hx, steps, step⟩ | aside
    · exact .inl ⟨x, by simp [Duty.job?, id], hx, steps, step⟩
    · exact .inr aside
  | job j =>
    simp only [isReady, isMoving] at ready
    split at ready
    · next x hx =>
      obtain rfl := job?_id hx
      refine .inl ⟨x, rfl, hx, ready, ?_⟩
      simp only [act, hx]
      exact jobStep_stepJob (lined.fits hx) ready
    · simp at ready

@[simp] theorem isReady_tick (m : Manager) (clock : Clock) (duty : Duty) :
    m.isReady clock.tick duty = m.isReady clock duty := by
  cases duty <;> rfl

namespace Moment

/-- All that a move can be. -/
inductive Course (w : Moment) : Moment → Prop
  /-- The job whose turn it is takes a step. -/
  | step {v : Moment} {duty : Duty} {x : Job} (turn : w.turn = some duty)
      (job : duty.job? = some x.id) (found : w.manager.job? x.id = some x)
      (step : JobStep w.manager { w.site with clock := w.site.clock.tick } x v.manager v.site)
      (same : v.turn = some duty) : Course w v
  /-- Nothing happens to the server. -/
  | aside {v : Moment} (manager : Aside (fun _ => True) w.manager v.manager)
      (site : w.site.SameServers v.site) (turn : v.turn = w.turn ∨ w.turn = none) : Course w v
  /-- A turn is over. -/
  | ended {duty : Duty} (turn : w.turn = some duty)
      (free : w.manager.goesOn w.site.clock duty = false) :
      Course w { w with turn := none }

private theorem course_same (w : Moment) : Course w w :=
  .aside (.of_jobs rfl rfl rfl rfl rfl rfl rfl rfl id) ⟨rfl, rfl, rfl⟩ (.inl rfl)

private theorem course_act {w : Moment} (lined : w.manager.Lined) {duty : Duty}
    (turn : w.turn = some duty) (ready : w.isReady duty) : Course w (w.act duty) := by
  have steps : w.manager.isReady { w.site with clock := w.site.clock.tick }.clock duty := by
    rw [isReady_tick]
    exact ready
  rcases act_cases lined steps with ⟨x, job, found, _, step⟩ | ⟨aside, site⟩
  · exact .step turn job found step rfl
  · have same : (w.act duty).site = { w.site with clock := w.site.clock.tick } := site
    exact .aside (aside.mono fun _ _ => trivial) (same ▸ ⟨rfl, rfl, rfl⟩) (.inl turn.symm)

private theorem course_outside {w : Moment} (lined : w.manager.Lined) (free : w.turn = none)
    (next : Move) : Course w (w.outside next) := by
  cases next with
  | take duty =>
    simp only [outside]
    split
    · exact .aside (.of_jobs rfl rfl rfl rfl rfl rfl rfl rfl id) ⟨rfl, rfl, rfl⟩ (.inr free)
    · exact course_same w
  | wait duration =>
    exact .aside (.of_jobs rfl rfl rfl rfl rfl rfl rfl rfl id) ⟨rfl, rfl, rfl⟩ (.inl rfl)
  | ask task =>
    exact .aside (lined.asks trivial) ⟨rfl, rfl, rfl⟩ (.inl rfl)
  | restart =>
    exact .aside (.of_jobs rfl rfl rfl rfl rfl rfl rfl rfl fun absent => by
      simp [outside, Manager.restart, absent]) ⟨rfl, rfl, rfl⟩ (.inl rfl)
  | hear event =>
    exact .aside (.of_jobs rfl rfl rfl rfl rfl rfl rfl rfl id) ⟨rfl, rfl, rfl⟩ (.inl rfl)
  | collect j =>
    simp only [outside]
    split
    · next ended =>
      simp only [Bool.and_eq_true] at ended
      obtain ⟨x, hx, done⟩ := isDone_of_outcome? ended.1
      exact .aside (.of_forget hx done rfl rfl rfl rfl rfl rfl rfl rfl id) ⟨rfl, rfl, rfl⟩
        (.inl rfl)
    · exact course_same w
  | change host plan =>
    exact .aside (.of_jobs rfl rfl rfl rfl rfl rfl rfl rfl id) ⟨rfl, rfl, rfl⟩ (.inl rfl)
  | go | yield => exact course_same w

theorem course_move {w : Moment} (lined : w.manager.Lined) (next : Move) :
    Course w (w.move next) := by
  unfold move
  split
  · next duty turn =>
    cases next with
    | go =>
      simp only [inside]
      split
      · next ready => exact course_act lined turn ready
      · exact course_same w
    | yield =>
      simp only [inside]
      split
      · exact course_same w
      · next free => exact .ended turn (by simpa using free)
    | _ => exact course_same w
  · next free => exact course_outside lined free next

end Moment

end Manager

end LanguageBroker
