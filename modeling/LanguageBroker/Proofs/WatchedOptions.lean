import LanguageBroker.Proofs.ManagerShifts
import LanguageBroker.Proofs.OneServer
import LanguageBroker.Proofs.JobProgress

/-!
What one move does to the options of a manager and to all that gathers changes of them: the inputs
last seen, the announcements that nobody has read, the two checks, the changes to be passed on and
the restart that they lead to. The surroundings answer at once, so a check and the reading of the
options are one step each.
-/

namespace LanguageBroker

namespace Site

/-- What the calls to servers leave alone: the clock, the surroundings, and the servers' plans. -/
def frame (s : Site) : Clock × Host × (BackendName → Plan) := (s.clock, s.host, s.plan)

@[simp] theorem frame_noteBackend (s : Site) (b : BackendId) (e : BackendEvent) :
    (s.noteBackend b e).frame = s.frame := by
  unfold noteBackend
  split <;> rfl

@[simp] theorem frame_beginStart (s : Site) (b : BackendId) (options : Options) :
    (s.beginStart b options).1.frame = s.frame := frame_noteBackend ..

@[simp] theorem frame_endStart (s : Site) (b : BackendId) (options : Options) :
    (s.endStart b options).1.frame = s.frame := by
  rcases endStart_cases s b options with ⟨_, same⟩ | ⟨e, same⟩ | ⟨f, same⟩ <;> rw [same]
  · exact frame_noteBackend ..
  · exact frame_noteBackend ..

@[simp] theorem frame_beginDispose (s : Site) (b : BackendId) :
    (s.beginDispose b).1.frame = s.frame := frame_noteBackend (s.modifyMiddleware b _) b .dispose

@[simp] theorem frame_endDispose (s : Site) (b : BackendId) : (s.endDispose b).frame = s.frame := by
  unfold endDispose
  split
  · split
    · rfl
    · exact frame_noteBackend ..
  · rfl

@[simp] theorem frame_create (s : Site) (variant : Variant) (scope : Scope) :
    (s.create variant scope).1.frame = s.frame := by
  unfold create
  dsimp only
  split <;> rfl

end Site

namespace Debouncer

variable {d : Debouncer} {clock : Clock}

/-- Does the action rest, or wait for its time? -/
def isOpen (d : Debouncer) : Prop := d.phase = .idle ∨ ∃ due, d.phase = .waiting due

theorem isOpen_trigger (h : d.isOpen) (clock : Clock) : (d.trigger clock).isOpen := by
  rcases h with idle | ⟨due, waiting⟩
  · exact .inr ⟨_, by simp [trigger, idle]; rfl⟩
  · exact .inr ⟨_, by simp [trigger, waiting]; rfl⟩

theorem phase_trigger (clock : Clock) (open' : d.phase ≠ .closed) :
    (d.trigger clock).phase ≠ .closed ∧
    ((∃ again, (d.trigger clock).phase = .busy again) ↔ ∃ again, d.phase = .busy again) := by
  cases phase : d.phase <;> simp_all [trigger]

theorem phase_finish (clock : Clock) (open' : d.phase ≠ .closed) : (d.finish clock).isOpen := by
  unfold isOpen finish
  split <;> simp_all
  cases phase : d.phase <;> simp_all

end Debouncer

/-- Options are made from the inputs as they are. -/
theorem Options.inputs_of_make {h : Host} {variant : Variant} {scope : Scope} {options : Options}
    {i : Inputs} (made : make h variant scope = .ok (options, i)) :
    ∃ modules, h.modules scope.resource = .ok modules ∧
      i = inputs h variant scope.resource modules := by
  unfold make at made
  split at made
  · simp at made
  · next modules read =>
    simp only [Except.ok.injEq, Prod.mk.injEq] at made
    exact ⟨modules, read, made.2.symm⟩

namespace Watch

/-- The watch when all announcements have been read. -/
def listened (k : Watch) (clock : Clock) : Watch where
  settingsCheck := if k.settings.receipts.any Provider.concernsSettings then
    k.settingsCheck.trigger clock else k.settingsCheck
  environmentCheck := if ! k.environment.isEmpty then
    k.environmentCheck.trigger clock else k.environmentCheck

/-- The watch when the settings have been looked at. -/
def settingsChecked (k : Watch) (clock : Clock) : Watch :=
  { k with settingsCheck := k.settingsCheck.startRun.finish clock }

/-- The watch when the environment has been looked at. -/
def environmentChecked (k : Watch) (clock : Clock) : Watch :=
  { k with environmentCheck := k.environmentCheck.startRun.finish clock }

end Watch

namespace Provider

variable {p : Provider} {h : Host} {clock : Clock} {duty : Duty}

/-- All announcements are read. -/
theorem act_listen {k : Watch} (watch : p.watch = some k) : p.act h clock .listen =
    ({ p with watch := some (k.listened clock) }, k.interpreter.receipts.length) := by
  simp only [act, listen, watch, Watch.listened]

/-- The settings are looked at. -/
theorem act_checkSettings : p.act h clock .checkSettings =
    ({ p with
        seen := Options.inputs h p.variant p.resource p.seen.modules
        watch := p.watch.map (·.settingsChecked clock) },
      if p.seen ≠ Options.inputs h p.variant p.resource p.seen.modules then 1 else 0) := by
  simp only [act, checkSettings, decide_eq_true_eq]
  rfl

/-- The environment is looked at. -/
theorem act_checkEnvironment {modules : String} (read : h.modules p.resource = .ok modules) :
    p.act h clock .checkEnvironment =
      ({ p with
          seen := { p.seen with modules }
          watch := p.watch.map (·.environmentChecked clock) },
        if p.seen.modules ≠ modules then 1 else 0) := by
  simp only [act, checkEnvironment, read, decide_eq_true_eq]
  rfl

/-- The environment cannot be looked at. -/
theorem act_checkEnvironment_error {e : OptionsError} (unread : h.modules p.resource = .error e) :
    p.act h clock .checkEnvironment =
      ({ p with watch := p.watch.map (·.environmentChecked clock) }, 0) := by
  simp only [act, checkEnvironment, unread]
  rfl

theorem isSome_watch_act (p : Provider) (h : Host) (clock : Clock) (duty : Duty) :
    (p.act h clock duty).1.watch.isSome = p.watch.isSome := by
  cases duty with
  | listen => cases watch : p.watch <;> simp [act, listen, watch]
  | checkSettings => simp [act_checkSettings]
  | checkEnvironment =>
    cases read : h.modules p.resource with
    | error => simp [act_checkEnvironment_error read]
    | ok => simp [act_checkEnvironment read]

theorem isSome_of_isReady (ready : p.isReady clock duty) : p.watch.isSome := by
  cases watch : p.watch with
  | none => cases duty <;> simp [isReady, hasNews, watch] at ready
  | some => rfl

/-- What is seen differs only when a change is announced. -/
theorem act_seen (p : Provider) (h : Host) (clock : Clock) (duty : Duty) :
    (p.act h clock duty).1.seen = p.seen ∨ 0 < (p.act h clock duty).2 := by
  cases duty with
  | listen => cases watch : p.watch <;> simp [act, listen, watch]
  | checkSettings =>
    rw [act_checkSettings]
    by_cases same : p.seen = Options.inputs h p.variant p.resource p.seen.modules
    · exact .inl same.symm
    · simp [same]
  | checkEnvironment =>
    cases read : h.modules p.resource with
    | error => exact .inl (by rw [act_checkEnvironment_error read])
    | ok modules =>
      rw [act_checkEnvironment read]
      by_cases same : p.seen.modules = modules
      · exact .inl (by simp [← same])
      · simp [same]

/-- What has become of the watch of whoever has looked. -/
theorem watch_act {k : Watch} (there : (p.act h clock duty).1.watch = some k) :
    ∃ before, p.watch = some before ∧
      match duty with
      | .listen => k = before.listened clock
      | .checkSettings => k = before.settingsChecked clock
      | .checkEnvironment => k = before.environmentChecked clock := by
  have fixed := isSome_watch_act p h clock duty
  rw [there] at fixed
  obtain ⟨before, watch⟩ := Option.isSome_iff_exists.mp fixed.symm
  refine ⟨before, watch, ?_⟩
  cases duty with
  | listen =>
    rw [act_listen watch] at there
    exact (Option.some.inj there).symm
  | checkSettings =>
    rw [act_checkSettings, watch] at there
    exact (Option.some.inj there).symm
  | checkEnvironment =>
    cases read : h.modules p.resource with
    | error =>
      rw [act_checkEnvironment_error read, watch] at there
      exact (Option.some.inj there).symm
    | ok =>
      rw [act_checkEnvironment read, watch] at there
      exact (Option.some.inj there).symm

/-- No check is on its way when whoever looks has done so. -/
theorem act_checks {k : Watch} (there : (p.act h clock duty).1.watch = some k)
    (checks : ∀ {k}, p.watch = some k → k.settingsCheck.isOpen ∧ k.environmentCheck.isOpen) :
    k.settingsCheck.isOpen ∧ k.environmentCheck.isOpen := by
  obtain ⟨before, watch, became⟩ := watch_act there
  obtain ⟨settings, environment⟩ := checks watch
  have triggered {d : Debouncer} (open' : d.isOpen) (b : Bool) :
      (if b then d.trigger clock else d).isOpen := by
    split
    · exact Debouncer.isOpen_trigger open' clock
    · exact open'
  cases duty with
  | listen =>
    obtain rfl : k = before.listened clock := became
    exact ⟨triggered settings _, triggered environment _⟩
  | checkSettings =>
    obtain rfl : k = before.settingsChecked clock := became
    exact ⟨.inl rfl, environment⟩
  | checkEnvironment =>
    obtain rfl : k = before.environmentChecked clock := became
    exact ⟨settings, .inl rfl⟩

end Provider

namespace Manager

variable {m n : Manager} {s t : Site} {x : Job}

/-- The watch of a provider that has just been bound. -/
def freshWatch (h : Host) : Watch where
  settingsCheck := ⟨h.quietTime, .idle⟩
  environmentCheck := ⟨h.quietTime, .idle⟩

/-- What one step of a job does to the options and to what gathers changes of them. -/
inductive OptionStep (m : Manager) (s : Site) (x : Job) (n : Manager) (t : Site) : Prop
  /-- It has nothing to do with them. -/
  | aside (unbound : ∀ scope, x.stage ≠ .binding scope)
      (unready : ∀ scope, x.stage ≠ .launching scope)
      (provider : n.provider = m.provider) (changes : n.changes = m.changes)
      (restarter : n.restarter = m.restarter) (frame : t.frame = s.frame)
  /-- Nothing is watched any more. -/
  | closed (stage : x.stage = .fresh) (task : x.task = .dispose) (disposed : n.disposed)
      (provider : n.provider = m.provider.dispose) (changes : n.changes = none)
      (restarter : n.restarter = none) (site : t = s)
  /-- The options are bound to a scope, and the watch begins. -/
  | bound {scope : Scope} {modules : String} (stage : x.stage = .binding scope)
      (read : s.host.modules scope.resource = .ok modules)
      (provider : n.provider = { m.provider with
        scope := some scope
        seen := Options.inputs s.host m.provider.variant scope.resource modules
        watch := some (freshWatch s.host) })
      (changes : n.changes = some {}) (restarter : n.restarter = some ⟨s.host.quietTime, .idle⟩)
      (site : t = s)
  /-- The environment cannot be read when the options are bound. -/
  | unbound {scope : Scope} {e : OptionsError} (stage : x.stage = .binding scope)
      (unread : s.host.modules scope.resource = .error e)
      (provider : n.provider = { m.provider with scope := some scope })
      (changes : n.changes = m.changes) (restarter : n.restarter = m.restarter) (site : t = s)
  /-- The options cannot be worked out, and no server is made. -/
  | unread {scope : Scope} {e : OptionsError} (stage : x.stage = .launching scope)
      (unread : m.provider.options s.host = (m.provider, .error e))
      (provider : n.provider = m.provider) (changes : n.changes = m.changes)
      (restarter : n.restarter = m.restarter) (site : t = s)
  /-- The options are worked out, and a server is asked for. -/
  | asked {scope own : Scope} {options : Options} {inputs : Inputs}
      (stage : x.stage = .launching scope) (bound : m.provider.scope = some own)
      (read : Options.make s.host m.provider.variant own = .ok (options, inputs))
      (provider : n.provider = { m.provider with seen := inputs })
      (changes : n.changes = m.changes) (restarter : n.restarter = m.restarter)
      (site : (∃ e, s.create m.variant scope = (t, .error e)) ∨ ∃ b t',
        s.create m.variant scope = (t', .ok b) ∧ t = (t'.beginStart b options).1)

private theorem optionStep_begin (stage : x.stage = .fresh) :
    OptionStep m s x (m.beginJob s x).1 (m.beginJob s x).2 := by
  have aside {n : Manager} (provider : n.provider = m.provider) (changes : n.changes = m.changes)
      (restarter : n.restarter = m.restarter) : OptionStep m s x n s :=
    .aside (by simp [stage]) (by simp [stage]) provider changes restarter rfl
  unfold beginJob
  split
  · split
    · exact aside rfl rfl rfl
    · split
      · exact aside rfl rfl rfl
      · exact aside rfl rfl rfl
  · exact aside rfl rfl rfl
  · exact aside rfl rfl rfl
  · next task =>
    split
    · exact aside rfl rfl rfl
    · exact .closed stage task rfl rfl rfl rfl rfl

private theorem optionStep_bind {scope : Scope} (stage : x.stage = .binding scope) :
    OptionStep m s x (m.bindOptions s x scope).1 (m.bindOptions s x scope).2 := by
  cases read : s.host.modules scope.resource with
  | ok modules =>
    refine .bound stage read ?_ ?_ ?_ ?_ <;> simp [bindOptions, Provider.bindScope, read] <;> rfl
  | error e =>
    refine .unbound stage read ?_ ?_ ?_ ?_ <;>
      simp [bindOptions, Provider.bindScope, read, finish, put, leave]

private theorem optionStep_enter (stage : x.stage = .queued) :
    OptionStep m s x (m.enter s x).1 (m.enter s x).2 := by
  have aside {n : Manager} {t : Site} (provider : n.provider = m.provider)
      (changes : n.changes = m.changes) (restarter : n.restarter = m.restarter)
      (frame : t.frame = s.frame) : OptionStep m s x n t :=
    .aside (by simp [stage]) (by simp [stage]) provider changes restarter frame
  unfold enter
  split
  · exact aside rfl rfl rfl rfl
  · split
    · exact aside rfl rfl rfl rfl
    · split
      · exact aside rfl rfl rfl rfl
      · exact aside rfl rfl rfl rfl
      · exact aside rfl rfl rfl (Site.frame_beginDispose ..)
  · exact aside rfl rfl rfl rfl
  · split
    · exact aside rfl rfl rfl rfl
    · exact aside rfl rfl rfl (Site.frame_beginDispose ..)

private theorem optionStep_launch {scope : Scope} (stage : x.stage = .launching scope) :
    OptionStep m s x (m.launch s x scope).1 (m.launch s x scope).2 := by
  have failed {e : OptionsError} (unread : m.provider.options s.host = (m.provider, .error e)) :
      OptionStep m s x (m.launch s x scope).1 (m.launch s x scope).2 := by
    unfold launch
    rw [unread]
    exact .unread stage unread rfl rfl rfl rfl
  cases bound : m.provider.scope with
  | none => exact failed (e := .notInitialized) (by simp [Provider.options, bound])
  | some own =>
    cases read : Options.make s.host m.provider.variant own with
    | error e => exact failed (e := e) (by simp [Provider.options, bound, read])
    | ok made =>
      obtain ⟨options, inputs⟩ := made
      have options : m.provider.options s.host =
          ({ m.provider with seen := inputs }, .ok options) := by
        simp [Provider.options, bound, read]
      unfold launch
      rw [options]
      dsimp only
      split
      · next t e out => exact .asked stage bound read rfl rfl rfl (.inl ⟨e, out⟩)
      · next t b out => exact .asked stage bound read rfl rfl rfl (.inr ⟨b, t, out, rfl⟩)

private theorem optionStep_arrive {b : BackendId} {due : Deadline} {options : Options}
    (stage : x.stage = .starting b due options) :
    OptionStep m s x (m.arrive s x b options).1 (m.arrive s x b options).2 := by
  have aside {n : Manager} {t : Site} (provider : n.provider = m.provider)
      (changes : n.changes = m.changes) (restarter : n.restarter = m.restarter)
      (frame : t.frame = s.frame) : OptionStep m s x n t :=
    .aside (by simp [stage]) (by simp [stage]) provider changes restarter frame
  have frame := Site.frame_endStart s b options
  unfold arrive
  split
  · next t e failed =>
    rw [failed] at frame
    exact aside rfl rfl rfl ((Site.frame_beginDispose ..).trans frame)
  · next t up =>
    rw [up] at frame
    split
    · exact aside rfl rfl rfl ((Site.frame_beginDispose ..).trans frame)
    · exact aside rfl rfl rfl frame

/-- A job that can take a step takes one of those. -/
theorem optionStep_stepJob : OptionStep m s x (m.stepJob s x).1 (m.stepJob s x).2 := by
  have aside {n : Manager} {t : Site} (unbound : ∀ scope, x.stage ≠ .binding scope)
      (unready : ∀ scope, x.stage ≠ .launching scope) (provider : n.provider = m.provider)
      (changes : n.changes = m.changes) (restarter : n.restarter = m.restarter)
      (frame : t.frame = s.frame) : OptionStep m s x n t :=
    .aside unbound unready provider changes restarter frame
  unfold stepJob
  split
  · next stage => exact optionStep_begin stage
  · next stage => exact optionStep_bind stage
  · next stage => exact optionStep_enter stage
  · next stage =>
    split <;> exact aside (by simp [stage]) (by simp [stage]) rfl rfl rfl (Site.frame_endDispose ..)
  · next stage => exact optionStep_launch stage
  · next stage => exact optionStep_arrive stage
  · next stage =>
    exact aside (by simp [stage]) (by simp [stage]) rfl rfl rfl (Site.frame_endDispose ..)
  · next stage =>
    have same : ∃ o, m.withdrawn x = m.finish x.id o := by
      unfold withdrawn
      split <;> exact ⟨_, rfl⟩
    obtain ⟨o, same⟩ := same
    rw [same]
    exact aside (by simp [stage]) (by simp [stage]) rfl rfl rfl (Site.frame_endDispose ..)
  · next stage => exact aside (by simp [stage]) (by simp [stage]) rfl rfl rfl rfl

/-- The manager with a restart that has just begun. -/
def begun (m : Manager) : Manager :=
  { m with
    restarter := m.restarter.map (·.startRun)
    jobs := m.jobs ++ [{ id := restartJob, task := .restart }] }

/-- The manager with that restart put away. -/
def cleared (m : Manager) (clock : Clock) : Manager :=
  { m.forget restartJob with restarter := m.restarter.map (·.finish clock) }

theorem stepRestart_begin (free : m.job? restartJob = none) : m.stepRestart s = (m.begun, s) := by
  unfold stepRestart
  rw [free]
  rfl

theorem stepRestart_done (found : m.job? restartJob = some x) (done : x.isDone) :
    m.stepRestart s = (m.cleared s.clock, s) := by
  obtain ⟨id, task, stage⟩ := x
  unfold stepRestart
  rw [found]
  cases stage with
  | done => rfl
  | _ => simp [Job.isDone] at done

namespace Moment

variable {w v : Moment}

/-- The site when whoever has the turn takes a step. -/
def ticked (w : Moment) : Site := { w.site with clock := w.site.clock.tick }

/-- All that a move can be for what gathers changes, besides a step of a job. -/
inductive Feed (w : Moment) : Move → Moment → Prop
  /-- Announcements are read, or the inputs are. -/
  | look {duty : Provider.Duty} (turn : w.turn = some (.options duty))
      (ready : w.manager.provider.isReady w.site.clock duty) : Feed w .go (w.act (.options duty))
  /-- Changes are passed on. -/
  | forward {b : Inbox Unit} (turn : w.turn = some .forward) (changes : w.manager.changes = some b)
      (news : b.isEmpty = false) : Feed w .go (w.act .forward)
  /-- The restart that changes lead to begins. -/
  | begin {d : Debouncer} (turn : w.turn = some .restart)
      (idle : w.manager.job? restartJob = none) (gathers : w.manager.restarter = some d)
      (due : d.isDue w.site.clock) : Feed w .go ⟨w.manager.begun, w.ticked, some .restart⟩
  /-- That restart is over and put away. -/
  | putAway {x : Job} (turn : w.turn = some .restart) (found : w.manager.job? restartJob = some x)
      (done : x.isDone) :
      Feed w .go ⟨w.manager.cleared w.site.clock.tick, w.ticked, some .restart⟩
  | ask (task : Job.Task) (free : w.turn = none) :
      Feed w (.ask task) { w with manager := (w.manager.ask task).1 }
  | restart (free : w.turn = none) :
      Feed w .restart { w with manager := w.manager.restart w.site.clock }
  | hear (event : WorkspaceEvent) (free : w.turn = none) :
      Feed w (.hear event) { w with manager := w.manager.hear event }
  | change (host : Host) (plan : BackendName → Plan) (free : w.turn = none) :
      Feed w (.change host plan) { w with site := { w.site with host, plan } }
  | wait (duration : Nat) (free : w.turn = none) : Feed w (.wait duration)
      { w with site := { w.site with clock := w.site.clock.set (w.site.clock.now + duration) } }
  | collect {j : JobId} {x : Job} (found : w.manager.job? j = some x) (done : x.isDone)
      (other : j ≠ restartJob) (free : w.turn = none) :
      Feed w (.collect j) { w with manager := w.manager.forget j }
  /-- Nothing but the turn may change. -/
  | turned {next : Move} (turn : Option Duty)
      (unheard : ∀ event, next = .hear event → w.turn ≠ none) : Feed w next { w with turn }

/-- All that a move can be for the options and for what gathers their changes. -/
inductive Stir (w : Moment) (next : Move) (v : Moment) : Prop
  /-- A job takes a step. -/
  | step {duty : Duty} {x : Job} (go : next = .go) (turn : w.turn = some duty)
      (job : duty.job? = some x.id) (found : w.manager.job? x.id = some x)
      (ready : w.manager.canStep w.site.clock x)
      (step : JobStep w.manager w.ticked x v.manager v.site)
      (options : OptionStep w.manager w.ticked x v.manager v.site)
      (acts : w.manager.stepJob w.ticked x = (v.manager, v.site))
      (same : v.turn = some duty) : Stir w next v
  | feed (feed : Feed w next v) : Stir w next v

private theorem act_begin (free : w.manager.job? restartJob = none) :
    w.act .restart = ⟨w.manager.begun, w.ticked, some .restart⟩ := by
  have begins := stepRestart_begin (s := w.ticked) free
  simp only [act, Manager.act, ticked] at begins ⊢
  rw [begins]

private theorem act_done {x : Job} (found : w.manager.job? restartJob = some x) (done : x.isDone) :
    w.act .restart = ⟨w.manager.cleared w.site.clock.tick, w.ticked, some .restart⟩ := by
  have ends := stepRestart_done (s := w.ticked) found done
  simp only [act, Manager.act, ticked] at ends ⊢
  rw [ends]

private theorem stir_act (lined : w.manager.Lined) {duty : Duty} (turn : w.turn = some duty)
    (ready : w.isReady duty) : Stir w .go (w.act duty) := by
  have takes {x : Job} (job : duty.job? = some x.id) (found : w.manager.job? x.id = some x)
      (live : ¬ x.isDone) : Stir w .go (w.act duty) := by
    obtain ⟨steps, acts⟩ := act_of_job job found live ready
    have gone : w.act duty = ⟨(w.manager.stepJob w.ticked x).1,
        (w.manager.stepJob w.ticked x).2, some duty⟩ := by simp [act, acts, ticked]
    rw [gone]
    exact .step rfl turn job found steps (jobStep_stepJob (lined.fits found) steps)
      optionStep_stepJob rfl rfl
  cases duty with
  | options duty => exact .feed (.look turn ready)
  | forward =>
    cases changes : w.manager.changes with
    | none => simp [Moment.isReady, Manager.isReady, changes] at ready
    | some b =>
      have news : b.isEmpty = false := by
        simpa [Moment.isReady, Manager.isReady, changes] using ready
      exact .feed (.forward turn changes news)
  | restart =>
    cases found : w.manager.job? restartJob with
    | none =>
      cases gathers : w.manager.restarter with
      | none => simp [Moment.isReady, Manager.isReady, found, gathers] at ready
      | some d =>
        have due : d.isDue w.site.clock := by
          simpa [Moment.isReady, Manager.isReady, found, gathers] using ready
        rw [act_begin found]
        exact .feed (.begin turn found gathers due)
    | some x =>
      obtain same := job?_id found
      by_cases done : x.isDone
      · rw [act_done found done]
        exact .feed (.putAway turn found done)
      · exact takes (by simp [Duty.job?, same]) (same ▸ found) done
  | job j =>
    cases found : w.manager.job? j with
    | none => simp [Moment.isReady, Manager.isReady, isMoving, found] at ready
    | some x =>
      obtain rfl := job?_id found
      refine takes rfl found fun done => ?_
      cases stage : x.stage <;>
        simp_all [Moment.isReady, Manager.isReady, isMoving, Job.isDone, canStep]

theorem stir_move (lined : w.manager.Lined) (next : Move) : Stir w next (w.move next) := by
  unfold move
  split
  · next duty turn =>
    have busy : ∀ event, next = .hear event → w.turn ≠ none := by simp [turn]
    cases next with
    | go =>
      simp only [inside]
      split
      · next ready => exact stir_act lined turn ready
      · exact .feed (.turned w.turn busy)
    | yield =>
      simp only [inside]
      split
      · exact .feed (.turned w.turn busy)
      · exact .feed (.turned none busy)
    | _ => exact .feed (.turned w.turn busy)
  · next free =>
    cases next with
    | take duty =>
      simp only [outside]
      split
      · exact .feed (.turned (some duty) (by simp))
      · exact .feed (.turned w.turn (by simp))
    | wait duration => exact .feed (.wait duration free)
    | ask task => exact .feed (.ask task free)
    | restart => exact .feed (.restart free)
    | hear event => exact .feed (.hear event free)
    | change host plan => exact .feed (.change host plan free)
    | collect j =>
      simp only [outside]
      split
      · next ended =>
        simp only [Bool.and_eq_true, bne_iff_ne] at ended
        obtain ⟨x, found, done⟩ := isDone_of_outcome? ended.1
        exact .feed (.collect found done ended.2 free)
      · exact .feed (.turned w.turn (by simp))
    | go | yield => exact .feed (.turned w.turn (by simp))

/-- No job is taken further. -/
theorem Feed.aside {next : Move} (feed : Feed w next v) (lined : w.manager.Lined) :
    Aside (fun _ => True) w.manager v.manager ∧ w.site.SameServers v.site := by
  refine ⟨?_, by cases feed <;> exact ⟨rfl, rfl, rfl⟩⟩
  cases feed with
  | look =>
    exact .of_jobs rfl rfl rfl rfl rfl rfl rfl rfl id (w.manager.provider.act_bound ..)
  | forward =>
    exact .of_jobs rfl rfl rfl rfl rfl rfl rfl rfl fun absent => by
      simp [act, Manager.act, Manager.restart, absent]
  | begin turn idle gathers due =>
    exact .of_add rfl rfl rfl rfl idle rfl rfl lined.positive (Nat.le_refl _) (.inl rfl) trivial rfl
      fun absent => by simp [begun, absent]
  | putAway turn found done =>
    exact .of_forget found done rfl rfl rfl rfl rfl rfl rfl rfl fun absent => by
      simp [cleared, absent]
  | ask task =>
    exact lined.asks trivial
  | restart =>
    exact .of_jobs rfl rfl rfl rfl rfl rfl rfl rfl fun absent => by simp [Manager.restart, absent]
  | collect found done => exact .of_forget found done rfl rfl rfl rfl rfl rfl rfl rfl id
  | hear | change | wait | turned => exact .of_jobs rfl rfl rfl rfl rfl rfl rfl rfl id

end Moment

/-! The scope. -/

/-- The options are worked out for the scope that the manager was started for. -/
structure Scoped (m : Manager) : Prop where
  given : m.scope ≠ none → m.started
  variant : m.provider.variant = m.variant
  scope : m.provider.scope = none ∨ m.provider.scope = m.scope
  aimed : ∀ {j x scope}, m.job? j = some x → x.aim? = some scope → m.scope = some scope
  binds : ∀ {j x scope}, m.job? j = some x → x.stage = .binding scope → x.task = .start scope

/-- Only a first start that begins binds the options. -/
theorem JobStep.binds (step : JobStep m s x n t) (hx : m.job? x.id = some x) {y : Job}
    {scope : Scope} (hy : n.job? x.id = some y) (binding : y.stage = .binding scope) :
    x.task = .start scope ∧ m.started = false := by
  cases step with
  | bind stage task live first =>
    have found := (job?_at rfl hx _ x.id).symm.trans hy
    obtain rfl : _ = y := by simpa using found
    exact ⟨by simpa [task] using binding, first⟩
  | _ =>
    have found := (job?_at rfl hx _ x.id).symm.trans hy
    obtain rfl : _ = y := by simpa using found
    simp at binding

theorem JobStep.scope_stays (step : JobStep m s x n t) (given : m.scope ≠ none → m.started)
    {scope : Scope} (bound : m.scope = some scope) : n.scope = some scope := by
  cases step with
  | bind stage task live first =>
    have started := given (by simp [bound])
    simp [first] at started
  | _ => exact bound

theorem OptionStep.frame (options : OptionStep m s x n t) : t.frame = s.frame := by
  cases options with
  | aside _ _ _ _ _ frame => exact frame
  | closed _ _ _ _ _ _ site | bound _ _ _ _ _ site | unbound _ _ _ _ _ site
  | unread _ _ _ _ _ site => exact congrArg Site.frame site
  | asked _ _ _ _ _ _ site =>
    rcases site with ⟨e, out⟩ | ⟨b, t', out, rfl⟩
    · obtain rfl := congrArg Prod.fst out
      exact Site.frame_create ..
    · obtain rfl := congrArg Prod.fst out
      exact (Site.frame_beginStart ..).trans (Site.frame_create ..)

theorem OptionStep.host (options : OptionStep m s x n t) : t.host = s.host :=
  congrArg (·.2.1) options.frame

theorem OptionStep.clock (options : OptionStep m s x n t) : t.clock = s.clock :=
  congrArg (·.1) options.frame

theorem OptionStep.plan (options : OptionStep m s x n t) : t.plan = s.plan :=
  congrArg (·.2.2) options.frame

/-- A step binds the options to the scope of its job, or leaves them as they are. -/
theorem JobStep.binding_cases (step : JobStep m s x n t) :
    n.provider.variant = m.provider.variant ∧ (n.provider.scope = m.provider.scope ∨
      ∃ scope, x.stage = .binding scope ∧ n.provider.scope = some scope) := by
  have binds {provider : Provider} {scope : Scope} {result : Except OptionsError Unit}
      (stage : x.stage = .binding scope)
      (bound : m.provider.bindScope s.host scope = (provider, result)) :
      provider.variant = m.provider.variant ∧ (provider.scope = m.provider.scope ∨
        ∃ scope, x.stage = .binding scope ∧ provider.scope = some scope) := by
    cases read : s.host.modules scope.resource <;>
      (simp only [Provider.bindScope, read, Prod.mk.injEq] at bound
       obtain ⟨rfl, _⟩ := bound
       exact ⟨rfl, .inr ⟨scope, stage, rfl⟩⟩)
  have reads {provider : Provider} {options : Options}
      (read : m.provider.options s.host = (provider, .ok options)) :
      provider.variant = m.provider.variant ∧ (provider.scope = m.provider.scope ∨
        ∃ scope, x.stage = .binding scope ∧ provider.scope = some scope) := by
    obtain ⟨_, _, bound, made, rfl⟩ := Provider.options_ok read
    exact ⟨rfl, .inl rfl⟩
  cases step with
  | bound stage bound => exact binds stage bound
  | create _ _ read | uncreated _ _ read => exact reads read
  | quit _ _ _ _ _ _ unmade =>
    rcases unmade with rfl | ⟨scope, e, stage, unbound⟩
    · exact ⟨rfl, .inl rfl⟩
    · exact binds stage unbound
  | _ => exact ⟨rfl, .inl rfl⟩

namespace Scoped

theorem jobStep (h : m.Scoped) (hx : m.job? x.id = some x) (step : JobStep m s x n t) :
    n.Scoped := by
  obtain ⟨stage, advance⟩ := step.advance
  have jobs := job?_of_jobs hx advance.jobs
  -- nobody has an aim before the manager has a scope
  have stays {scope : Scope} : m.scope = some scope → n.scope = some scope :=
    step.scope_stays h.given
  obtain ⟨variant, provider⟩ := step.binding_cases
  refine ⟨fun bound => ?given, ?variant, ?scope, fun {j y scope} hy aim => ?aimed,
    fun {j y scope} hy stage' => ?binds⟩
  case given =>
    cases step with
    | bind => rfl
    | _ => exact h.given bound
  case variant => exact variant.trans (h.variant.trans step.variant.symm)
  case scope =>
    rcases provider with same | ⟨scope, stage, bound⟩
    · rw [same]
      rcases h.scope with none | own
      · exact .inl none
      · cases bound : m.scope with
        | none => exact .inl (own.trans bound)
        | some scope => exact .inr (own.trans (bound.trans (stays bound).symm))
    · rw [bound]
      exact .inr (stays (h.aimed hx (by simp [Job.aim?, stage, h.binds hx stage]))).symm
  case aimed =>
    rw [jobs] at hy
    split at hy
    · obtain rfl := Option.some.inj hy
      rcases advance.aims scope aim with before | now
      · exact stays (h.aimed hx before)
      · exact now
    · exact stays (h.aimed hy aim)
  case binds =>
    rw [jobs] at hy
    split at hy
    · next here =>
      obtain rfl := Option.some.inj hy
      exact (step.binds hx ((jobs x.id).trans (if_pos rfl)) stage').1
    · exact h.binds hy stage'

/-- New jobs have not begun. -/
theorem aside (h : m.Scoped) {new : Job.Task → Prop} (aside : Aside new m n) : n.Scoped where
  given bound := by
    rw [aside.started]
    exact h.given (aside.scope ▸ bound)
  variant := by rw [aside.options.1, aside.variant, h.variant]
  scope := by
    rw [aside.options.2, aside.scope]
    exact h.scope
  aimed hx aim := by
    rw [aside.scope]
    rcases aside.old hx with old | ⟨fresh, _⟩
    · exact h.aimed old aim
    · simp [Job.aim?, fresh] at aim
  binds hx stage := by
    rcases aside.old hx with old | ⟨fresh, _⟩
    · exact h.binds old stage
    · simp [fresh] at stage

theorem forget (h : m.Scoped) (j : JobId) : (m.forget j).Scoped where
  given := h.given
  variant := h.variant
  scope := h.scope
  aimed hx aim := h.aimed (job?_of_forget hx) aim
  binds hx stage := h.binds (job?_of_forget hx) stage

end Scoped

theorem scoped_new (variant : Variant) : (new variant).Scoped where
  given bound := absurd rfl bound
  variant := rfl
  scope := .inl rfl
  aimed hx := by simp [new, job?] at hx
  binds hx := by simp [new, job?] at hx

/-! What gathers changes. -/

/-- Is a first start about to bind the options? -/
def isBinding (m : Manager) : Prop := ∃ j x scope, m.job? j = some x ∧ x.stage = .binding scope

/-- Whoever gets a scope is about to bind the options to it. -/
theorem JobStep.binds_scope (step : JobStep m s x n t) (hx : m.job? x.id = some x) :
    n.scope = m.scope ∨ n.isBinding := by
  cases step with
  | bind => exact .inr ⟨x.id, _, _, (job?_at rfl hx _ x.id).trans (if_pos rfl), rfl⟩
  | _ => exact .inl rfl

/-- The watch and what gathers its changes come and go together, and only the restart that changes
lead to makes the gathering busy. -/
structure Gathering (m : Manager) : Prop where
  changes : m.changes.isSome = m.provider.watch.isSome
  restarter : m.restarter.isSome = m.provider.watch.isSome
  bound : m.provider.watch.isSome → m.provider.scope ≠ none
  early : m.started = false ∨ m.isBinding →
    m.provider.watch = none ∧ m.job? restartJob = none
  checks : ∀ {k}, m.provider.watch = some k → k.settingsCheck.isOpen ∧ k.environmentCheck.isOpen
  busy : ∀ {d}, m.restarter = some d →
    d.phase ≠ .closed ∧ ((∃ again, d.phase = .busy again) ↔ m.job? restartJob ≠ none)
  restarting : ∀ {x}, m.job? restartJob = some x → x.task = .restart ∧ m.scope ≠ none

theorem JobStep.started_mono (step : JobStep m s x n t) (started : m.started) : n.started := by
  cases step with
  | bind => rfl
  | _ => exact started

namespace Gathering

/-- The same things are there, and the rest is in order. -/
private theorem of_same (h : m.Gathering)
    (watch : n.provider.watch.isSome = m.provider.watch.isSome)
    (changes : n.changes.isSome = m.changes.isSome)
    (restarter : n.restarter.isSome = m.restarter.isSome)
    (scope : m.provider.watch.isSome → n.provider.scope = m.provider.scope)
    (early : n.started = false ∨ n.isBinding → m.started = false ∨ m.isBinding)
    (free : m.restarter = none → m.job? restartJob = none → n.job? restartJob = none)
    (checks : ∀ {k}, n.provider.watch = some k → k.settingsCheck.isOpen ∧ k.environmentCheck.isOpen)
    (busy : ∀ {d}, n.restarter = some d →
      d.phase ≠ .closed ∧ ((∃ again, d.phase = .busy again) ↔ n.job? restartJob ≠ none))
    (restarting : ∀ {x}, n.job? restartJob = some x → x.task = .restart ∧ n.scope ≠ none) :
    n.Gathering where
  changes := by rw [changes, watch, h.changes]
  restarter := by rw [restarter, watch, h.restarter]
  bound there := by
    rw [watch] at there
    rw [scope there]
    exact h.bound there
  early before := by
    obtain ⟨unwatched, free'⟩ := h.early (early before)
    have idle : m.restarter = none := by
      simpa [unwatched] using h.restarter
    exact ⟨by simpa [unwatched] using watch, free idle free'⟩
  checks := checks
  busy := busy
  restarting := restarting

theorem jobStep {duty : Duty} (h : m.Gathering) (own : m.Scoped)
    (opening : Opening (some duty) m s) (hx : m.job? x.id = some x) (job : duty.job? = some x.id)
    (step : JobStep m s x n t) (options : OptionStep m s x n t) : n.Gathering := by
  obtain ⟨stage, advance⟩ := step.advance
  have jobs := job?_of_jobs hx advance.jobs
  have present : n.job? restartJob ≠ none ↔ m.job? restartJob ≠ none := by
    rw [jobs]
    split
    · next here => simp [here, hx]
    · rfl
  have restarting {y : Job} (there : n.job? restartJob = some y) :
      y.task = .restart ∧ n.scope ≠ none := by
    obtain ⟨z, before, task⟩ := step.old_job hx there
    obtain ⟨restart, bound⟩ := h.restarting before
    refine ⟨task.trans restart, ?_⟩
    rcases step.scope with same | ⟨scope, new, _⟩
    · rwa [same]
    · simp [new]
  have early (before : n.started = false ∨ n.isBinding) : m.started = false ∨ m.isBinding := by
    rcases before with unstarted | ⟨j, y, scope, hy, binding⟩
    · by_contra other
      simp only [not_or, Bool.not_eq_false] at other
      simp [step.started_mono other.1] at unstarted
    · rw [jobs] at hy
      split at hy
      · obtain rfl := Option.some.inj hy
        exact .inl (step.binds hx ((jobs x.id).trans (if_pos rfl)) binding).2
      · exact .inr ⟨j, y, scope, hy, binding⟩
  have same (watch : n.provider.watch = m.provider.watch) (changes : n.changes = m.changes)
      (restarter : n.restarter = m.restarter)
      (scope : m.provider.watch.isSome → n.provider.scope = m.provider.scope) : n.Gathering := by
    refine h.of_same (by rw [watch]) (by rw [changes]) (by rw [restarter]) scope early
      (fun _ free => by simpa [free] using present) (fun there => h.checks (watch ▸ there))
      (fun there => ?_) restarting
    obtain ⟨opened, busy⟩ := h.busy (restarter ▸ there)
    exact ⟨opened, busy.trans present.symm⟩
  cases options with
  | aside _ _ provider changes restarter | unread _ _ provider changes restarter
  | asked _ _ _ provider changes restarter =>
    exact same ((congrArg Provider.watch provider).trans rfl) changes restarter
      fun _ => (congrArg Provider.scope provider).trans rfl
  | unbound stage _ provider changes restarter =>
    have unwatched := (h.early (.inr ⟨x.id, x, _, hx, stage⟩)).1
    exact same ((congrArg Provider.watch provider).trans rfl) changes restarter
      (by simp [unwatched])
  | closed _ _ _ provider changes restarter =>
    have unwatched : n.provider.watch = none := congrArg Provider.watch provider
    exact
      { changes := by simp [changes, unwatched]
        restarter := by simp [restarter, unwatched]
        bound := by simp [unwatched]
        early := fun before => ⟨unwatched, by simpa [(h.early (early before)).2] using present⟩
        checks := by simp [unwatched]
        busy := by simp [restarter]
        restarting := restarting }
  | @bound scope modules at_stage _ provider changes restarter =>
    have binding : m.isBinding := ⟨x.id, x, scope, hx, at_stage⟩
    have free : n.job? restartJob = none := by simpa [(h.early (.inr binding)).2] using present
    have opens : x.opens := by simp [Job.opens, at_stage]
    exact
      { changes := by simp [changes, provider]
        restarter := by simp [restarter, provider]
        bound := by simp [provider]
        early := by
          -- nobody else binds the options, and this job has done so
          rintro (unstarted | ⟨j, y, aim, hy, binds⟩)
          · have start : x.isStart := by simp [Job.isStart, own.binds hx at_stage]
            have started := opening.begun hx start (by simp [at_stage])
              (by simp [Job.isDone, at_stage])
            simp [step.started_mono started] at unstarted
          · rw [jobs] at hy
            split at hy
            · obtain rfl := Option.some.inj hy
              have before := step.binds hx ((jobs x.id).trans (if_pos rfl)) binds
              have start : x.isStart := by simp [Job.isStart, before.1]
              have started := opening.begun hx start (by simp [at_stage])
                (by simp [Job.isDone, at_stage])
              simp [before.2] at started
            · next other =>
              have turn := opening.turn_of_opens hy (by simp [Job.opens, binds])
              exact absurd (Option.some.inj (turn.symm.trans job)) other
        checks := by simp [provider, freshWatch, Debouncer.isOpen]
        busy := by simp [restarter, free]
        restarting := restarting }

/-- The jobs and the restarts do not come into it. -/
private theorem of_jobs (h : m.Gathering) (jobs : n.jobs = m.jobs) (started : n.started = m.started)
    (bound : n.scope = m.scope) (scope : n.provider.scope = m.provider.scope)
    (watch : n.provider.watch.isSome = m.provider.watch.isSome)
    (changes : n.changes.isSome = m.changes.isSome)
    (restarter : n.restarter = m.restarter ∨
      ∃ clock, n.restarter = m.restarter.map (·.trigger clock))
    (checks : ∀ {k}, n.provider.watch = some k →
      k.settingsCheck.isOpen ∧ k.environmentCheck.isOpen) : n.Gathering := by
  have found (j : JobId) : n.job? j = m.job? j := by simp [job?, jobs]
  refine h.of_same watch changes ?_ (fun _ => scope) ?_ ?_ checks (fun there => ?_) ?_
  · rcases restarter with same | ⟨clock, same⟩ <;> simp [same]
  · rintro (unstarted | ⟨j, y, aim, hy, binds⟩)
    · exact .inl (started ▸ unstarted)
    · exact .inr ⟨j, y, aim, found j ▸ hy, binds⟩
  · exact fun _ free => (found _).trans free
  · rw [found]
    rcases restarter with same | ⟨clock, same⟩
    · exact h.busy (same ▸ there)
    · rw [same, Option.map_eq_some_iff] at there
      obtain ⟨d, there, rfl⟩ := there
      obtain ⟨open', busy⟩ := h.busy there
      obtain ⟨also, same⟩ := Debouncer.phase_trigger clock open'
      exact ⟨also, same.trans busy⟩
  · rw [found, bound]
    exact h.restarting

theorem look (h : m.Gathering) (host : Host) (clock : Clock) (duty : Provider.Duty) :
    ({ m with provider := (m.provider.act host clock duty).1 }.announce
      (m.provider.act host clock duty).2).Gathering := by
  have scope := (m.provider.act_bound host clock duty).2
  have watch := m.provider.isSome_watch_act host clock duty
  exact h.of_jobs rfl rfl rfl scope watch (by simp [announce]) (.inl rfl)
    fun there => Provider.act_checks there h.checks

theorem restart (h : m.Gathering) (clock : Clock) : (m.restart clock).Gathering :=
  h.of_jobs rfl rfl rfl rfl rfl rfl (.inr ⟨clock, rfl⟩) h.checks

theorem hear (h : m.Gathering) (event : WorkspaceEvent) : (m.hear event).Gathering := by
  refine h.of_jobs rfl rfl rfl rfl (by simp [Manager.hear, Provider.hear]) rfl (.inl rfl)
    fun {k} there => ?_
  obtain ⟨k', watch, rfl⟩ : ∃ k', m.provider.watch = some k' ∧ _ = k :=
    Option.map_eq_some_iff.mp there
  have checks := h.checks watch
  cases event <;> exact checks

theorem forward (h : m.Gathering) (clock : Clock) :
    { m.restart clock with changes := m.changes.map fun _ => {} }.Gathering :=
  h.of_jobs rfl rfl rfl rfl rfl (by simp) (.inr ⟨clock, rfl⟩) h.checks

/-- Jobs come that have not begun, or jobs are forgotten. -/
private theorem of_old (h : m.Gathering) (started : n.started = m.started)
    (bound : n.scope = m.scope) (provider : n.provider = m.provider)
    (changes : n.changes = m.changes)
    (restarter : n.restarter.isSome = m.restarter.isSome)
    (jobs : ∀ {j x}, n.job? j = some x → m.job? j = some x ∨ x.stage = .fresh)
    (free : m.restarter = none → m.job? restartJob = none → n.job? restartJob = none)
    (busy : ∀ {d}, n.restarter = some d →
      d.phase ≠ .closed ∧ ((∃ again, d.phase = .busy again) ↔ n.job? restartJob ≠ none))
    (restarting : ∀ {x}, n.job? restartJob = some x → x.task = .restart ∧ m.scope ≠ none) :
    n.Gathering := by
  refine h.of_same (by rw [provider]) (by rw [changes]) restarter (fun _ => by rw [provider]) ?_
    free (fun there => h.checks (provider ▸ there)) busy (bound ▸ restarting)
  rintro (unstarted | ⟨j, y, aim, hy, binds⟩)
  · exact .inl (started ▸ unstarted)
  · rcases jobs hy with old | fresh
    · exact .inr ⟨j, y, aim, old, binds⟩
    · simp [fresh] at binds

theorem begin (h : m.Gathering) (own : m.Scoped) (free : m.job? restartJob = none) {d : Debouncer}
    (there : m.restarter = some d) : m.begun.Gathering := by
  have jobs (j : JobId) := job?_add (n := m.begun) free rfl j
  have now : m.begun.job? restartJob = some { id := restartJob, task := .restart } := by simp [jobs]
  have watched : m.provider.watch.isSome := by simpa [there] using h.restarter.symm
  refine h.of_old rfl rfl rfl rfl (by simp [begun]) (fun {j x} hx => ?_) (by simp [there])
    (fun {d'} busy => ?_) fun {x} there => ?_
  · rw [jobs] at hx
    split at hx
    · obtain rfl := Option.some.inj hx
      exact .inr rfl
    · exact .inl hx
  · obtain rfl : d.startRun = d' := by simpa [begun, there] using busy
    exact ⟨by simp [Debouncer.startRun], by simp [Debouncer.startRun, now]⟩
  · obtain rfl := Option.some.inj (now.symm.trans there)
    refine ⟨rfl, fun unbound => ?_⟩
    rcases own.scope with none | same
    · exact h.bound watched none
    · exact h.bound watched (same.trans unbound)

theorem putAway (h : m.Gathering) (clock : Clock) : (m.cleared clock).Gathering := by
  have gone : (m.cleared clock).job? restartJob = none :=
    (job?_forget m restartJob restartJob).trans (if_pos rfl)
  refine h.of_old rfl rfl rfl rfl (by simp [cleared]) (fun hx => .inl (job?_of_forget hx))
    (fun _ _ => gone) (fun {d} there => ?_) (fun there => by simp [gone] at there)
  obtain ⟨d', before, rfl⟩ := Option.map_eq_some_iff.mp there
  rcases Debouncer.phase_finish clock (h.busy before).1 with idle | ⟨due, waiting⟩
  · exact ⟨by simp [idle], by simp [idle, gone]⟩
  · exact ⟨by simp [waiting], by simp [waiting, gone]⟩

theorem ask (h : m.Gathering) (lined : m.Lined) (task : Job.Task) : (m.ask task).1.Gathering := by
  have jobs {j : JobId} (old : j ≠ m.nextJob) : (m.ask task).1.job? j = m.job? j := by
    rw [job?_ask lined.free, if_neg old]
  have same : (m.ask task).1.job? restartJob = m.job? restartJob :=
    jobs (Nat.ne_of_lt lined.positive)
  refine h.of_old rfl rfl rfl rfl rfl (fun {j x} hx => ?_) (fun _ free => same.trans free)
    (fun there => ?_) fun there => h.restarting (same ▸ there)
  · by_cases old : j = m.nextJob
    · rw [job?_ask lined.free, if_pos old] at hx
      obtain rfl := Option.some.inj hx
      exact .inr rfl
    · exact .inl (jobs old ▸ hx)
  · have busy := h.busy there
    rwa [← same] at busy

theorem forget (h : m.Gathering) {j : JobId} (other : j ≠ restartJob) : (m.forget j).Gathering := by
  have same : (m.forget j).job? restartJob = m.job? restartJob := by
    rw [job?_forget, if_neg other.symm]
  refine h.of_old rfl rfl rfl rfl rfl (fun hx => .inl (job?_of_forget hx))
    (fun _ free => same.trans free) (fun there => ?_) fun there => h.restarting (same ▸ there)
  · have busy := h.busy there
    rwa [← same] at busy

end Gathering

theorem gathering_new (variant : Variant) : (new variant).Gathering where
  changes := rfl
  restarter := rfl
  bound := by simp [new]
  early _ := ⟨rfl, rfl⟩
  checks := by simp [new]
  busy := by simp [new]
  restarting := by simp [new, job?]

namespace Moment

/-- What every run keeps of the options, beside what it keeps of the servers. -/
structure Attended (w : Moment) : Prop extends w.Sound where
  own : w.manager.Scoped
  gathering : w.manager.Gathering

variable {w v : Moment}

theorem attended_opening (variant : Variant) (host : Host) (plan : BackendName → Plan)
    (clock : Clock) : (opening variant host plan clock).Attended where
  toSound := sound_opening variant host plan clock
  own := scoped_new variant
  gathering := gathering_new variant

theorem Attended.stir {next : Move} (h : w.Attended) (sound : v.Sound) (stir : Stir w next v) :
    v.Attended := by
  suffices both : v.manager.Scoped ∧ v.manager.Gathering from ⟨sound, both.1, both.2⟩
  cases stir with
  | @step duty x go turn job found ready step options acts same =>
    have aside : Aside (fun _ => True) w.manager w.manager :=
      .of_jobs rfl rfl rfl rfl rfl rfl rfl rfl id
    have opening : Opening (some duty) w.manager w.ticked :=
      turn ▸ h.opening.aside aside ⟨rfl, rfl, rfl⟩
    exact ⟨h.own.jobStep found step,
      h.gathering.jobStep h.own opening found job step options⟩
  | feed feed =>
    refine ⟨h.own.aside (feed.aside h.lined).1, ?_⟩
    cases feed with
    | look => exact h.gathering.look ..
    | forward => exact h.gathering.forward _
    | begin turn idle gathers due => exact h.gathering.begin h.own idle gathers
    | putAway turn found done => exact h.gathering.putAway _
    | ask task => exact h.gathering.ask h.lined task
    | restart => exact h.gathering.restart _
    | hear event => exact h.gathering.hear event
    | collect _ _ other => exact h.gathering.forget other
    | change | wait | turned => exact h.gathering

theorem Attended.move (h : w.Attended) (next : Move) : (w.move next).Attended :=
  h.stir (h.toSound.move next) (stir_move h.lined next)

theorem Attended.run (h : w.Attended) (moves : List Move) : (w.run moves).Attended :=
  run_induction (fun _ next attended => attended.move next) h moves

/-- A manager is started for one scope. -/
theorem Sound.scope_stays (h : w.Sound) {scope : Scope} (bound : w.manager.scope = some scope)
    (next : Move) : (w.move next).manager.scope = some scope := by
  have course := course_move h.lined next
  generalize w.move next = v at course
  cases course with
  | step turn job found step same =>
    exact step.scope_stays h.opening.given bound
  | aside manager => exact manager.scope.trans bound
  | ended => exact bound

theorem Sound.scope_run (h : w.Sound) {scope : Scope} (bound : w.manager.scope = some scope)
    (moves : List Move) : (w.run moves).manager.scope = some scope := by
  have keeps (w : Moment) (next : Move) (h : w.Sound ∧ w.manager.scope = some scope) :
      (w.move next).Sound ∧ (w.move next).manager.scope = some scope :=
    ⟨h.1.move next, h.1.scope_stays h.2 next⟩
  exact (run_induction keeps ⟨h, bound⟩ moves).2

theorem Sound.variant_run (h : w.Sound) (moves : List Move) :
    (w.run moves).manager.variant = w.manager.variant := by
  induction moves generalizing w with
  | nil => rfl
  | cons next moves ih =>
    refine (ih (h.move next)).trans ?_
    have course := course_move h.lined next
    generalize w.move next = v at course
    cases course with
    | step turn job found step same => exact step.variant
    | aside manager => exact manager.variant
    | ended => rfl

/-- Only the surroundings themselves change what they answer and how servers behave. -/
theorem surroundings_move (lined : w.manager.Lined) (next : Move) :
    (w.move next).site.host = w.site.host ∧ (w.move next).site.plan = w.site.plan ∨
      ∃ host plan, next = .change host plan ∧ (w.move next).site.host = host ∧
        (w.move next).site.plan = plan := by
  have stir := stir_move lined next
  generalize w.move next = v at stir
  cases stir with
  | step go turn job found ready step options acts same => exact .inl ⟨options.host, options.plan⟩
  | feed feed =>
    cases feed with
    | change host plan => exact .inr ⟨host, plan, rfl, rfl, rfl⟩
    | _ => exact .inl ⟨rfl, rfl⟩

/-- It holds at every moment of the run. -/
def Throughout (P : Moment → Prop) (w : Moment) : List Move → Prop
  | [] => P w
  | next :: moves => P w ∧ Throughout P (w.move next) moves

theorem Throughout.first {P : Moment → Prop} {moves : List Move} (h : w.Throughout P moves) :
    P w := by
  cases moves with
  | nil => exact h
  | cons => exact h.1

end Moment

end Manager

end LanguageBroker
