import LanguageBroker.Proofs.InterpreterSweeps
import LanguageBroker.Proofs.RestingManagers
import LanguageBroker.Proofs.SimpleStarts
import LanguageBroker.Proofs.WatchedOptions

/-!
What becomes of the managers of evicted activations. A change of interpreters leads to a restart of
every manager and to a sweep, and the sweep disposes of one manager after the other. A restart that
has got the slot before its manager is disposed of goes on to make another server, and nothing else
does. None has got it where the disposal comes within the time of rest after the change.
-/

namespace LanguageBroker

/-- Which activations the errand is to sweep out. -/
def Errand.sweep? (x : Errand) : Option Sweep :=
  match x.task with
  | .sweep kind => some kind
  | _ => none

theorem Errand.task_of_sweep? {x : Errand} {kind : Sweep} (sweeps : x.sweep? = some kind) :
    x.task = .sweep kind := by
  cases task : x.task <;> simp_all [sweep?]

namespace Manager

/-- Has a restart got the slot, without having made its server yet? -/
def isReplacing (m : Manager) : Bool := m.jobs.any fun x => x.task = .restart && x.mayMake

/-- The first start has made its server already, or never makes one. -/
def PastStart (m : Manager) : Prop :=
  ∀ {i x}, m.job? i = some x → x.isStart → x.stage.rank ≤ 2

/-- A restart that is to make a server has a scope to make it for. -/
def Aimed (m : Manager) : Prop :=
  ∀ {i x}, m.job? i = some x → x.task = .restart → x.mayMake → m.scope.isSome

/-- There is a server, no restart is on its way, and no change is gathered that may lead to one. -/
structure AtRest (m : Manager) (window : Nat) : Prop where
  slot : m.slot.isSome
  gathers : m.restarter = some ⟨window, .idle⟩
  idle : ∀ x ∈ m.jobs, x.id ≠ restartJob ∧ x.task ≠ .restart

variable {m n : Manager} {s : Site} {x : Job} {i : JobId} {c : BackendId} {lost : Prop}

theorem Lined.isReplacing_iff (h : m.Lined) :
    m.isReplacing ↔ ∃ x, m.job? x.id = some x ∧ x.task = .restart ∧ x.mayMake := by
  simp only [isReplacing, List.any_eq_true, Bool.and_eq_true, decide_eq_true_eq]
  constructor
  · rintro ⟨x, mem, about⟩
    exact ⟨x, h.job?_of_mem mem, about⟩
  · rintro ⟨x, found, about⟩
    exact ⟨x, mem_of_job? found, about⟩

/-! A manager that has had a server. -/

/-- A manager with a server has made it: its first start makes no other one. -/
theorem Clear.pastStart (h : m.Clear) (lined : m.Lined) (has : m.Has c) : m.PastStart := by
  intro i x hx start
  have fits := lined.fits hx
  have comes (empty : m.slot = none) : ∃ j y, m.job? j = some y ∧ y.stage.coming? = some c := by
    simpa [Has, empty] using has
  cases stage : x.stage with
  | fresh | binding =>
    obtain ⟨_, empty, only⟩ := h.early hx (by simpa [Job.isEarly, stage] using start)
    obtain ⟨j, y, hy, coming⟩ := comes empty
    obtain rfl := only hy
    obtain rfl := Option.some.inj (hx.symm.trans hy)
    simp [stage, Job.Stage.coming?] at coming
  | queued =>
    obtain ⟨empty, head⟩ := h.next hx start stage
    obtain ⟨j, y, hy, coming⟩ := comes empty
    have waits : ¬ x.holds := by simp [Job.holds, stage]
    obtain rfl := job?_id hy
    exact absurd (Job.holds_of_coming coming) (lined.not_holds hx head waits hy)
  | launching =>
    have holds : x.holds := by simp [Job.holds, stage]
    obtain ⟨j, y, hy, coming⟩ := comes (h.alone hx holds)
    obtain rfl := lined.holder_unique hx hy holds (Job.holds_of_coming coming)
    obtain rfl := Option.some.inj (hx.symm.trans hy)
    simp [stage, Job.Stage.coming?] at coming
  | retiring => cases task : x.task <;> simp_all [Job.fits, Job.isStart]
  | _ => simp [Job.Stage.rank]

theorem Turn.pastStart (h : Turn lost s m n) (lined : m.Lined) (past : m.PastStart) :
    n.PastStart := by
  intro i x hx start
  cases h with
  | shift shift =>
    rcases shift.job lined hx with old | ⟨_, _, other⟩
    · exact past old start
    · cases task : x.task with
      | start scope => exact absurd task (other scope)
      | _ => simp [Job.isStart, task] at start
  | step found _ step =>
    obtain ⟨stage, advance⟩ := step.advance
    rw [job?_of_jobs found advance.jobs] at hx
    split at hx
    · obtain rfl := Option.some.inj hx
      exact Nat.le_trans (Nat.le_of_lt advance.nearer) (past found start)
    · exact past hx start

/-- Such a manager makes servers in restarts only. -/
theorem PastStart.task (past : m.PastStart) (lined : m.Lined) (hx : m.job? i = some x)
    {scope : Scope} (stage : x.stage = .launching scope) : x.task = .restart := by
  have fits := lined.fits hx
  cases task : x.task with
  | restart => rfl
  | start aim =>
    have early := past hx (by simp [Job.isStart, task])
    simp [stage, Job.Stage.rank] at early
  | _ => simp [Job.fits, stage, task] at fits

/-! A manager at rest. -/

theorem AtRest.pastStart {window : Nat} (h : m.AtRest window) (clear : m.Clear)
    (lined : m.Lined) : m.PastStart := by
  obtain ⟨c, slot⟩ := Option.isSome_iff_exists.mp h.slot
  exact clear.pastStart lined (.inl slot)

/-- A manager at rest begins no restart for the time of rest. -/
theorem AtRest.resting {window : Nat} (h : m.AtRest window) (clear : m.Clear) (lined : m.Lined)
    (since : Time) : m.Resting since (since + window) where
  idle := h.idle
  past x mem start := h.pastStart clear lined (lined.job?_of_mem mem) start
  next := lined.positive
  late {d} gathers := by
    obtain rfl := Option.some.inj (h.gathers.symm.trans gathers)
    exact ⟨Nat.le_refl _, by simp [Debouncer.due?]⟩

theorem Resting.not_isReplacing {since till : Time} (h : m.Resting since till) :
    m.isReplacing = false :=
  List.any_eq_false.mpr fun x mem => by simp [(h.idle x mem).2]

/-! A manager that is disposed of. -/

theorem Turn.disposed (h : Turn lost s m n) (disposed : m.disposed) : n.disposed := by
  cases h with
  | shift shift => exact shift.fixed.2.2.2.1.trans disposed
  | step _ _ step => exact step.disposed disposed

/-- Once the manager is disposed of, no further restart gets the slot. -/
theorem Turn.not_isReplacing (h : Turn lost s m n) (lined : m.Lined) (disposed : m.disposed)
    (idle : m.isReplacing = false) : n.isReplacing = false := by
  have before {i : JobId} {x : Job} (hx : m.job? i = some x) (task : x.task = .restart) :
      x.mayMake = false := by
    simpa [task] using List.any_eq_false.mp idle x (mem_of_job? hx)
  have lined' : n.Lined := by
    cases h with
    | shift shift => exact shift.lined lined
    | step found _ step => exact lined.jobStep found step
  by_contra replaces
  obtain ⟨x, hx, task, may⟩ := lined'.isReplacing_iff.mp (by simpa using replaces)
  cases h with
  | shift shift =>
    rcases shift.job lined hx with old | ⟨fresh, _⟩
    · simp [before old task] at may
    · simp [mayMake_of_fresh fresh] at may
  | step found _ step =>
    obtain ⟨stage, advance⟩ := step.advance
    rw [job?_of_jobs found advance.jobs] at hx
    split at hx
    · obtain rfl := Option.some.inj hx
      simp [advance.makes disposed (before found task)] at may
    · simp [before hx task] at may

/-! The scopes of restarts. -/

/-- A restart begins to replace a server that there is, or makes one for the manager's scope. -/
theorem JobStep.scope_or_slot {t : Site} (step : JobStep m s x n t) (hx : m.job? x.id = some x)
    (task : x.task = .restart) (idle : x.mayMake = false) {y : Job} (hy : n.job? x.id = some y)
    (may : y.mayMake) : m.scope.isSome ∨ m.slot.isSome := by
  have comes {k : Manager} {stage : Job.Stage} (hy : (k.put x.id stage).job? x.id = some y)
      (same : k.jobs = m.jobs) : Job.mayMake { x with stage } := by
    rw [job?_at same hx, if_pos rfl] at hy
    exact Option.some.inj hy ▸ may
  cases step with
  | launch stage head aim =>
    rcases aim with start | ⟨_, _, bound, _⟩
    · simp [start] at task
    · simp [bound]
  | retire stage head _ live slot => simp [slot]
  | bind stage start => simp [start] at task
  | bound stage | relaunch stage | create stage | uncreated stage =>
    simp [Job.mayMake, stage] at idle
  | come | close =>
    have may := comes hy rfl
    simp [Job.mayMake, Job.isStart, task] at may
  | _ =>
    have may := comes hy rfl
    simp [Job.mayMake] at may

theorem Turn.aimed (h : Turn lost s m n) (lined : m.Lined) (aimed : m.Aimed)
    (bound : ∀ {c}, m.Has c → m.scope.isSome) : n.Aimed := by
  intro i x hx task may
  cases h with
  | shift shift =>
    rw [shift.fixed.2.1]
    rcases shift.job lined hx with old | ⟨fresh, _⟩
    · exact aimed old task may
    · simp [mayMake_of_fresh fresh] at may
  | @step y _ _ found _ step =>
    have stays (some : m.scope.isSome) : n.scope.isSome := by
      rcases step.scope with same | ⟨scope, new, _⟩
      · rwa [same]
      · rw [new]
        rfl
    have whole := hx
    obtain ⟨stage, advance⟩ := step.advance
    rw [job?_of_jobs found advance.jobs] at hx
    split at hx
    · next here =>
      obtain rfl := Option.some.inj hx
      cases before : y.mayMake with
      | true => exact stays (aimed found task before)
      | false =>
        rcases step.scope_or_slot found task before (here ▸ whole) may with known | full
        · exact stays known
        · obtain ⟨c, slot⟩ := Option.isSome_iff_exists.mp full
          exact stays (bound (.inl slot))
    · exact stays (aimed hx task may)

theorem aimed_starting (variant : Variant) (scope : Scope) :
    ((new variant).ask (.start scope)).1.Aimed := by
  intro i x hx task
  rw [job?_ask rfl] at hx
  split at hx
  · obtain rfl := Option.some.inj hx
    simp at task
  · simp [new, job?] at hx

end Manager

namespace Broker

variable {b c d : Broker} {a : ActivationId} {m : ManagerId} {e : ErrandId} {s : BackendId}
  {next : Move}

/-- The manager gets a server in the move that was not there before. -/
def Gains (b : Broker) (next : Move) (m : ManagerId) (s : BackendId) : Prop :=
  b.site.backend? s = none ∧ ∃ n, (b.move next).managers[m]? = some n ∧ n.Has s

/-! Which managers make servers. -/

theorem Sound.gains_of_coming (h : b.Sound) (new : b.site.backend? s = none)
    (up : ((b.move next).managers[m]?).any fun n => n.jobs.any fun x => x.stage.coming? = some s) :
    b.Gains next m s := by
  obtain ⟨n, manager, coming⟩ := (Option.any_eq_true _ _).mp up
  obtain ⟨x, mem, coming⟩ := List.any_eq_true.mp coming
  have lined := (h.move next).kept.lined manager
  exact ⟨new, n, manager, .inr ⟨x.id, x, lined.job?_of_mem mem, by simpa using coming⟩⟩

/-- What a manager gets it has made. -/
theorem Gains.makes (gains : b.Gains next m s) (h : b.Sound) : ∃ x, b.Makes next m x s := by
  obtain ⟨new, n, manager, has⟩ := gains
  obtain ⟨_, y, _, found, _⟩ := (h.move next).stocked.has manager has
  obtain ⟨i, x, _, makes, _⟩ := h.makes new found
  obtain ⟨k, other, also⟩ := makes.has
  obtain rfl := (h.move next).stocked.apart manager other has also
  exact ⟨x, makes⟩

theorem HasHad.pastStart {moves : List Move} (had : b.HasHad moves m s) (h : b.Sound) :
    ∃ n, (b.run moves).managers[m]? = some n ∧ n.PastStart := by
  obtain ⟨front, ⟨rest, rfl⟩, n, manager, has⟩ := had
  have sound := h.run front
  have past : n.PastStart := (sound.staffed.clear manager).pastStart (sound.kept.lined manager) has
  rw [run_append]
  exact sound.manager_run (fun lined turn => turn.pastStart lined) manager past rest

/-- A manager that has had a server makes another one in a restart only. -/
theorem Gains.restart (gains : b.Gains next m s) (h : b.Sound) {n : Manager}
    (manager : b.managers[m]? = some n) (past : n.PastStart) :
    ∃ x, b.Makes next m x s ∧ x.task = .restart ∧ n.isReplacing := by
  obtain ⟨x, makes⟩ := gains.makes h
  obtain ⟨k, scope, other, job, stage⟩ := makes.job
  obtain rfl := Option.some.inj (manager.symm.trans other)
  have lined := h.kept.lined manager
  have task := past.task lined job stage
  exact ⟨x, makes, task, lined.isReplacing_iff.mpr ⟨x, job, task, by simp [Job.mayMake, stage]⟩⟩

/-- If no restart has got the slot by the disposal, the manager makes no other server. -/
theorem Sound.gains_nothing (h : b.Sound) {n : Manager} (manager : b.managers[m]? = some n)
    (past : n.PastStart) (disposed : n.disposed) (idle : n.isReplacing = false)
    (moves : List Move) : ¬ (b.run moves).Gains next m s := by
  intro gains
  obtain ⟨k, later, past, _, idle⟩ := h.manager_run
    (P := fun n => n.PastStart ∧ n.disposed ∧ n.isReplacing = false)
    (fun lined turn before => ⟨turn.pastStart lined before.1, turn.disposed before.2.1,
      turn.not_isReplacing lined before.2.1 before.2.2⟩) manager ⟨past, disposed, idle⟩ moves
  obtain ⟨_, _, _, replaces⟩ := gains.restart (h.run moves) later past
  simp [idle] at replaces

theorem IsQuiet.gains_nothing (quiet : b.IsQuiet m) (h : b.Sound) : ¬ b.Gains next m s := by
  intro gains
  obtain ⟨n, manager, quiet⟩ := quiet
  obtain ⟨x, makes⟩ := gains.makes h
  obtain ⟨k, scope, other, job, stage⟩ := makes.job
  obtain rfl := Option.some.inj (manager.symm.trans other)
  simpa [Job.mayMake, stage] using quiet.makes job

/-- A manager that was at rest has no restart that makes a server before the time of rest has
passed. -/
theorem Sound.idle_at_rest (h : b.Sound) {n : Manager} (manager : b.managers[m]? = some n)
    {window : Nat} (rest : n.AtRest window) {moves : List Move}
    (early : (b.run moves).site.clock.now < b.site.clock.now + window) :
    ∃ k, (b.run moves).managers[m]? = some k ∧ k.PastStart ∧ k.isReplacing = false := by
  have clear : n.Clear := h.staffed.clear manager
  have lined := h.kept.lined manager
  have start : b.HasAt m (·.Resting b.site.clock.now (b.site.clock.now + window))
      b.site.clock.now := ⟨rfl, n, manager, rest.resting clear lined _⟩
  obtain ⟨later, _, time, k, there, rests⟩ := h.kept.resting_run start (Nat.le_refl _) moves
  obtain ⟨_, also, past⟩ := h.manager_run (fun lined turn => turn.pastStart lined) manager
    (rest.pastStart clear lined) moves
  obtain rfl := Option.some.inj (there.symm.trans also)
  exact ⟨k, there, past, (rests (time ▸ early)).not_isReplacing⟩

/-! Restarts that go on. -/

/-- All restarts that are to make servers have scopes to make them for. -/
def IsAimed (b : Broker) : Prop :=
  ∀ {m : ManagerId} {n : Manager}, b.managers[m]? = some n → n.Aimed

private theorem IsAimed.staffing {lost : Prop} (aimed : b.IsAimed) (h : b.Sound)
    (staffing : Staffing lost b c) : c.IsAimed := by
  intro m n manager
  rcases staffing.before manager with ⟨x, hx, turn⟩ | ⟨_, ⟨variant, scope, rfl⟩, _⟩
  · refine turn.aimed (h.kept.lined hx) (aimed hx) fun has => ?_
    obtain ⟨_, _, _, _, _, bound, _⟩ := h.stocked.has hx has
    simp [bound]
  · exact Manager.aimed_starting variant scope

theorem IsAimed.run (aimed : b.IsAimed) (h : b.Sound) (moves : List Move) :
    (b.run moves).IsAimed := by
  have all : (b.run moves).Sound ∧ (b.run moves).IsAimed := by
    refine run_induction (P := fun c => c.Sound ∧ c.IsAimed) (fun b next before => ?_)
      ⟨h, aimed⟩ moves
    refine (before.1.kept.moves next).keeps (P := fun c => c.Sound ∧ c.IsAimed) before ?_ ?_
    · rintro c d ⟨h, aimed⟩ same
      have staffing : Staffing False c d := same.staffing
      exact ⟨h.alike same, aimed.staffing h staffing⟩
    · rintro sight c d ⟨h, aimed⟩ change
      exact ⟨h.change change, aimed.staffing h (h.staffed.staffing h.kept change)⟩
  intro m n manager
  exact all.2 manager

theorem isAimed_opening (host : Host) (plan : BackendName → Plan) (clock : Clock) :
    IsAimed (opening host plan clock) := by
  intro m n manager
  simp [opening] at manager

/-- A manager with jobs is none that falls silent. -/
private theorem tidy_of_busy {n : Manager} (manager : b.managers[m]? = some n)
    (busy : n.jobs ≠ []) : b.tidy.managers[m]? = some n := by
  simp [Broker.tidy, manager, busy]

/-- A job that can go on does so in a turn of its manager. -/
theorem move_job (h : b.IsLined) {n : Manager} {x : Job} (manager : b.managers[m]? = some n)
    (job : n.job? x.id = some x) (steps : n.canStep b.site.clock x) :
    (b.move (.agent (.manager m (.job x.id)))).managers[m]? =
        some (n.stepJob b.ticked.site x).1 ∧
      (b.move (.agent (.manager m (.job x.id)))).site = (n.stepJob b.ticked.site x).2 := by
  have ready : b.isReady (.manager m (.job x.id)) := by
    simp [isReady, manager, Manager.isReady, Manager.isMoving, job, steps]
  have moved : b.move (.agent (.manager m (.job x.id))) =
      ({ b.ticked with
        managers := b.ticked.managers.set m (n.stepJob b.ticked.site x).1
        site := (n.stepJob b.ticked.site x).2 } : Broker).tidy := by
    have also : b.ticked.managers[m]? = some n := manager
    simp only [move, ready, if_true, act, stepManager, also, Manager.act, job]
  have busy : (n.stepJob b.ticked.site x).1.jobs ≠ [] := by
    have ticks : n.canStep b.ticked.site.clock x := steps
    obtain ⟨stage, advance⟩ :=
      (Manager.jobStep_stepJob ((h manager).fits job) ticks).advance
    have found := Manager.job?_of_jobs job advance.jobs x.id
    rw [if_pos rfl] at found
    exact List.ne_nil_of_mem (Manager.mem_of_job? found)
  rw [moved]
  refine ⟨tidy_of_busy ?_ busy, rfl⟩
  exact List.getElem?_set_self (List.getElem?_eq_some_iff.mp manager).1

/-- The manager can work out its options, and servers can be made. -/
structure Furnishes (b : Broker) (n : Manager) : Prop where
  options : ∃ provider options, n.provider.options b.site.host = (provider, .ok options)
  servers : ∀ name, (b.site.plan name).createFailure = none

/-- A job that works out the options goes on to make a server. -/
theorem gains_of_launching (h : b.IsLined) {n : Manager} {x : Job} {scope : Scope}
    (manager : b.managers[m]? = some n) (job : n.job? x.id = some x)
    (stage : x.stage = .launching scope) (furnishes : b.Furnishes n) :
    b.Gains (.agent (.manager m (.job x.id))) m b.site.backends.length := by
  obtain ⟨provider, options, read⟩ := furnishes.options
  obtain ⟨managers, _⟩ := move_job h manager job (by simp [Manager.canStep, stage])
  have also : n.provider.options b.ticked.site.host = (provider, .ok options) := read
  have makes (name : BackendName) : (b.ticked.site.plan name).createFailure = none :=
    furnishes.servers name
  obtain ⟨due, started⟩ : ∃ due, (n.stepJob b.ticked.site x).1 =
      { n with provider }.put x.id (.starting b.site.backends.length due options) := by
    simp only [Manager.stepJob, stage, Manager.launch, also, Site.create, makes]
    exact ⟨_, rfl⟩
  rw [started] at managers
  exact ⟨List.getElem?_eq_none (Nat.le_refl _), _, managers,
    .inr ⟨x.id, _, Manager.job?_put_self job _, rfl⟩⟩

/-- A restart that has got the slot goes on to make a server. -/
theorem gains_of_isReplacing (h : b.Sound) (aimed : b.IsAimed) {n : Manager}
    (manager : b.managers[m]? = some n) (replaces : n.isReplacing) (furnishes : b.Furnishes n) :
    ∃ moves next s, (b.run moves).Gains next m s := by
  have lined := h.kept.lined manager
  obtain ⟨x, job, task, may⟩ := lined.isReplacing_iff.mp replaces
  have fits := lined.fits job
  cases stage : x.stage with
  | launching scope =>
    exact ⟨[], _, _, gains_of_launching h.kept.lined manager job stage furnishes⟩
  | retiring s due =>
    obtain ⟨scope, bound⟩ := Option.isSome_iff_exists.mp (aimed manager job task may)
    -- the old server is gone after some time
    have late : n.canStep (b.move (.wait due.time)).site.clock x := by
      simp [Manager.canStep, stage, move, setClock, Clock.reached, Clock.set]
    have gone : n.stepJob (b.move (.wait due.time)).ticked.site x =
        (n.put x.id (.launching scope), (b.move (.wait due.time)).ticked.site.endDispose s) := by
      simp only [Manager.stepJob, stage, bound]
    obtain ⟨managers, site⟩ := move_job (h.move (.wait due.time)).kept.lined manager job late
    rw [gone] at managers site
    have frame := congrArg Site.frame site
    rw [Site.frame_endDispose] at frame
    obtain ⟨_, host, plan⟩ := by simpa only [Site.frame, Prod.mk.injEq] using frame
    refine ⟨[.wait due.time, .agent (.manager m (.job x.id))], _, _,
      gains_of_launching (x := { x with stage := .launching scope }) (h.run _).kept.lined
        managers (Manager.job?_put_self job _) rfl ⟨?_, ?_⟩⟩
    · simp only [run_cons, run_nil, host]
      exact furnishes.options
    · simp only [run_cons, run_nil, plan]
      exact furnishes.servers
  | _ => simp_all [Job.mayMake, Job.fits, Job.isStart]

/-! The eviction. -/

/-- Whatever a sweep after a change of interpreters takes out of the cache it has in hand. -/
theorem sweeping_of_evicted (h : b.Filed) {x : Errand} {key : ScopeKey}
    (turn : b.turn? next = some e) (found : b.errand? e = some x)
    (task : x.task = .sweep .interpreters) (entry : (key, a) ∈ b.cache)
    (out : (key, a) ∉ (b.move next).cache) :
    ∃ keys gone, (b.move next).Sweeping e keys gone ∧ a ∈ gone := by
  have also : b.ticked.errand? e = some x := found
  have runs : b.canRun e := by
    by_contra idle
    rw [cache_of_idle turn (by simpa using idle)] at out
    exact out entry
  rw [move_of_turn turn runs] at out ⊢
  have changes : (b.ticked.stepErrand e).cache ≠ b.cache := fun same => out (same ▸ entry)
  by_cases surveys : ∃ active stale, x.stage = .surveying [] active stale
  · obtain ⟨active, stale, stage⟩ := surveys
    have step : b.ticked.stepErrand e = b.ticked.beginEviction e stale := by
      rw [stepErrand, also]
      simp only [stage]
    rw [step] at out ⊢
    refine ⟨_, _, (sweeping_beginEviction (errandStage?_of_errand also) stale).alike (.tidy _),
      ?_⟩
    refine (mem_entriesOf (b := b.ticked) (h.filing (.rest rfl rfl))).mpr ⟨key, ?_, entry⟩
    by_contra kept
    have cache : (b.ticked.beginEviction e stale).tidy.cache =
        b.cache.filter fun x => !stale.contains x.1 := cache_beginEviction b.ticked e stale
    exact out (cache ▸ List.mem_filter.mpr ⟨entry, by simpa using kept⟩)
  · refine absurd ?_ changes
    cases begun : x.stage.isFresh with
    | true =>
      have stage : x.stage = .fresh := by
        cases stage : x.stage <;> simp_all [Errand.Stage.isFresh]
      rw [stepErrand, also]
      simp only [stage, task]
      rfl
    | false =>
      exact cache_stepErrand (b := b.ticked) also begun
        fun active stale stage => surveys ⟨active, stale, stage⟩

/-- A sweep after a change of interpreters evicts an activation. If the activation's manager has had
a server, only a restart makes another one, and none does so once the manager is disposed of, unless
the restart has got the slot by then. One that has got it does make another server, as soon as the
old one is gone, if the options can be worked out and servers can be made. No restart of a manager
that was at rest has got it before the time of rest has passed: until then the manager makes no
other server, and if it is disposed of by then it never does. When the sweep is over, the manager of
a full server makes none any more, and all that it has had are disposed of. -/
theorem evicted_manager_restarts (host : Host) (plan : BackendName → Plan) (clock : Clock)
    (past : List Move) (next : Move) (later : List Move) (e : ErrandId) (x : Errand)
    (key : ScopeKey) (a : ActivationId) (stage : Activation.Stage) (m : ManagerId) :
    let b := (opening host plan clock).run past
    let c := b.move next
    let d := c.run later
    let had (s : BackendId) := (opening host plan clock).HasHad (past ++ next :: later) m s
    b.turn? next = some e → b.errand? e = some x → x.task = .sweep .interpreters →
    (key, a) ∈ b.cache → (key, a) ∉ c.cache →
    d.stage? a = some stage → stage.manager? = some m →
      (∀ t, had t → ∃ n, d.managers[m]? = some n ∧
        (∀ turn s, d.Gains turn m s →
          n.isReplacing ∧ ∃ y, d.Makes turn m y s ∧ y.task = .restart) ∧
        (n.disposed → n.isReplacing = false → ∀ more turn s, ¬ (d.run more).Gains turn m s) ∧
        (n.isReplacing → d.Furnishes n → ∃ more turn s, (d.run more).Gains turn m s)) ∧
      (∀ front rest n window, past ++ next :: later = front ++ rest →
        let q := (opening host plan clock).run front
        q.managers[m]? = some n → n.AtRest window →
        d.site.clock.now < q.site.clock.now + window →
          (∀ turn s, ¬ d.Gains turn m s) ∧
          (d.isDisposed m → ∀ more turn s, ¬ (d.run more).Gains turn m s)) ∧
      ∀ evicted, d.errandOutcome? e = some (.swept evicted) → d.FoundFull a m →
        (∀ more turn s, ¬ (d.run more).Gains turn m s) ∧
        ∀ s, had s → d.site.disposals s = 1 ∧ ¬ d.site.isLive s := by
  intro b c d had turn found task entry out at_stage named
  have whole : d = (opening host plan clock).run (past ++ next :: later) := by
    rw [run_append, run_cons]
  have sound : b.Sound := (sound_opening host plan clock).run past
  have sound' : d.Sound := (sound.move next).run later
  refine ⟨fun t before => ?_, ?_, fun evicted swept won => ?_⟩
  · obtain ⟨n, manager, past⟩ := HasHad.pastStart before (sound_opening host plan clock)
    rw [← whole] at manager
    have aimed : d.IsAimed :=
      whole ▸ IsAimed.run (isAimed_opening host plan clock) (sound_opening ..) _
    refine ⟨n, manager, fun turn s gains => ?_, fun disposed idle more turn s =>
      sound'.gains_nothing manager past disposed idle more,
      fun replaces => gains_of_isReplacing sound' aimed manager replaces⟩
    obtain ⟨y, makes, restart, replaces⟩ := gains.restart sound' manager past
    exact ⟨replaces, y, makes, restart⟩
  · intro front rest n window split q manager rests early
    have onward : d = q.run rest := by rw [whole, split, run_append]
    have sound : q.Sound := (sound_opening host plan clock).run front
    rw [onward] at early sound' ⊢
    obtain ⟨k, manager, past, idle⟩ := sound.idle_at_rest manager rests early
    refine ⟨fun turn s gains => ?_, fun disposed more turn s => ?_⟩
    · obtain ⟨_, _, _, replaces⟩ := gains.restart sound' manager past
      simp [idle] at replaces
    · have disposed : k.disposed := by simpa [isDisposed, manager] using disposed
      exact sound'.gains_nothing manager past disposed idle more
  · have since : c = (opening host plan clock).run (past ++ [next]) := by
      rw [run_append, run_cons, run_nil]
    have custody : c.Custody :=
      since ▸ (custody_opening host plan clock).run (sound_opening host plan clock) _
    obtain ⟨keys, gone, sweeping, mem⟩ :=
      sweeping_of_evicted sound.filed turn found task entry out
    have old : e < c.nextErrand := by
      obtain ⟨_, found, _⟩ := sweeping.keys
      have found : c.errandStage? e = _ := found
      exact since ▸ lt_nextErrand_run (since ▸ found)
    have ended := errandStage?_of_outcome swept
    have goes : d.Sweeping e keys gone :=
      (sweeping.run custody (sound.move next) old later).resolve_right fun away =>
        absurd (away.symm.trans ended) (by simp)
    obtain ⟨_, _, quiet⟩ := (goes.ended ended).2 a mem
    obtain ⟨n, manager, quiet⟩ := quiet m won
    refine ⟨fun more turn s => IsQuiet.gains_nothing (IsQuiet.run ⟨n, manager, quiet⟩ sound' more)
      (sound'.run more), fun s before => ?_⟩
    have once :=
      HasHad.disposed before (sound_opening host plan clock) (whole ▸ manager) quiet.has
    rw [← whole] at once
    exact ⟨once, fun live => by simp [Site.isLive, once] at live⟩

/-- A folder and one in it are open, and servers take their time to shut down. -/
def nestedHost : Host :=
  { fullHost with
    folders := [outerFolder, innerFolder]
    interpreter := fun _ => .ok (some python) }

def lingeringPlan (_ : BackendName) : Plan := { disposeDelay := 1500 }

/-- A file of each folder is looked up, and its server comes up. -/
def nestedStart : List Move :=
  [.entrust (.find (some outerScript) none), .errand 0,
    .entrust (.find (some script) none), .errand 1] ++
    List.replicate 10 (.agent (.activation 0)) ++ List.replicate 10 (.agent (.activation 1))

/-- The active interpreter is another one. The second manager hears of it and the watch begins a
sweep. -/
def nestedChange : List Move :=
  [.change { nestedHost with interpreter := fun _ => .ok (some newPython) } lingeringPlan,
    .hear .interpreter, .agent (.manager 1 (.options .listen)), .agent (.manager 1 .forward),
    .agent .watch]

/-- The sweep disposes of the first manager. When it turns to the second one, the restart of that
one has got the slot, and goes on. -/
def overtaking : List Move :=
  List.replicate 7 (.agent .watch) ++ [.wait 1000] ++
    List.replicate 3 (.agent (.manager 1 .restart)) ++ [.wait 500] ++
    List.replicate 4 (.agent .watch) ++ [.wait 1000, .agent (.manager 1 .restart)]

/-- The sweep has just been entrusted. -/
def nestedSweep : Broker :=
  (opening nestedHost lingeringPlan {}).run (nestedStart ++ nestedChange)

private theorem move_nestedSweep : nestedSweep.move (.agent .watch) =
    (nestedSweep.ticked.putErrand 2 (.surveying [⟨"file:///a", "/usr/bin/python"⟩,
      ⟨"file:///a/b", "/usr/bin/python"⟩] [] [])).tidy := by
  have fresh : (nestedSweep.errand? 2).any fun x =>
      x.stage.isFresh && x.sweep? = some .interpreters := by decide +kernel
  obtain ⟨x, found, about⟩ := (Option.any_eq_true _ _).mp fresh
  obtain ⟨stage, sweeps⟩ := by simpa using about
  have keys : nestedSweep.keys = [⟨"file:///a", "/usr/bin/python"⟩,
      ⟨"file:///a/b", "/usr/bin/python"⟩] := by
    rw [keys_of_sorted _ (by decide +kernel)]
    decide +kernel
  rw [← keys]
  refine move_of_fresh (by decide +kernel) found ?_ (Errand.task_of_sweep? sweeps)
  cases at_stage : x.stage <;> simp_all [Errand.Stage.isFresh]

/-- It has looked at all keys, and evicts in its next turn. -/
def nestedEviction : Broker :=
  (nestedSweep.move (.agent .watch)).run (List.replicate 2 (.agent .watch))

private theorem run_nestedEviction (moves : List Move) : nestedEviction.run moves =
    ((nestedSweep.ticked.putErrand 2 (.surveying [⟨"file:///a", "/usr/bin/python"⟩,
      ⟨"file:///a/b", "/usr/bin/python"⟩] [] [])).tidy).run
        (List.replicate 2 (.agent .watch) ++ moves) := by
  rw [nestedEviction, move_nestedSweep, run_append]

/-- The first of two evicted managers was at rest and is disposed of at once: it makes no other
server. The second one makes another server after its disposal. -/
theorem evicted_manager_makes_another_server :
    let b := nestedEviction
    let c := b.move (.agent .watch)
    let f := c.run (List.replicate 5 (.agent .watch))
    let d := c.run overtaking
    (b.cache = [(⟨"file:///a", "/usr/bin/python"⟩, 0), (⟨"file:///a/b", "/usr/bin/python"⟩, 1)] ∧
      c.cache = []) ∧
    (f.result? 0 = some (.ok ⟨.fullB, 0⟩) ∧ f.isDisposed 0 ∧
      ∀ more turn s, ¬ (f.run more).Gains turn 0 s) ∧
    (d.result? 1 = some (.ok ⟨.fullB, 1⟩) ∧ d.isDisposed 1) ∧
    ∃ turn y, d.Gains turn 1 2 ∧ d.Makes turn 1 y 2 ∧ y.task = .restart := by
  intro b c f d
  have at_b : b = b.run [] := (run_nil b).symm
  have at_c : c = b.run [.agent .watch] := by rw [run_cons, run_nil]
  have at_f : f = b.run (.agent .watch :: List.replicate 5 (.agent .watch)) := by rw [run_cons]
  have at_d : d = b.run (.agent .watch :: overtaking) := by rw [run_cons]
  rw [run_nestedEviction] at at_b at_c at_f at_d
  have caches : b.cache = [(⟨"file:///a", "/usr/bin/python"⟩, 0),
      (⟨"file:///a/b", "/usr/bin/python"⟩, 1)] ∧ c.cache = [] := by
    rw [at_b, at_c]
    decide +kernel
  have turn : b.turn? (.agent .watch) = some 2 := by
    rw [at_b]
    decide +kernel
  have sweeps : (b.errand? 2).bind Errand.sweep? = some .interpreters := by
    rw [at_b]
    decide +kernel
  obtain ⟨x, found, kind⟩ := Option.bind_eq_some_iff.mp sweeps
  have task := Errand.task_of_sweep? kind
  have first : f.result? 0 = some (.ok ⟨.fullB, 0⟩) ∧ f.isDisposed 0 := by
    rw [at_f]
    decide +kernel
  have second : d.result? 1 = some (.ok ⟨.fullB, 1⟩) ∧ d.isDisposed 1 := by
    rw [at_d]
    decide +kernel
  have restarts (later : List Move) := evicted_manager_restarts nestedHost lingeringPlan {}
    (nestedStart ++ nestedChange ++ .agent .watch :: List.replicate 2 (.agent .watch))
    (.agent .watch) later 2 x
  rw [run_append, ← nestedSweep, run_cons, ← nestedEviction] at restarts
  have spared : ∀ more turn s, ¬ (f.run more).Gains turn 0 s := by
    have up : (nestedSweep.managers[0]?).any fun n => n.slot.isSome &&
        n.restarter = some ⟨1000, .idle⟩ &&
          n.jobs.all fun x => x.id ≠ Manager.restartJob ∧ x.task ≠ .restart := by decide +kernel
    obtain ⟨n, manager, rests⟩ := (Option.any_eq_true _ _).mp up
    simp only [Bool.and_eq_true, decide_eq_true_eq, List.all_eq_true] at rests
    have timely := (restarts (List.replicate 5 (.agent .watch)) ⟨"file:///a", "/usr/bin/python"⟩ 0
      (.settled (.ok ⟨.fullB, 0⟩)) 0 turn found task (by rw [caches.1]; simp)
      (by rw [caches.2]; simp) (result?_eq_some.mp first.1) rfl).2.1 (nestedStart ++ nestedChange)
      (.agent .watch :: List.replicate 2 (.agent .watch) ++
        .agent .watch :: List.replicate 5 (.agent .watch)) n 1000 (List.append_assoc ..)
    rw [← nestedSweep] at timely
    refine (timely manager ⟨rests.1.1, rests.1.2, rests.2⟩ ?_).2 first.2
    have there : (nestedEviction.move (.agent .watch)).run (List.replicate 5 (.agent .watch)) = _ :=
      at_f
    rw [there]
    decide +kernel
  have gains : d.Gains (.agent (.manager 1 .restart)) 1 2 := by
    have sound : d.Sound :=
      (((((sound_opening nestedHost lingeringPlan {}).run _).move _).run _).move _).run _
    have new : (d.site.backend? 2).isNone := by
      rw [at_d]
      decide +kernel
    refine sound.gains_of_coming (by simpa using new) ?_
    rw [at_d]
    decide +kernel
  have had : (opening nestedHost lingeringPlan {}).HasHad (nestedStart ++ nestedChange ++
      .agent .watch :: List.replicate 2 (.agent .watch) ++ .agent .watch :: overtaking) 1 1 := by
    refine ⟨nestedStart, ?_, ?_⟩
    · simp only [List.append_assoc]
      exact List.prefix_append ..
    · have up : (((opening nestedHost lingeringPlan {}).run nestedStart).managers[1]?.bind
          (·.slot)) = some 1 := by decide +kernel
      obtain ⟨n, manager, slot⟩ := Option.bind_eq_some_iff.mp up
      exact ⟨n, manager, .inl slot⟩
  obtain ⟨n, manager, makes, _⟩ := (restarts overtaking ⟨"file:///a/b", "/usr/bin/python"⟩ 1
    (.settled (.ok ⟨.fullB, 1⟩)) 1 turn found task (by rw [caches.1]; simp)
    (by rw [caches.2]; simp) (result?_eq_some.mp second.1) rfl).1 1 had
  obtain ⟨_, y, makes, restart⟩ := makes _ _ gains
  exact ⟨caches, ⟨first.1, first.2, spared⟩, second, _, y, gains, makes, restart⟩

end Broker

end LanguageBroker
