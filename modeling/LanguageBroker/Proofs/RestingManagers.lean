import LanguageBroker.Proofs.BrokerManagers
import LanguageBroker.Proofs.WatchedOptions

/-!
Managers at rest. All that befalls a manager in a move of the broker, besides duties of its own, is
one of five things, and none of them begins a restart or lets one begin earlier. So a manager with a
server, no restart on its way and no change noticed begins no restart before its time of rest has
passed.
-/

namespace LanguageBroker

namespace Site

private theorem clock_noteBackend (s : Site) (b : BackendId) (e : BackendEvent) :
    (s.noteBackend b e).clock = s.clock := congrArg Prod.fst (frame_noteBackend s b e)

private theorem clock_settleCall (s : Site) (b : BackendId) (method : Method) (start : Time)
    (result : CallResult) : (s.settleCall b method start result).clock = s.clock := by
  unfold settleCall
  split
  · rfl
  · dsimp only
    split <;> rfl

private theorem clock_beginCall (s : Site) (b : BackendId) (method : Method) (params : Json) :
    (s.beginCall b method params).1.clock = s.clock := by
  unfold beginCall
  split
  · rfl
  · split
    · exact clock_noteBackend ..
    · rfl

private theorem clock_cancelCall (s : Site) (d : Delivery) :
    (s.cancelCall d).1.clock = s.clock :=
  (clock_settleCall ..).trans (clock_noteBackend ..)

private theorem clock_emits (s : Site) (events : List TelemetryEvent) :
    (events.foldl emit s).clock = s.clock := by
  induction events generalizing s with
  | nil => rfl
  | cons e events ih => exact ih (s.emit e)

end Site

namespace Manager

variable {m n : Manager} {s : Site} {since till : Time}

/-- The property is kept in the steps of jobs and in all that others do to a manager. -/
structure Lasts (P : Manager → Prop) : Prop where
  step : ∀ {m n : Manager} {s t : Site} {x : Job}, m.Lined → m.job? x.id = some x →
    m.JobStep s x n t → m.OptionStep s x n t → P m → P n
  forget : ∀ {m : Manager} (j : JobId), P m → P (m.forget j)
  ask : ∀ {m : Manager} {task : Job.Task}, task = .lookUp ∨ task = .dispose → P m →
    P (m.ask task).1
  hear : ∀ {m : Manager} (e : WorkspaceEvent), P m → P (m.hear e)
  silence : ∀ {m : Manager}, P m → P m.silence

/-- A job takes a step. -/
theorem Lasts.job {P : Manager → Prop} (lasts : Lasts P) (lined : m.Lined) {j : JobId}
    (moving : m.isMoving s.clock j) (holds : P m) : P (m.act s (.job j)).1 := by
  unfold isMoving at moving
  split at moving
  · next x found =>
    obtain rfl := job?_id found
    simp only [act, found]
    exact lasts.step lined found (jobStep_stepJob (lined.fits found) moving) optionStep_stepJob
      holds
  · simp at moving

theorem clock_act (m : Manager) (s : Site) (duty : Duty) : (m.act s duty).2.clock = s.clock := by
  have steps (x : Job) : (m.stepJob s x).2.clock = s.clock :=
    congrArg Prod.fst optionStep_stepJob.frame
  cases duty with
  | options duty | forward => rfl
  | restart =>
    simp only [act, stepRestart]
    split
    · rfl
    · split
      · rfl
      · exact steps _
  | job j =>
    simp only [act]
    split
    · exact steps _
    · rfl

/-- No restart is on its way. None begins before the one time, if no change has been noticed by the
other. -/
structure Resting (m : Manager) (since till : Time) : Prop where
  idle : ∀ x ∈ m.jobs, x.id ≠ restartJob ∧ x.task ≠ .restart
  /-- The first start has made its server, and sets nothing up any more. -/
  past : ∀ x ∈ m.jobs, x.isStart → x.stage.rank ≤ 2
  next : restartJob < m.nextJob
  late : ∀ {d}, m.restarter = some d →
    till ≤ since + d.window ∧ ∀ {due}, d.due? = some due → till ≤ due.time

theorem lasts_resting (since till : Time) : Lasts (·.Resting since till) where
  step {m n s t x} lined found step options h := by
    obtain ⟨stage, advance⟩ := step.advance
    have job {y : Job} (mem : y ∈ n.jobs) : y ∈ m.jobs ∨ y = { x with stage } := by
      rw [advance.jobs] at mem
      obtain ⟨z, mem, same⟩ := List.mem_map.mp mem
      split at same
      · next here =>
        have also := lined.job?_of_mem mem
        rw [here, found] at also
        obtain rfl := Option.some.inj also
        exact .inr same.symm
      · exact .inl (same ▸ mem)
    refine ⟨fun y mem => ?_, fun y mem start => ?_, step.nextJob ▸ h.next, ?_⟩
    · rcases job mem with old | rfl
      · exact h.idle y old
      · exact h.idle x (mem_of_job? found)
    · rcases job mem with old | rfl
      · exact h.past y old start
      · exact Nat.le_trans (Nat.le_of_lt advance.nearer) (h.past x (mem_of_job? found) start)
    · cases options with
      | aside _ _ _ _ restarter => exact restarter ▸ h.late
      | closed _ _ _ _ _ restarter => simp [restarter]
      | bound stage =>
        -- only a first start binds the options
        have fits := lined.fits found
        cases task : x.task with
        | start scope =>
          have early := h.past x (mem_of_job? found) (by simp [Job.isStart, task])
          simp [stage, Job.Stage.rank] at early
        | _ => simp [Job.fits, stage, task] at fits
      | unbound _ _ _ _ restarter | unread _ _ _ _ restarter | asked _ _ _ _ _ restarter =>
        exact restarter ▸ h.late
  forget j h :=
    ⟨fun x mem => h.idle x (List.mem_of_mem_filter mem),
      fun x mem => h.past x (List.mem_of_mem_filter mem), h.next, h.late⟩
  ask {m task} other h := by
    refine ⟨fun x mem => ?_, fun x mem start => ?_, Nat.lt_succ_of_lt h.next, h.late⟩
    · rcases List.mem_append.mp mem with old | new
      · exact h.idle x old
      · obtain rfl := List.mem_singleton.mp new
        exact ⟨Nat.ne_of_gt h.next, by rcases other with rfl | rfl <;> simp⟩
    · rcases List.mem_append.mp mem with old | new
      · exact h.past x old start
      · obtain rfl := List.mem_singleton.mp new
        rcases other with rfl | rfl <;> simp [Job.isStart] at start
  hear e h := ⟨h.idle, h.past, h.next, h.late⟩
  silence h := ⟨h.idle, h.past, h.next, by simp [Manager.silence]⟩

/-- A manager at rest begins no restart before the time has come. -/
theorem Resting.act (h : m.Resting since till) (lined : m.Lined) {duty : Duty}
    (ready : m.isReady s.clock duty) (after : since ≤ s.clock.now) (early : s.clock.now < till) :
    (m.act s duty).1.Resting since till := by
  cases duty with
  | options duty => exact ⟨h.idle, h.past, h.next, h.late⟩
  | forward =>
    refine ⟨h.idle, h.past, h.next, ?_⟩
    intro d gathers
    obtain ⟨before, restarter, rfl⟩ := Option.map_eq_some_iff.mp gathers
    obtain ⟨window, late⟩ := h.late restarter
    have anew : till ≤ s.clock.now + before.window :=
      Nat.le_trans window (Nat.add_le_add_right after before.window)
    cases phase : before.phase <;> simp_all [Debouncer.trigger, Debouncer.due?, Clock.after]
  | restart =>
    have free : m.job? restartJob = none :=
      job?_eq_none.mpr fun x mem => (h.idle x mem).1
    simp only [isReady, free, Option.any_eq_true, Debouncer.isDue] at ready
    obtain ⟨d, gathers, due, waits, reached⟩ := ready
    have late := (h.late gathers).2 waits
    have reached : due.time ≤ s.clock.now := by simpa [Clock.reached] using reached
    exact absurd (Nat.lt_of_lt_of_le early late) (Nat.not_lt.mpr reached)
  | job j => exact (lasts_resting since till).job lined ready h

end Manager

namespace Broker

variable {b c : Broker} {m i : ManagerId} {j : JobId} {a : ActivationId} {e : ErrandId}
  {P : Manager → Prop} {now : Time}

/-- The broker has that manager at that time, and the property holds of it. -/
def HasAt (b : Broker) (m : ManagerId) (P : Manager → Prop) (now : Time) : Prop :=
  b.site.clock.now = now ∧ ∃ n, b.managers[m]? = some n ∧ P n

namespace HasAt

open Manager (Lasts)

theorem congr (h : b.HasAt m P now) (managers : c.managers = b.managers)
    (clock : c.site.clock.now = b.site.clock.now) : c.HasAt m P now :=
  ⟨clock.trans h.1, managers ▸ h.2⟩

theorem set (h : b.HasAt m P now) {x n : Manager} (found : b.managers[i]? = some x)
    (keeps : P x → P n) : (b.setManager i n).HasAt m P now := by
  obtain ⟨time, y, there, holds⟩ := h
  refine ⟨time, ?_⟩
  by_cases here : i = m
  · subst here
    obtain rfl := Option.some.inj (found.symm.trans there)
    exact ⟨n, List.getElem?_set_self (List.getElem?_eq_some_iff.mp found).1, keeps holds⟩
  · exact ⟨y, (List.getElem?_set_ne here).trans there, holds⟩

theorem append (h : b.HasAt m P now) (n : Manager) :
    HasAt { b with managers := b.managers ++ [n] } m P now := by
  obtain ⟨time, x, there, holds⟩ := h
  refine ⟨time, x, ?_, holds⟩
  exact (List.getElem?_append_left (List.getElem?_eq_some_iff.mp there).1).trans there

theorem ask (h : b.HasAt m P now) (lasts : Lasts P) {task : Job.Task}
    (other : task = .lookUp ∨ task = .dispose) : (b.ask i task).1.HasAt m P now := by
  rcases ask_cases b i task with ⟨x, found, same⟩ | ⟨_, same⟩
  · rw [same]
    exact h.set found (lasts.ask other)
  · rw [same]
    exact h

theorem forgetJob (h : b.HasAt m P now) (lasts : Lasts P) : (b.forgetJob i j).HasAt m P now := by
  cases found : b.managers[i]? with
  | some x =>
    rw [forgetJob_eq found]
    exact h.set found (lasts.forget j)
  | none =>
    refine h.congr ?_ rfl
    exact List.modify_eq_self (List.getElem?_eq_none_iff.mp found)

theorem stepManager (h : b.HasAt m P now) {x : Manager} (found : b.managers[i]? = some x)
    {duty : Manager.Duty} (keeps : P x → P (x.act b.site duty).1) :
    (b.stepManager i duty).HasAt m P now := by
  have same : b.stepManager i duty =
      { b.setManager i (x.act b.site duty).1 with site := (x.act b.site duty).2 } := by
    simp [Broker.stepManager, found, setManager]
  rw [same]
  exact (h.set found keeps).congr rfl (congrArg Clock.now (x.clock_act b.site duty))

theorem await (h : b.HasAt m P now) (lasts : Lasts P) (lined : b.IsLined)
    (ready : b.canAwait i j) : (b.await i j).1.HasAt m P now := by
  unfold canAwait at ready
  split at ready
  · simp at ready
  next x found =>
  unfold Broker.await
  cases ended : x.outcome? j with
  | some o =>
    have outcome : b.outcome? i j = some o := by simp [outcome?, found, ended]
    rw [outcome]
    exact h.forgetJob lasts
  | none =>
    have outcome : b.outcome? i j = none := by simp [outcome?, found, ended]
    rw [outcome]
    exact h.stepManager found (lasts.job (lined found) (by simpa [ended] using ready))

theorem tidy (h : b.HasAt m P now) (lasts : Lasts P) : b.tidy.HasAt m P now := by
  obtain ⟨time, x, there, holds⟩ := h
  refine ⟨time, ?_⟩
  simp only [Broker.tidy, List.getElem?_map, List.getElem?_zipIdx, there, Option.map_some]
  split
  · exact ⟨_, rfl, lasts.silence holds⟩
  · exact ⟨_, rfl, holds⟩

/-! Activations. -/

private theorem install (h : b.HasAt m P now) (a : ActivationId) (scope : Scope)
    (variant : Variant) : (b.install a scope variant).HasAt m P now := by
  unfold Broker.install
  dsimp only
  split
  · exact h.congr rfl rfl
  · refine h.congr ?_ ?_
    · split
      · simp only [fallBack, reportMissing]
        split <;> rfl
      · rfl
    · split
      · simp only [fallBack, reportMissing]
        split <;> rfl
      · rfl

theorem stepActivation (h : b.HasAt m P now) (lasts : Lasts P) (lined : b.IsLined)
    (ready : b.canActivate a) : (b.stepActivation a).HasAt m P now := by
  unfold canActivate at ready
  split at ready
  · simp at ready
  next x found =>
  have awaited {i : ManagerId} {j : JobId} (job : x.stage.job? = some (i, j)) :
      (b.await i j).1.HasAt m P now := by
    refine h.await lasts lined ?_
    cases stage : x.stage <;> simp_all [Activation.Stage.job?]
  simp only [Broker.stepActivation, found]
  cases stage : x.stage with
  | fresh =>
    simp only [choose]
    split <;> exact h.congr rfl (congrArg Clock.now (Site.clock_emits ..))
  | installing variant => exact h.install ..
  | launchingFull variant =>
    simp only [launchFull]
    split
    · rw [startManager_eq]
      exact (h.append _).congr rfl rfl
    · exact h.congr rfl rfl
  | queuedSimple =>
    simp only [enterSimple]
    split
    · exact h.congr rfl rfl
    · split
      · rw [startManager_eq]
        exact (h.append _).congr rfl rfl
      · exact h.congr rfl rfl
  | startingFull variant i j | startingSimple i j =>
    have waits := awaited (by rw [stage]; rfl)
    obtain ⟨⟨d, o⟩, here⟩ : ∃ pair, b.await i j = pair := ⟨_, rfl⟩
    simp only [here] at waits ⊢
    rcases o with _ | (_ | _ | _)
    · exact waits
    · exact waits.congr rfl rfl
    · exact (waits.ask (i := i) lasts (.inr rfl)).congr rfl rfl
    · exact waits.congr rfl rfl
  | cleaningFull variant i j cause | cleaningSimple i j cause =>
    have waits := awaited (by rw [stage]; rfl)
    obtain ⟨⟨d, o⟩, here⟩ : ∃ pair, b.await i j = pair := ⟨_, rfl⟩
    simp only [here] at waits ⊢
    cases o with
    | none => exact waits
    | some o => exact waits.congr rfl rfl
  | concluding result => cases result <;> exact h.congr rfl rfl
  | settled result => exact h

/-! Errands. -/

private theorem entry (h : b.HasAt m P now) (scope : Scope) :
    (b.entry scope).1.HasAt m P now := by
  rcases entry_cases b scope with same | ⟨_, same⟩
  · rw [same]
    exact h
  · rw [same]
    exact h.congr rfl rfl

theorem forgetErrand (h : b.HasAt m P now) (lasts : Lasts P) (e : ErrandId) :
    (b.forgetErrand e).HasAt m P now := by
  rcases forgetErrand_cases b e with ⟨_, same⟩ | ⟨_, i, j, _, _, same⟩
  · rw [same]
    exact h.congr rfl rfl
  · rw [same]
    exact (h.forgetJob (i := i) (j := j) lasts).congr rfl rfl

private theorem beginErrand (h : b.HasAt m P now) (lasts : Lasts P) (e : ErrandId)
    (task : Errand.Task) : (b.beginErrand e task).HasAt m P now := by
  cases task with
  | locate resource interpreter =>
    cases located : locate b.site.host resource interpreter <;>
      simp only [Broker.beginErrand, located] <;> exact h.congr rfl rfl
  | prepare resource interpreter | find resource interpreter =>
    cases located : locate b.site.host resource interpreter with
    | error cause =>
      simp only [Broker.beginErrand, located]
      exact h.congr rfl rfl
    | ok scope =>
      simp only [Broker.beginErrand, located]
      exact (h.entry scope).congr rfl rfl
  | deliver record | inspect record =>
    exact (h.ask (i := record.manager) lasts (.inl rfl)).congr rfl rfl
  | sweep kind =>
    cases kind with
    | folders | interpreters => exact h.congr rfl rfl
    | everything =>
      simp only [Broker.beginErrand]
      split
      · exact (h.forgetErrand lasts _).congr rfl rfl
      · exact h.congr rfl rfl

private theorem reach (h : b.HasAt m P now) (e : ErrandId) (server : Option BackendId)
    (task : Errand.Task) : (b.reach e server task).HasAt m P now := by
  unfold Broker.reach
  split
  · next record method params =>
    split
    · exact h.congr rfl rfl
    · next server =>
      have clock := congrArg Clock.now (Site.clock_beginCall b.site server method params)
      split
      · next site result begun =>
        rw [begun] at clock
        exact h.congr rfl clock
      · next site d begun =>
        rw [begun] at clock
        exact h.congr rfl clock
  · exact h.congr rfl rfl

theorem stepErrand (h : b.HasAt m P now) (lasts : Lasts P) (lined : b.IsLined)
    (ready : b.canRun e) : (b.stepErrand e).HasAt m P now := by
  unfold canRun at ready
  split at ready
  · simp at ready
  next x found =>
  simp only [Broker.stepErrand, found]
  cases stage : x.stage with
  | fresh => exact h.beginErrand lasts e x.task
  | awaiting a =>
    dsimp only
    split <;> exact h.congr rfl rfl
  | asking i j =>
    have waits := h.await lasts lined (i := i) (j := j) (by simpa [stage] using ready)
    obtain ⟨⟨d, o⟩, here⟩ : ∃ pair, b.await i j = pair := ⟨_, rfl⟩
    simp only [here] at waits ⊢
    rcases o with _ | (_ | _ | _)
    · exact waits
    · exact waits.reach ..
    · exact waits.reach ..
    · exact waits.reach ..
  | serving d =>
    dsimp only
    split
    · exact h.congr rfl (congrArg Clock.now (Site.clock_settleCall ..))
    · exact h.congr rfl (congrArg Clock.now (Site.clock_cancelCall ..))
  | surveying left active stale => cases left <;> exact h.congr rfl rfl
  | gathering left records evicted => cases left <;> exact h.congr rfl rfl
  | releasing left evicted =>
    cases left with
    | nil => exact h.congr rfl rfl
    | cons r left =>
      dsimp only
      unfold release
      split
      · split <;> exact h.congr rfl rfl
      · exact (h.ask (i := r.manager) lasts (.inr rfl)).congr rfl rfl
  | queuedSimple r left evicted =>
    have dropped : (b.dropSimple e r).HasAt m P now := h.congr rfl rfl
    exact (dropped.ask (i := r.manager) lasts (.inr rfl)).congr rfl rfl
  | disposing i j left evicted =>
    have waits := h.await lasts lined (i := i) (j := j) (by simpa [stage] using ready)
    obtain ⟨⟨d, o⟩, here⟩ : ∃ pair, b.await i j = pair := ⟨_, rfl⟩
    simp only [here] at waits ⊢
    cases o with
    | none => exact waits
    | some o => exact waits.congr rfl rfl
  | done outcome => exact h

/-! Moves. -/

private theorem stepWatch (h : b.HasAt m P now) (lasts : Lasts P) (lined : b.IsLined)
    (ready : b.isReady .watch) : b.stepWatch.HasAt m P now := by
  simp only [isReady] at ready
  rcases watch : b.watch with _ | ⟨news, _ | e⟩
  · simpa only [Broker.stepWatch, watch] using h
  · simp only [Broker.stepWatch, watch]
    exact h.congr rfl rfl
  · simp only [watch] at ready
    simp only [Broker.stepWatch, watch, awaitErrand]
    cases outcome : b.errandOutcome? e with
    | some o => exact (h.forgetErrand lasts e).congr rfl rfl
    | none => exact h.stepErrand lasts lined (by simpa [canAwaitErrand, outcome] using ready)

/-- What lasts, and is kept in the duties of managers, is kept in every move. -/
theorem move (h : b.HasAt m P now) (lasts : Lasts P) (lined : b.IsLined)
    (acts : ∀ {n duty}, n.Lined → n.isReady b.site.clock duty → P n →
      P (n.act b.ticked.site duty).1) (next : Move) :
    ∃ later, now ≤ later ∧ (b.move next).HasAt m P later := by
  have ticked : b.ticked.HasAt m P now := h.congr rfl rfl
  have stays {c : Broker} (here : c.HasAt m P now) : ∃ later, now ≤ later ∧ c.HasAt m P later :=
    ⟨now, Nat.le_refl now, here⟩
  cases next with
  | agent agent =>
    simp only [Broker.move]
    split
    · next ready =>
      cases agent with
      | watch => exact stays ((ticked.stepWatch lasts lined ready).tidy lasts)
      | activation a => exact stays ((ticked.stepActivation lasts lined ready).tidy lasts)
      | manager i duty =>
        obtain ⟨x, found, ready⟩ := (Option.any_eq_true _ _).mp ready
        exact stays ((ticked.stepManager found (acts (lined found) ready)).tidy lasts)
    · exact stays h
  | errand e =>
    simp only [Broker.move]
    split
    · next runs =>
      simp only [Bool.and_eq_true] at runs
      exact stays ((ticked.stepErrand lasts lined runs.1).tidy lasts)
    · exact stays h
  | enter e host =>
    simp only [Broker.move]
    split
    · next looking =>
      have before : (b.inHost host).HasAt m P now := h.congr rfl rfl
      obtain ⟨x, found, fresh, _⟩ := fresh_of_isLooking looking
      have also : (b.inHost host).errand? e = some x := found
      have runs : (b.inHost host).canRun e := by simp [canRun, also, fresh]
      have entered := before.stepErrand lasts (b := b.inHost host) lined runs
      exact stays ((entered.congr (c := ((b.inHost host).stepErrand e).inHost b.site.host)
        rfl rfl).tidy lasts)
    · exact stays h
  | entrust task =>
    simp only [Broker.move]
    split
    · exact stays (h.congr rfl rfl)
    · exact stays h
  | drop e =>
    simp only [Broker.move]
    split
    · exact stays h
    · exact stays ((h.forgetErrand lasts e).tidy lasts)
  | hear event =>
    obtain ⟨time, x, there, holds⟩ := h
    refine stays ⟨time, x.hear event, ?_, lasts.hear event holds⟩
    simp [Broker.move, Broker.hear, there]
  | wait duration =>
    obtain ⟨time, there⟩ := h
    exact ⟨now + duration, Nat.le_add_right .., congrArg (· + duration) time, there⟩
  | cancel e | change host plan | hold held => exact stays (h.congr rfl rfl)

theorem mono {Q : Manager → Prop} (h : b.HasAt m P now) (fits : ∀ n, P n → Q n) :
    b.HasAt m Q now := by
  obtain ⟨time, n, there, holds⟩ := h
  exact ⟨time, n, there, fits n holds⟩

end HasAt

/-- In a run, a manager at rest stays at rest until the time has come. -/
theorem Kept.resting_run (kept : b.Kept) {since till : Time}
    (h : b.HasAt m (·.Resting since till) now) (after : since ≤ now) (moves : List Move) :
    ∃ later, since ≤ later ∧
      (b.run moves).HasAt m (fun n => later < till → n.Resting since till) later := by
  have all : (b.run moves).Kept ∧ ∃ later, since ≤ later ∧
      (b.run moves).HasAt m (fun n => later < till → n.Resting since till) later := by
    refine run_induction (P := fun c => c.Kept ∧ ∃ later, since ≤ later ∧
      c.HasAt m (fun n => later < till → n.Resting since till) later) (fun c next before => ?_)
      ⟨kept, now, after, h.mono fun _ rests _ => rests⟩ moves
    obtain ⟨kept, now, after, there⟩ := before
    refine ⟨kept.move next, ?_⟩
    by_cases early : now < till
    · have rests := there.mono fun n rests => rests early
      obtain ⟨later, since_then, rests⟩ := rests.move (Manager.lasts_resting since till)
        kept.lined (fun lined ready rests => rests.act (s := c.ticked.site) lined
          ((Manager.isReady_tick _ _ _).trans ready) (there.1 ▸ after) (there.1 ▸ early)) next
      exact ⟨later, Nat.le_trans after since_then, rests.mono fun n rests _ => rests⟩
    · have anyone : c.HasAt m (fun _ => True) now := there.mono fun _ _ => trivial
      obtain ⟨later, since_then, anyone⟩ := anyone.move
        ⟨fun _ _ _ _ _ => trivial, fun _ _ => trivial, fun _ _ => trivial, fun _ _ => trivial,
          fun _ => trivial⟩ kept.lined (fun _ _ _ => trivial) next
      exact ⟨later, Nat.le_trans after since_then, anyone.mono fun n _ soon =>
        absurd (Nat.lt_of_le_of_lt since_then soon) early⟩
  exact all.2

end Broker

end LanguageBroker
