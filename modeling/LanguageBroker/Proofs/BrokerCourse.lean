import LanguageBroker.Proofs.BrokerStep

/-!
Every move of a broker is one of the changes, or the end of the watch's sweep and such a change.
-/

namespace LanguageBroker.Broker

/-- The managers' jobs are in order. -/
def IsLined (b : Broker) : Prop :=
  ∀ {m : ManagerId} {x : Manager}, b.managers[m]? = some x → x.Lined

variable {b : Broker} {m : ManagerId} {j : JobId} {a : ActivationId} {e : ErrandId}
  {sight : Option Sight}

theorem forgetJob_eq {x : Manager} (found : b.managers[m]? = some x) (j : JobId) :
    b.forgetJob m j = b.setManager m (x.forget j) := by
  have same : b.managers.modify m (fun y => y.forget j) = b.managers.set m (x.forget j) := by
    apply List.ext_getElem?
    intro i
    rw [List.getElem?_modify, List.getElem?_set]
    obtain ⟨inside, rfl⟩ := List.getElem?_eq_some_iff.mp found
    by_cases here : m = i
    · subst here
      simp [inside]
    · simp [here]
  simp only [forgetJob, setManager, same]

theorem ask_eq {x : Manager} (found : b.managers[m]? = some x) (task : Job.Task) :
    b.ask m task = (b.setManager m (x.ask task).1, (x.ask task).2) := by
  simp [ask, found, setManager]

theorem ask_cases (b : Broker) (m : ManagerId) (task : Job.Task) :
    (∃ x, b.managers[m]? = some x ∧
      b.ask m task = (b.setManager m (x.ask task).1, (x.ask task).2)) ∨
    (b.managers[m]? = none ∧ b.ask m task = (b, 0)) := by
  cases found : b.managers[m]? with
  | none => exact .inr ⟨rfl, by simp [ask, found]⟩
  | some x => exact .inl ⟨x, rfl, ask_eq found task⟩

theorem forgetErrand_cases (b : Broker) (e : ErrandId) :
    ((∀ x, b.errand? e = some x → x.stage.job? = none) ∧
      b.forgetErrand e = { b.leaveLine (.errand e) with
        errands := b.errands.filter fun x => x.id ≠ e }) ∨
    (∃ x m j, b.errand? e = some x ∧ x.stage.job? = some (m, j) ∧
      b.forgetErrand e = { (b.forgetJob m j).leaveLine (.errand e) with
        errands := b.errands.filter fun x => x.id ≠ e }) := by
  cases found : b.errand? e with
  | none => exact .inl ⟨by simp, by simp [forgetErrand, found]⟩
  | some x =>
    cases job : x.stage.job? with
    | none => exact .inl ⟨by simp [job], by simp [forgetErrand, found, job]⟩
    | some pair => exact .inr ⟨x, pair.1, pair.2, rfl, job, by simp [forgetErrand, found, job]; rfl⟩

theorem change_stepManager {x : Manager} (found : b.managers[m]? = some x) (lined : x.Lined)
    {duty : Manager.Duty} (ready : x.isReady b.site.clock duty) :
    ∃ c, Change sight b c ∧ Alike c (b.stepManager m duty) := by
  have same : b.stepManager m duty =
      { b.setManager m (x.act b.site duty).1 with site := (x.act b.site duty).2 } := by
    simp [stepManager, found, setManager]
  rw [same]
  rcases x.act_cases lined ready with ⟨y, _, hy, steps, step⟩ | ⟨aside, site⟩
  · exact ⟨_, .job found hy steps step, .refl _⟩
  · rw [site]
    exact ⟨b, .rest, .setManager found aside⟩

/-- Whoever waits for a job takes it further or puts it away. -/
theorem await_cases (lined : b.IsLined) (ready : b.canAwait m j) :
    (∃ x o, b.managers[m]? = some x ∧ x.outcome? j = some o ∧
      b.await m j = (b.setManager m (x.forget j), some o)) ∨
    (∃ c d, Change sight b c ∧ Alike c d ∧ b.await m j = (d, none)) := by
  unfold canAwait at ready
  split at ready
  · simp at ready
  · next x found =>
    cases ended : x.outcome? j with
    | some o =>
      have outcome : b.outcome? m j = some o := by simp [outcome?, found, ended]
      exact .inl ⟨x, o, found, ended, by simp [await, outcome, forgetJob_eq found]⟩
    | none =>
      have outcome : b.outcome? m j = none := by simp [outcome?, found, ended]
      have moving : x.isReady b.site.clock (.job j) := by
        simpa [ended, Manager.isReady] using ready
      obtain ⟨c, change, alike⟩ := change_stepManager found (lined found) moving
      exact .inr ⟨c, _, change, alike, by simp [await, outcome]⟩

theorem stage_of_outcome {x : Manager} {o : Job.Outcome} (ended : x.outcome? j = some o) :
    ∃ y, x.job? j = some y ∧ y.stage = .done o := by
  unfold Manager.outcome? at ended
  split at ended
  · next found => exact ⟨_, found, congrArg Job.Stage.done (Option.some.inj ended)⟩
  · simp at ended

theorem isDone_of_outcome {x : Manager} {o : Job.Outcome} (ended : x.outcome? j = some o) :
    ∃ y, x.job? j = some y ∧ y.isDone :=
  Manager.isDone_of_outcome? (by simp [ended])

/-! Activations. -/

private theorem alike_fields {c d : Broker} (activations : d.activations.map (fun x =>
      (x.scope, x.stage)) = c.activations.map fun x => (x.scope, x.stage))
    (cache : d.cache = c.cache) (simple : d.simple = c.simple) (line : d.simpleLine = c.simpleLine)
    (errands : d.errands = c.errands) (next : d.nextErrand = c.nextErrand)
    (managers : d.managers = c.managers) (site : c.site.Calm d.site)
    (watched : ∀ {e}, d.isWatched e → c.isWatched e ∨
      ∃ stage, (e, .sweep .interpreters, stage) ∈ d.errands.map (fun x => (x.id, x.task, x.stage))
      := by exact .inl) :
    Alike c d :=
  .of_managers activations cache simple line (by rw [errands]) next managers site watched

private theorem calm_emits (s : Site) (events : List TelemetryEvent) :
    s.Calm (events.foldl Site.emit s) := by
  induction events generalizing s with
  | nil => exact .refl s
  | cons e events ih => exact (Site.Calm.emit s e).trans (ih _)

/-- The time at which an activation began does not matter. -/
private theorem map_modify_began (l : List Activation) (a : ActivationId) (t : Time)
    (stage : Activation.Stage) :
    ((l.modify a fun x => { x with began := t }).modify a fun x => { x with stage }).map
      (fun x => (x.scope, x.stage)) =
    (l.modify a fun x => { x with stage }).map fun x => (x.scope, x.stage) := by
  apply List.ext_getElem?
  intro i
  simp only [List.getElem?_map, List.getElem?_modify]
  by_cases here : a = i <;> simp [here, Function.comp_def]

/-- A full server is chosen only where it is configured. -/
theorem isFull_of_choice {settings : Settings} {prefers : Bool} {supported : FullVariant → Bool}
    {variant : Variant} {events : List TelemetryEvent}
    (chosen : Choice.make settings prefers supported = (.full variant, events)) :
    variant.isFull := by
  unfold Choice.make at chosen
  split at chosen
  · simp at chosen
  · dsimp only at chosen
    split at chosen
    · obtain ⟨rfl, _⟩ : settings.fullVariant.toVariant = variant ∧ _ := by simpa using chosen
      cases settings.fullVariant <;> rfl
    · simp at chosen

private theorem change_choose {x : Activation} (found : b.activations[a]? = some x)
    (before : x.stage = .fresh) : ∃ c, Change none b c ∧ Alike c (b.choose a x.scope) := by
  have early : x.stage.isEarly := by simp [before, Activation.Stage.isEarly]
  obtain ⟨⟨choice, events⟩, chosen⟩ : ∃ pair, Choice.make
    (b.site.host.settings x.scope.resource) b.site.host.prefersSimple b.site.host.isSupported =
      pair := ⟨_, rfl⟩
  simp only [choose, chosen]
  cases choice with
  | simple =>
    exact ⟨_, .queue found early, alike_fields (map_modify_began ..) rfl rfl rfl rfl rfl rfl
      (calm_emits ..)⟩
  | full variant =>
    have full := isFull_of_choice chosen
    dsimp only
    split
    · exact ⟨b.putActivation a (.launchingFull variant), .turn found early rfl (by simp)
        (by simp [Activation.Stage.tries?, full]),
        alike_fields (map_modify_began ..) rfl rfl rfl rfl rfl rfl (calm_emits ..)⟩
    · exact ⟨b.putActivation a (.installing variant), .turn found early rfl (by simp)
        (by simp [Activation.Stage.tries?, full]),
        alike_fields (map_modify_began ..) rfl rfl rfl rfl rfl rfl (calm_emits ..)⟩

private theorem change_install {x : Activation} {variant : Variant}
    (found : b.activations[a]? = some x) (before : x.stage = .installing variant) :
    ∃ c, Change none b c ∧ Alike c (b.install a x.scope variant) := by
  have early : x.stage.isEarly := by simp [before, Activation.Stage.isEarly]
  unfold install
  dsimp only
  split
  · exact ⟨b.putActivation a (.launchingFull variant), .turn found early rfl (by simp)
      (fun v same => .inr (by rw [before]; exact same)),
      alike_fields rfl rfl rfl rfl rfl rfl rfl (.of_journal rfl rfl (.inr ⟨_, _, _, rfl⟩))⟩
  · split
    · refine ⟨_, .queue found early, ?_⟩
      unfold reportMissing
      dsimp only
      split <;> exact alike_fields rfl rfl rfl rfl rfl rfl rfl
        (.of_journal rfl rfl (.inr ⟨_, _, _, rfl⟩))
    · exact ⟨_, .queue found early, alike_fields rfl rfl rfl rfl rfl rfl rfl
        (.of_journal rfl rfl (.inr ⟨_, _, _, rfl⟩))⟩

theorem startManager_eq (b : Broker) (variant : Variant) (scope : Scope) :
    b.startManager variant scope =
      ({ b with managers := b.managers ++ [starting variant scope] }, b.managers.length, 1) := by
  simp [startManager, newManager, ask, starting, Manager.ask, Manager.new]

private theorem change_launchFull {x : Activation} {variant : Variant}
    (found : b.activations[a]? = some x) (before : x.stage = .launchingFull variant) :
    ∃ c, Change none b c ∧ Alike c (b.launchFull a x.scope variant) := by
  have early : x.stage.isEarly := by simp [before, Activation.Stage.isEarly]
  unfold launchFull
  split
  · rw [startManager_eq]
    exact ⟨_, .launchFull found before, .refl _⟩
  · exact ⟨_, .queue found early, alike_fields rfl rfl rfl rfl rfl rfl rfl (.emit _ _)⟩

private theorem change_enterSimple {x : Activation} (found : b.activations[a]? = some x)
    (before : x.stage = .queuedSimple) (first : b.isFirst (.activation a)) :
    ∃ c, Change none b c ∧ Alike c (b.enterSimple a x) := by
  unfold enterSimple
  dsimp only
  split
  · next record reusable =>
    obtain ⟨shared, live⟩ := Option.filter_eq_some_iff.mp reusable
    exact ⟨_, .share found before first shared (by simpa using live), .refl _⟩
  · next unusable =>
    have free (r : Record) (shared : b.simple = some r) : b.isDisposed r.manager := by
      simpa [shared, Option.filter_some] using unusable
    split
    · rw [startManager_eq]
      exact ⟨_, .launchSimple found before first free, .refl _⟩
    · exact ⟨_, .refuse found before, .refl _⟩

/-- The failure of a first start leads to a disposal. -/
private theorem clean_eq {x : Manager} (found : b.managers[m]? = some x) (j : JobId)
    (stage : JobId → Activation.Stage) :
    (b.setManager m (x.forget j)).clean m a stage =
      (b.setManager m ((x.forget j).ask .dispose).1).putActivation a
        (stage ((x.forget j).ask .dispose).2) := by
  have inside := (List.getElem?_eq_some_iff.mp found).1
  have here : (b.setManager m (x.forget j)).managers[m]? = some (x.forget j) := by
    simp [setManager, inside]
  simp only [clean, ask_eq here]
  simp [setManager]

theorem change_stepActivation (lined : b.IsLined) (ready : b.canActivate a) :
    ∃ c, Change none b c ∧ Alike c (b.stepActivation a) := by
  unfold canActivate at ready
  split at ready
  · simp at ready
  next x found =>
  have awaited {m : ManagerId} {j : JobId} (job : x.stage.job? = some (m, j)) :
      (∃ n o, b.managers[m]? = some n ∧ n.outcome? j = some o ∧
        b.await m j = (b.setManager m (n.forget j), some o)) ∨
      ∃ c d, Change none b c ∧ Alike c d ∧ b.await m j = (d, none) := by
    refine await_cases lined ?_
    cases stage : x.stage <;> simp_all [Activation.Stage.job?]
  simp only [stepActivation, found]
  cases stage : x.stage with
  | fresh => exact change_choose found stage
  | installing variant => exact change_install found stage
  | launchingFull variant => exact change_launchFull found stage
  | startingFull variant m j =>
    have waits := awaited (by rw [stage]; rfl)
    rcases waits with ⟨n, o, manager, ended, same⟩ | ⟨c, d, change, alike, same⟩
    · obtain ⟨y, hy, ends⟩ := stage_of_outcome ended
      have done : y.isDone := by simp [Job.isDone, ends]
      simp only [same]
      cases o with
      | failed cause =>
        dsimp only
        rw [clean_eq manager]
        refine ⟨_, .fail found (m := m) (j := j) ?_ manager hy ⟨cause, ends⟩ rfl ?_ ?_, .refl _⟩
        · simp [stage, Activation.Stage.starts?]
        · simp [stage, Activation.Stage.isLined]
        · simp [stage, Activation.Stage.tries?]
      | finished => exact ⟨_, .win found stage manager hy done, .refl _⟩
      | found server => exact ⟨_, .win found stage manager hy done, .refl _⟩
    · simp only [same]
      exact ⟨c, change, alike⟩
  | cleaningFull variant m j cause =>
    have waits := awaited (by rw [stage]; rfl)
    rcases waits with ⟨n, o, manager, ended, same⟩ | ⟨c, d, change, alike, same⟩
    · obtain ⟨y, hy, done⟩ := isDone_of_outcome ended
      simp only [same]
      exact ⟨_, .fallBack found stage manager hy done,
        alike_fields rfl rfl rfl rfl rfl rfl rfl (.emit _ _)⟩
    · simp only [same]
      exact ⟨c, change, alike⟩
  | queuedSimple => exact change_enterSimple found stage (by simpa [stage] using ready)
  | startingSimple m j =>
    have waits := awaited (by rw [stage]; rfl)
    rcases waits with ⟨n, o, manager, ended, same⟩ | ⟨c, d, change, alike, same⟩
    · obtain ⟨y, hy, ends⟩ := stage_of_outcome ended
      have done : y.isDone := by simp [Job.isDone, ends]
      simp only [same]
      cases o with
      | failed cause =>
        dsimp only
        rw [clean_eq manager]
        refine ⟨_, .fail found (m := m) (j := j) ?_ manager hy ⟨cause, ends⟩ rfl ?_ ?_, .refl _⟩
        · simp [stage, Activation.Stage.starts?]
        · simp [stage, Activation.Stage.isLined]
        · simp [stage, Activation.Stage.tries?]
      | finished => exact ⟨_, .winSimple found stage manager hy done, .refl _⟩
      | found server => exact ⟨_, .winSimple found stage manager hy done, .refl _⟩
    · simp only [same]
      exact ⟨c, change, alike⟩
  | cleaningSimple m j cause =>
    have waits := awaited (by rw [stage]; rfl)
    rcases waits with ⟨n, o, manager, ended, same⟩ | ⟨c, d, change, alike, same⟩
    · obtain ⟨y, hy, done⟩ := isDone_of_outcome ended
      simp only [same]
      exact ⟨_, .giveUp found stage manager hy done, .refl _⟩
    · simp only [same]
      exact ⟨c, change, alike⟩
  | concluding result =>
    cases result with
    | ok record =>
      exact ⟨_, .settle found stage, alike_fields rfl rfl rfl rfl rfl rfl rfl (.emit _ _)⟩
    | error cause => exact ⟨_, .settle found stage, .refl _⟩
  | settled result => simp [stage] at ready

/-! Errands. -/

/-- Whether somebody has seen the end of an activation does not matter. -/
private theorem bind_observe {α : Type} (b : Broker) (a i : ActivationId)
    {f : Activation → Option α} (same : ∀ x, f { x with observed := true } = f x) :
    (b.observe a).activations[i]?.bind f = b.activations[i]?.bind f := by
  simp only [observe, List.getElem?_modify]
  cases b.activations[i]? with
  | none => split <;> rfl
  | some x => split <;> simp [same]

private theorem result?_observe (b : Broker) (a i : ActivationId) :
    (b.observe a).result? i = b.result? i := bind_observe b a i fun _ => rfl

private theorem gather_observe (b : Broker) (a : ActivationId) (records : List Record) :
    (b.observe a).gather a records = b.gather a records := by
  have same : (b.observe a).record? a = b.record? a := bind_observe b a a fun _ => rfl
  simp only [gather, same]

private theorem map_observe (b : Broker) (a : ActivationId) :
    (b.observe a).activations.map (fun x => (x.scope, x.stage)) =
      b.activations.map fun x => (x.scope, x.stage) := by
  apply List.ext_getElem?
  intro i
  simp only [observe, List.getElem?_map, List.getElem?_modify]
  cases b.activations[i]? with
  | none => split <;> rfl
  | some x => split <;> rfl

theorem map_putErrand {c d : Broker} (same : d.errands = c.errands) (e : ErrandId)
    (stage : Errand.Stage) :
    (d.putErrand e stage).errands.map (fun x => (x.id, x.task, x.stage)) =
      (c.putErrand e stage).errands.map fun x => (x.id, x.task, x.stage) := by
  simp only [putErrand, same, List.map_map]
  apply List.map_congr_left
  intro x _
  simp only [Function.comp]
  split <;> rfl

private theorem alike_putErrand {s : Site} (calm : b.site.Calm s) (e : ErrandId)
    (stage : Errand.Stage) :
    Alike (b.putErrand e stage) ({ b with site := s }.putErrand e stage) :=
  .of_managers rfl rfl rfl rfl (map_putErrand (c := b) (d := { b with site := s }) rfl e stage)
    rfl rfl calm

/-- An errand that is over has nothing left to dispose of. -/
private theorem passes_done {old : Errand.Stage} (outcome : Errand.Outcome) (busy : old.isBusy)
    (waited : old.evicted = []) (keys : ∀ {evicted}, old.keys? = some evicted →
      (Errand.Stage.done outcome).keys? = some evicted) : old.Passes (.done outcome) :=
  ⟨List.nil_sublist _, List.nil_subset _, waited, busy, keys, rfl, rfl⟩

/-- A manager has told its server. -/
private theorem reach_cases (b : Broker) (e : ErrandId) (server : Option BackendId)
    (task : Errand.Task) : ∃ stage, Alike (b.putErrand e stage) (b.reach e server task) ∧
      stage.records = [] ∧ stage.evicted = [] ∧ stage.isLined = false ∧
        stage.job? = none := by
  unfold reach
  split
  · next method params =>
    split
    · exact ⟨_, .refl _, rfl, rfl, rfl, rfl⟩
    · next server =>
      have calm := Site.Calm.beginCall b.site server method params
      split
      · next here =>
        rw [here] at calm
        exact ⟨_, alike_putErrand calm _ _, rfl, rfl, rfl, rfl⟩
      · next here =>
        rw [here] at calm
        exact ⟨_, alike_putErrand calm _ _, rfl, rfl, rfl, rfl⟩
  · exact ⟨_, .refl _, rfl, rfl, rfl, rfl⟩

/-- An errand's first step, but for the sweep that ends the watch. -/
private theorem change_beginErrand {x : Errand} (found : b.errand? e = some x)
    (before : x.stage = .fresh)
    (within : ∀ r, x.task.record? = some r → r.manager < b.managers.length)
    (other : x.task ≠ .sweep .everything) : Change sight b (b.beginErrand e x.task) := by
  have done (outcome : Errand.Outcome) : Change sight b (b.finish e outcome) :=
    .pass found (by rw [before]; exact passes_done outcome rfl rfl (by simp [Errand.Stage.keys?]))
      (by simp [before, Errand.Stage.records]) (by rw [before]; rfl)
  have enter {scope : Scope} {resource : Option Uri} {interpreter : Option Interpreter}
      (located : locate b.site.host resource interpreter = .ok scope) {stage : Errand.Stage}
      (after : stage = .awaiting (b.entry scope).2 ∨
        stage = .done (.prepared (b.entry scope).2)) :
      Change sight b ((b.entry scope).1.putErrand e stage) :=
    .enter found before after ⟨resource, interpreter, located⟩
  have inquire {r : Record} (task : x.task.record? = some r) :
      Change sight b (((b.ask r.manager .lookUp).1).putErrand e
        (.asking r.manager (b.ask r.manager .lookUp).2)) := by
    have manager := List.getElem?_eq_getElem (within r task)
    rw [ask_eq manager]
    exact .inquire found before task manager
  cases task : x.task with
  | locate resource interpreter =>
    cases located : locate b.site.host resource interpreter with
    | error cause => simpa only [beginErrand, located] using done _
    | ok scope => simpa only [beginErrand, located] using done _
  | prepare resource interpreter =>
    cases located : locate b.site.host resource interpreter with
    | error cause => simpa only [beginErrand, located] using done _
    | ok scope =>
      simpa only [beginErrand, located, finish] using enter located (.inr rfl)
  | find resource interpreter =>
    cases located : locate b.site.host resource interpreter with
    | error cause => simpa only [beginErrand, located] using done _
    | ok scope =>
      simpa only [beginErrand, located] using enter located (.inl rfl)
  | deliver record method params => exact inquire (by rw [task]; rfl)
  | inspect record => exact inquire (by rw [task]; rfl)
  | sweep kind =>
    cases kind with
    | folders =>
      refine .evict (fun y hy => ?_) (by simp [found])
      obtain rfl := Option.some.inj (found.symm.trans hy)
      rw [before]
      rfl
    | interpreters =>
      refine .pass found ?_ (by simp [before, Errand.Stage.records]) (by rw [before]; rfl)
      rw [before]
      exact ⟨List.nil_sublist _, List.nil_subset _, rfl, rfl, by simp [Errand.Stage.keys?], rfl,
        rfl⟩
    | everything => exact absurd task other

theorem change_stepErrand {x : Errand} (lined : b.IsLined) (found : b.errand? e = some x)
    (within : ∀ r, x.task.record? = some r → r.manager < b.managers.length)
    (ready : b.canRun e) (other : x.stage = .fresh → x.task ≠ .sweep .everything) :
    ∃ c, Change (b.sight? e) b c ∧ Alike c (b.stepErrand e) := by
  have observed (a : ActivationId) (stage : Errand.Stage) :
      Alike (b.putErrand e stage) ((b.observe a).putErrand e stage) :=
    .of_managers (map_observe b a) rfl rfl rfl
      (map_putErrand (c := b) (d := b.observe a) rfl e stage) rfl rfl (.refl _)
  simp only [canRun, found] at ready
  simp only [stepErrand, found]
  cases stage : x.stage with
  | fresh => exact ⟨_, change_beginErrand found stage within (other stage), .refl _⟩
  | awaiting a =>
    simp only [stage] at ready
    obtain ⟨result, known⟩ := Option.isSome_iff_exists.mp ready
    simp only [result?_observe, known]
    cases result with
    | ok r => exact ⟨_, .tell found stage (.inl ⟨r, known, rfl⟩), observed a _⟩
    | error cause => exact ⟨_, .tell found stage (.inr ⟨cause, known, rfl⟩), observed a _⟩
  | asking m j =>
    have waits : b.canAwait m j := by simpa [stage] using ready
    rcases await_cases lined waits with ⟨n, o, manager, ended, same⟩ | ⟨c, d, change, alike, same⟩
    · obtain ⟨y, hy, done⟩ := isDone_of_outcome ended
      have answer (server : Option BackendId) :
          ∃ c, Change (b.sight? e) b c ∧
            Alike c ((b.setManager m (n.forget j)).reach e server x.task) := by
        obtain ⟨next, alike, records, evicted, still, jobs⟩ :=
          reach_cases (b.setManager m (n.forget j)) e server x.task
        rw [← forgetJob_eq manager] at alike ⊢
        refine ⟨_, .answer found (by rw [stage]; rfl) manager hy done
          ⟨?_, ?_, ?_, ?_, ?_, still, jobs⟩ ?_, alike⟩
        · simp [records]
        · simp [evicted]
        · rw [stage]
          rfl
        · rw [stage]
          rfl
        · simp [stage, Errand.Stage.keys?]
        · simp [stage, Errand.Stage.records]
      simp only [same]
      split
      · next never => simp at never
      · next server here =>
        obtain ⟨rfl, -⟩ := Prod.mk.inj here
        exact answer server
      · next here =>
        obtain ⟨rfl, -⟩ := Prod.mk.inj here
        exact answer none
    · simp only [same]
      exact ⟨c, change, alike⟩
  | serving d =>
    have done (outcome : Errand.Outcome) : Change (b.sight? e) b (b.putErrand e (.done outcome)) :=
      .pass found (by rw [stage]; exact passes_done outcome rfl rfl (by simp [Errand.Stage.keys?]))
        (by simp [stage, Errand.Stage.records]) (by rw [stage]; rfl)
    dsimp only
    split
    · exact ⟨_, done _, alike_putErrand (.endCall ..) _ _⟩
    · exact ⟨_, done _, alike_putErrand (.cancelCall ..) _ _⟩
  | surveying left active stale =>
    cases left with
    | nil =>
      refine ⟨_, .evict (fun y hy => ?_) (by simp [found]), .refl _⟩
      obtain rfl := Option.some.inj (found.symm.trans hy)
      rw [stage]
      rfl
    | cons key left =>
      refine ⟨_, .pass found ?_ (by simp [stage, Errand.Stage.records]) (by rw [stage]; rfl),
        .refl _⟩
      rw [stage]
      exact ⟨List.nil_sublist _, List.nil_subset _, rfl, rfl, by simp [Errand.Stage.keys?], rfl,
        rfl⟩
  | gathering left records evicted =>
    cases left with
    | nil =>
      refine ⟨_, .pass found ?_ (fun r hr => .inl (by rw [stage] at hr; exact hr))
        (by rw [stage]; rfl), .refl _⟩
      rw [stage]
      exact ⟨.refl _, List.nil_subset _, rfl, rfl, id, rfl, rfl⟩
    | cons a left =>
      simp only [gather_observe]
      exact ⟨_, .gather found stage (by simpa [stage] using ready), observed a _⟩
  | releasing left evicted =>
    cases left with
    | nil =>
      exact ⟨_, .pass found (by rw [stage]; exact passes_done _ rfl rfl id)
        (by simp [stage, Errand.Stage.records]) (by rw [stage]; rfl), .refl _⟩
    | cons r left =>
      dsimp only
      unfold release
      split
      · next simple =>
        cases used : b.isInUse r.manager with
        | true =>
          refine ⟨_, .pass found ?_ (fun s hs => ?_) (by rw [stage]; rfl), .refl _⟩
          · rw [stage]
            exact ⟨List.sublist_cons_self .., List.nil_subset _, rfl, rfl, id, rfl, rfl⟩
          · rw [stage] at hs
            rcases List.mem_cons.mp hs with rfl | hs
            · exact .inr used
            · exact .inl hs
        | false =>
          refine ⟨_, .look found stage simple used ?_, .refl _⟩
          obtain ⟨id, task, at_stage⟩ := x
          obtain rfl : at_stage = _ := stage
          simp [sight?, found, simple, used]
      · next full => exact ⟨_, .release found stage full, .refl _⟩
  | queuedSimple r left evicted =>
    have first : b.isFirst (.errand e) := by simpa [stage] using ready
    refine ⟨_, .discard found stage first ?_, .refl _⟩
    obtain ⟨id, task, at_stage⟩ := x
    obtain rfl : at_stage = _ := stage
    simp [sight?, found, first]
  | disposing m j left evicted =>
    have waits : b.canAwait m j := by simpa [stage] using ready
    rcases await_cases lined waits with ⟨n, o, manager, ended, same⟩ | ⟨c, d, change, alike, same⟩
    · obtain ⟨y, hy, done⟩ := isDone_of_outcome ended
      simp only [same]
      rw [← forgetJob_eq manager]
      refine ⟨_, .answer found (by rw [stage]; rfl) manager hy done ?_ ?_, .refl _⟩
      · rw [stage]
        exact ⟨.refl _, List.nil_subset _, rfl, rfl, id, rfl, rfl⟩
      · rw [stage]
        exact List.Subset.refl _
    · simp only [same]
      exact ⟨c, change, alike⟩
  | done outcome => simp [stage] at ready

/-! Moves. -/

/-- All that a move can be in the given surroundings. -/
inductive Course (sight : Option Sight) (host : Host) (b d : Broker) : Prop
  | one {s : Site} {c : Broker} (site : b.site.Calm s)
      (change : Change sight { b with site := s } c) (alike : Alike c d)
      (here : s.host = host := by rfl)
  /-- The end of the watch: its sweep is given up, and everything is swept out. -/
  | alone {s : Site} {w e : ErrandId} {x : Errand} {stale : List ScopeKey}
      (site : b.site.Calm s) (found : b.errand? e = some x) (fresh : x.stage = .fresh)
      (task : x.task = .sweep .everything) (other : w = e → b.isWatched e)
      (free : ∀ x, b.errand? w = some x → x.stage.isLaden → sight = some .lost)
      (alike : Alike ((({ b with site := s } : Broker).forgetErrand w).beginEviction e stale) d)

theorem Course.trans {c d : Broker} {host : Host} (course : Course sight host b c)
    (alike : Alike c d) : Course sight host b d := by
  cases course with
  | one site change same here => exact .one site change (same.trans alike) here
  | alone site found fresh task other free same =>
    exact .alone site found fresh task other free (same.trans alike)

/-- The errands' tasks are about managers that were made. -/
def IsInformed (b : Broker) : Prop := ∀ {e : ErrandId} {x : Errand} {r : Record},
  b.errand? e = some x → x.task.record? = some r → r.manager < b.managers.length

private theorem course_rest {c : Broker} (alike : Alike b c) : Course sight b.site.host b c :=
  .one (s := b.site) (.refl _) .rest alike

theorem calm_ticked (b : Broker) : b.site.Calm b.ticked.site :=
  .of_journal rfl rfl (.inl rfl)

private theorem course_stepErrand {s : Site} (site : b.site.Calm s) (lined : b.IsLined)
    (informed : b.IsInformed) (ready : ({ b with site := s } : Broker).canRun e) :
    Course (if ((b.endsWatch? e).bind b.errand?).any (·.stage.isLaden) then some .lost
      else b.sight? e) s.host b (({ b with site := s } : Broker).stepErrand e) := by
  cases found : b.errand? e with
  | none =>
    have missing : ({ b with site := s } : Broker).errand? e = none := found
    simp [canRun, missing] at ready
  | some x =>
    have here : ({ b with site := s } : Broker).errand? e = some x := found
    by_cases everything : x.stage = .fresh ∧ x.task = .sweep .everything
    · have before : ∀ y, b.errand? e = some y → y.stage.isSeeking := by
        intro y hy
        obtain rfl := Option.some.inj (found.symm.trans hy)
        rw [everything.1]
        rfl
      have ends : b.endsWatch? e = b.watch.bind (·.sweep) := by
        obtain ⟨id, task, stage⟩ := x
        obtain ⟨rfl, rfl⟩ : stage = _ ∧ task = _ := everything
        simp [endsWatch?, found]
      simp only [ends, stepErrand, here, everything.1, everything.2, beginErrand]
      cases sweep : b.watch.bind (·.sweep) with
      | none =>
        exact .one (s := s) site (.evict before (by simp [here]))
          (alike_fields rfl rfl rfl rfl rfl rfl rfl (.refl _)
            fun watched => by simp [isWatched, beginEviction, putErrand, evict] at watched)
      | some w =>
        refine .alone (s := s) (w := w) site found everything.1 everything.2 (fun same => ?_)
          (fun y hy laden => ?_) (alike_fields rfl rfl rfl rfl rfl rfl rfl (.refl _)
            fun watched => by simp [isWatched, beginEviction, putErrand, evict] at watched)
        · obtain ⟨watch, hw, sweep⟩ := Option.bind_eq_some_iff.mp sweep
          simp [isWatched, hw, sweep, same]
        · simp [hy, laden]
    · have ends : b.endsWatch? e = none := by
        unfold endsWatch?
        split
        · next same =>
          obtain rfl := Option.some.inj (found.symm.trans same)
          exact absurd ⟨rfl, rfl⟩ everything
        · rfl
      rw [ends]
      obtain ⟨c, change, alike⟩ := change_stepErrand (b := { b with site := s }) lined here
        (fun r => informed found) ready (fun fresh task => everything ⟨fresh, task⟩)
      exact .one site change alike

theorem fresh_of_isLooking (looking : b.isLooking e) :
    ∃ x, b.errand? e = some x ∧ x.stage = .fresh ∧ x.task ≠ .sweep .everything := by
  unfold isLooking at looking
  split at looking
  · next found => exact ⟨_, found, rfl, by simp⟩
  · next found => exact ⟨_, found, rfl, by simp⟩
  · simp at looking

private theorem course_stepWatch (lined : b.IsLined) (informed : b.IsInformed)
    (ready : b.isReady .watch) :
    Course (b.fate? (.agent .watch)) b.site.host b b.ticked.stepWatch := by
  simp only [isReady] at ready
  rcases watch : b.watch with _ | ⟨news, _ | e⟩
  · simp [watch] at ready
  · have same : b.ticked.watch = some { news, sweep := none } := watch
    have known : b.ticked.knows (.sweep .interpreters) := rfl
    simp only [stepWatch, same]
    refine .one (s := b.ticked.site) (calm_ticked b) (.entrust known)
      (alike_fields rfl rfl rfl rfl rfl rfl rfl (.refl _) fun {e} watched => .inr ⟨.fresh, ?_⟩)
    obtain rfl : b.ticked.nextErrand = e := by simpa [isWatched, Broker.entrust] using watched
    simp [Broker.entrust]
  · have same : b.ticked.watch = some { news, sweep := some e } := watch
    simp only [stepWatch, same, fate?, givesUp, ends?, sightOf?, turn?, watch, Option.bind_some]
    simp only [watch] at ready
    cases outcome : b.errandOutcome? e with
    | some o =>
      have ended : b.ticked.errandOutcome? e = some o := outcome
      have free {sight : Option Sight} (x : Errand) (found : b.errand? e = some x)
          (laden : x.stage.isLaden) : sight = some .lost := by
        unfold errandOutcome? at outcome
        split at outcome
        · next same =>
          obtain rfl := Option.some.inj (found.symm.trans same)
          simp [Errand.Stage.isLaden, Errand.Stage.records, Errand.Stage.evicted] at laden
        · simp at outcome
      simp only [awaitErrand, ended]
      exact .one (s := b.ticked.site) (calm_ticked b) (.forget e free)
        (alike_fields rfl rfl rfl rfl rfl rfl rfl (.refl _)
          fun watched => by simp [isWatched] at watched)
    | none =>
      have runs : b.ticked.errandOutcome? e = none := outcome
      simp only [awaitErrand, runs]
      simp only [canAwaitErrand, outcome, Option.isSome_none, Bool.false_or] at ready
      exact course_stepErrand (s := b.ticked.site) (calm_ticked b) lined informed ready

theorem course_move (lined : b.IsLined) (informed : b.IsInformed) (next : Move) :
    Course (b.fate? next) (b.lookout next) b (b.move next) := by
  cases next with
  | agent a =>
    simp only [move]
    split
    · next ready =>
      cases a with
      | watch => exact (course_stepWatch lined informed ready).trans (.tidy _)
      | activation a =>
        obtain ⟨c, change, alike⟩ := change_stepActivation (b := b.ticked) lined ready
        exact .one (s := b.ticked.site) (calm_ticked b) change (alike.trans (.tidy _))
      | manager m duty =>
        have steps : ∃ x, b.managers[m]? = some x ∧ x.isReady b.ticked.site.clock duty := by
          simp only [isReady, Option.any_eq_true] at ready
          exact ready
        obtain ⟨x, hx, ready⟩ := steps
        have found : b.ticked.managers[m]? = some x := hx
        obtain ⟨c, change, alike⟩ : ∃ c, Change none b.ticked c ∧
            Alike c (b.ticked.stepManager m duty) := change_stepManager found (lined hx) ready
        exact .one (s := b.ticked.site) (calm_ticked b) change (alike.trans (.tidy _))
    · exact course_rest (.refl b)
  | errand e =>
    simp only [move]
    split
    · next ready =>
      simp only [Bool.and_eq_true, Bool.not_eq_true'] at ready
      simp only [fate?, givesUp, ends?, sightOf?, turn?, ready.2, Bool.false_eq_true, if_false,
        Option.bind_some]
      exact (course_stepErrand (s := b.ticked.site) (calm_ticked b) lined informed
        ready.1).trans (.tidy _)
    · exact course_rest (.refl b)
  | enter e host =>
    have calm : b.site.Calm { b.site with host } := .of_journal rfl rfl (.inl rfl)
    have back (c : Broker) : Alike c (c.inHost b.site.host) :=
      alike_fields rfl rfl rfl rfl rfl rfl rfl (.of_journal rfl rfl (.inl rfl))
    simp only [move]
    split
    · next looking =>
      obtain ⟨x, found, fresh, everything⟩ := fresh_of_isLooking looking
      have here : (b.inHost host).errand? e = some x := found
      have ready : (b.inHost host).canRun e := by simp [canRun, here, fresh]
      obtain ⟨c, change, alike⟩ := change_stepErrand (b := b.inHost host) lined here
        (fun r => informed found) ready fun _ => everything
      have nothing : (b.inHost host).sight? e = none := by
        simp only [sight?, here]
        split
        · next same => simp [Option.some.inj same] at fresh
        · next same => simp [Option.some.inj same] at fresh
        · rfl
      rw [nothing] at change
      exact .one calm change (alike.trans ((back _).trans (.tidy _)))
    · exact .one calm .rest (back (b.inHost host))
  | entrust task =>
    simp only [move]
    split
    · next known => exact .one (s := b.site) (.refl _) (.entrust known) (.refl _)
    · exact course_rest (.refl b)
  | drop e =>
    simp only [move]
    split
    · exact course_rest (.refl b)
    · next free =>
      refine .one (s := b.site) (.refl _) (.forget e fun x found laden => ?_) (.tidy _)
      have here : b.errand? e = some x := found
      simp [fate?, givesUp, ends?, free, here, laden]
  | cancel e =>
    refine course_rest (.of_managers rfl rfl rfl rfl ?_ rfl rfl (.refl _))
    simp only [move, cancelErrand, List.map_map]
    apply List.map_congr_left
    intro x _
    simp only [Function.comp]
    split <;> rfl
  | hear event =>
    refine course_rest ⟨rfl, rfl, rfl, rfl, rfl, rfl, by simp [move, hear], fun hx hy => ?_,
      .refl _, fun {e} watched => .inl ?_⟩
    · simp only [move, hear, List.getElem?_map, hx, Option.map_some, Option.some.injEq] at hy
      obtain rfl := hy
      exact .of_jobs rfl rfl rfl rfl rfl rfl rfl rfl id
    · cases watch : b.watch with
      | none => simp [isWatched, move, hear, watch] at watched
      | some w => cases event <;> simpa [isWatched, move, hear, watch] using watched
  | wait duration =>
    exact course_rest (alike_fields rfl rfl rfl rfl rfl rfl rfl (.of_journal rfl rfl (.inl rfl)))
  | change host plan =>
    exact course_rest (alike_fields rfl rfl rfl rfl rfl rfl rfl (.of_journal rfl rfl (.inl rfl)))
  | hold held => exact course_rest (alike_fields rfl rfl rfl rfl rfl rfl rfl (.refl _))

end LanguageBroker.Broker
