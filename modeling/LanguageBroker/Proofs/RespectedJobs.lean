import LanguageBroker.Proofs.BrokerJobs
import LanguageBroker.Proofs.ErrandTurns
import LanguageBroker.Proofs.WatchedSweeps

/-!
An errand and the job that it waits for. Nobody else waits for the job, so nobody else takes it
further or puts it away, and whoever comes for the slot later stands behind it in line.
-/

namespace LanguageBroker

/-- What is put behind a list comes behind all that is in it. -/
theorem pair_sublist_concat_iff {α : Type} {l : List α} {i j k : α} :
    [i, j].Sublist (l ++ [k]) ↔ [i, j].Sublist l ∨ i ∈ l ∧ j = k := by
  constructor
  · intro order
    obtain ⟨front, back, split, first, last⟩ := List.sublist_append_iff.mp order
    rcases List.sublist_singleton.mp last with rfl | rfl
    · rw [split, List.append_nil]
      exact .inl first
    · have split : [i] ++ [j] = front ++ [k] := split
      obtain ⟨rfl, same⟩ := List.append_inj' split rfl
      exact .inr ⟨List.singleton_sublist.mp first, List.singleton_inj.mp same⟩
  · rintro (order | ⟨first, rfl⟩)
    · exact order.trans (List.sublist_append_left l [k])
    · exact (List.singleton_sublist.mpr first).append (.refl [j])

namespace Manager

variable {m n o : Manager} {s t : Site} {x y : Job} {j : JobId}

/-- The job is where it was, and nobody has come before it in line. -/
structure Respects (m n : Manager) (x : Job) : Prop where
  job : n.job? x.id = some x
  ahead : ∀ i, [i, x.id].Sublist n.line → [i, x.id].Sublist m.line

namespace Respects

theorem of_jobs (found : m.job? x.id = some x) (jobs : n.jobs = m.jobs) (line : n.line = m.line) :
    m.Respects n x where
  job := by simpa [job?, jobs] using found
  ahead i ahead := line ▸ ahead

theorem trans (h : m.Respects n x) (h' : n.Respects o x) : m.Respects o x where
  job := h'.job
  ahead i ahead := h.ahead i (h'.ahead i ahead)

end Respects

theorem respects_forget (found : m.job? x.id = some x) (other : x.id ≠ j) :
    m.Respects (m.forget j) x where
  job := by rw [job?_forget, if_neg other, found]
  ahead i ahead := ahead.trans List.filter_sublist

theorem respects_ask (found : m.job? x.id = some x) (task : Job.Task) :
    m.Respects (m.ask task).1 x where
  job := by
    simp only [ask, job?, List.find?_append]
    rw [show m.jobs.find? (fun y => y.id = x.id) = some x from found]
    rfl
  ahead i ahead := ahead

/-- The step of another job. -/
theorem JobStep.respects (step : JobStep m s y n t) (here : m.job? y.id = some y)
    (found : m.job? x.id = some x) (other : x.id ≠ y.id) : m.Respects n x where
  job := by
    obtain ⟨stage, advance⟩ := step.advance
    rw [job?_of_jobs here advance.jobs, if_neg other, found]
  ahead i ahead := by
    cases step with
    | bind | launch | retire | relaunch | create | discard | retract => exact ahead
    | come | close | bound =>
      exact (pair_sublist_concat_iff.mp ahead).resolve_right fun last => other last.2
    | withdraw | uncreated | settle | part | quit => exact ahead.trans List.filter_sublist

/-- A duty that is not the job's own. -/
theorem respects_act (lined : m.Lined) {duty : Duty} (ready : m.isReady s.clock duty)
    (found : m.job? x.id = some x) (other : duty.job? ≠ some x.id) :
    m.Respects (m.act s duty).1 x := by
  have steps {y : Job} (here : m.job? y.id = some y) (moves : m.canStep s.clock y)
      (differs : x.id ≠ y.id) : m.Respects (m.stepJob s y).1 x :=
    (jobStep_stepJob (lined.fits here) moves).respects here found differs
  cases duty with
  | options | forward => exact .of_jobs found rfl rfl
  | restart =>
    have differs : x.id ≠ restartJob := fun same => other (by simp [Duty.job?, same])
    simp only [act, stepRestart]
    split
    · refine ⟨?_, fun i ahead => ahead⟩
      simp only [job?, List.find?_append]
      rw [show m.jobs.find? (fun y => y.id = x.id) = some x from found]
      rfl
    · next y here =>
      have own : y.id = restartJob := job?_id here
      split
      · exact (respects_forget found differs).trans
          (.of_jobs (respects_forget found differs).job rfl rfl)
      · next live =>
        refine steps (own ▸ here) ?_ (own ▸ differs)
        have moves : m.canStep s.clock y ∨ (m.outcome? restartJob).isSome := by
          simpa [isReady, here] using ready
        refine moves.resolve_right fun ended => ?_
        obtain ⟨z, also, done⟩ := isDone_of_outcome? ended
        obtain rfl := Option.some.inj (here.symm.trans also)
        cases stage : y.stage <;> simp_all [Job.isDone]
  | job k =>
    simp only [act]
    split
    · next y here =>
      have own : y.id = k := job?_id here
      subst own
      exact steps here (by simpa [isReady, isMoving, here] using ready)
        fun same => other (by simp [Duty.job?, same])
    · exact .of_jobs found rfl rfl

end Manager

namespace Broker

variable {b c d : Broker} {e : ErrandId} {i m : ManagerId} {j k : JobId} {a : ActivationId}
  {n x : Manager} {sight : Option Sight}

/-- What an errand is to do, and how far it has come. -/
def post? (b : Broker) (e : ErrandId) : Option (Errand.Task × Errand.Stage) :=
  (b.errand? e).map fun x => (x.task, x.stage)

/-- The errand waits for the job. -/
def WaitsFor (b : Broker) (e : ErrandId) (m : ManagerId) (j : JobId) : Prop :=
  ∃ task stage, b.post? e = some (task, stage) ∧ stage.job? = some (m, j)

/-- The errand is where it was, and so is the job that it waits for. -/
structure Respects (b c : Broker) (e : ErrandId) : Prop where
  post : c.post? e = b.post? e
  job : ∀ {m j x y}, b.WaitsFor e m j → b.managers[m]? = some x → x.job? j = some y →
    ∃ n, c.managers[m]? = some n ∧ x.Respects n y

/-- The errand's job is its own. -/
structure OwnsJob (b : Broker) (e : ErrandId) : Prop where
  free : b.isWatched e = false
  alone : ∀ {i m j}, b.WaitsFor e m j → b.WaitsFor i m j → i = e
  apart : ∀ {a stage m j}, b.WaitsFor e m j → b.stage? a = some stage → stage.job? ≠ some (m, j)
  other : ∀ {m j}, b.WaitsFor e m j → j ≠ Manager.restartJob

theorem post?_of_errand {x : Errand} (found : b.errand? e = some x) :
    b.post? e = some (x.task, x.stage) := by
  simp [post?, found]

theorem errandStage?_of_post {task : Errand.Task} {stage : Errand.Stage}
    (found : b.post? e = some (task, stage)) : b.errandStage? e = some stage := by
  obtain ⟨x, hx, same⟩ := Option.map_eq_some_iff.mp found
  simp [errandStage?, hx, (Prod.mk.inj same).2]

theorem post?_congr (errands : c.errands = b.errands) (e : ErrandId) : c.post? e = b.post? e := by
  simp only [post?, errand?, errands]

theorem errand?_putErrand (b : Broker) (e i : ErrandId) (stage : Errand.Stage) :
    (b.putErrand i stage).errand? e = (b.errand? e).map fun x =>
      if e = i then { x with stage, since := b.site.clock.steps } else x := by
  simp only [putErrand, errand?, List.find?_map]
  have same : ((fun x : Errand => decide (x.id = e)) ∘ fun x =>
      if x.id = i then { x with stage, since := b.site.clock.steps } else x) =
        fun x => decide (x.id = e) := by
    funext x
    by_cases here : x.id = i <;> simp [here]
  rw [same]
  cases found : b.errands.find? fun x => x.id = e with
  | none => rfl
  | some x =>
    have id : x.id = e := by simpa using List.find?_some found
    simp [id]

theorem post?_putErrand (b : Broker) (e i : ErrandId) (stage : Errand.Stage) :
    (b.putErrand i stage).post? e =
      (b.post? e).map fun x => if e = i then (x.1, stage) else x := by
  simp only [post?, errand?_putErrand, Option.map_map]
  congr 1
  funext x
  simp only [Function.comp]
  split <;> rfl

theorem post?_forgetErrand (b : Broker) (e i : ErrandId) :
    (b.forgetErrand i).post? e = if e = i then none else b.post? e := by
  have errands : (b.forgetErrand i).errands = b.errands.filter fun x => x.id ≠ i := by
    rcases forgetErrand_cases b i with ⟨_, same⟩ | ⟨_, _, _, _, _, same⟩ <;> rw [same]
  simp only [post?, errand?, errands, List.find?_filter]
  split
  · next here =>
    subst here
    simp
  · next other =>
    congr 2
    funext x
    by_cases here : x.id = e <;> simp [here, other]

theorem WaitsFor.congr (h : b.WaitsFor e m j) (post : c.post? e = b.post? e) :
    c.WaitsFor e m j := by
  obtain ⟨task, stage, found, job⟩ := h
  exact ⟨task, stage, post.trans found, job⟩

namespace Respects

theorem trans (h : Respects b c e) (h' : Respects c d e) : Respects b d e where
  post := h'.post.trans h.post
  job waits hx hy := by
    obtain ⟨n, hn, kept⟩ := h.job waits hx hy
    obtain rfl := Manager.job?_id hy
    obtain ⟨o, ho, more⟩ := h'.job (waits.congr h.post) hn kept.job
    exact ⟨o, ho, kept.trans more⟩

/-- One manager is another one. -/
theorem set (post : c.post? e = b.post? e) (found : b.managers[i]? = some x)
    (managers : c.managers = b.managers.set i n)
    (keeps : ∀ {j y}, b.WaitsFor e i j → x.job? y.id = some y → y.id = j → x.Respects n y) :
    Respects b c e where
  post := post
  job {m _ z _} waits hz hy := by
    have own := Manager.job?_id hy
    rw [managers]
    by_cases here : i = m
    · subst here
      obtain rfl := Option.some.inj (found.symm.trans hz)
      exact ⟨n, List.getElem?_set_self (List.getElem?_eq_some_iff.mp found).1,
        keeps waits (own ▸ hy) own⟩
    · exact ⟨z, (List.getElem?_set_ne here).trans hz, .of_jobs (own ▸ hy) rfl rfl⟩

theorem of_managers (post : c.post? e = b.post? e) (managers : c.managers = b.managers) :
    Respects b c e where
  post := post
  job {_ _ x _} _ hx hy :=
    ⟨x, managers ▸ hx, .of_jobs (Manager.job?_id hy ▸ hy) rfl rfl⟩

theorem of_errands (errands : c.errands = b.errands) (managers : c.managers = b.managers) :
    Respects b c e := of_managers (post?_congr errands e) managers

theorem refl (b : Broker) (e : ErrandId) : Respects b b e := of_errands rfl rfl

theorem tidy (b : Broker) (e : ErrandId) : Respects b b.tidy e where
  post := rfl
  job _ hx hy := by
    have found := Manager.job?_id hy ▸ hy
    simp only [Broker.tidy, List.getElem?_map, List.getElem?_zipIdx, hx, Option.map_some]
    split <;> exact ⟨_, rfl, .of_jobs found rfl rfl⟩

/-- Another errand is put at a stage. -/
theorem put {i : ErrandId} (h : Respects b c e) (other : e ≠ i) (stage : Errand.Stage) :
    Respects b (c.putErrand i stage) e := by
  refine h.trans (of_managers ?_ rfl)
  rw [post?_putErrand]
  cases c.post? e <;> simp [other]

theorem ask (b : Broker) (e : ErrandId) (i : ManagerId) (task : Job.Task) :
    Respects b (b.ask i task).1 e := by
  rcases ask_cases b i task with ⟨x, found, same⟩ | ⟨_, same⟩
  · rw [same]
    exact set (post?_congr rfl e) found rfl fun _ hy _ => Manager.respects_ask hy task
  · rw [same]
    exact refl b e

theorem append (b : Broker) (e : ErrandId) (n : Manager) :
    Respects b { b with managers := b.managers ++ [n] } e where
  post := rfl
  job {_ _ x _} _ hx hy :=
    ⟨x, (List.getElem?_append_left (List.getElem?_eq_some_iff.mp hx).1).trans hx,
      .of_jobs (Manager.job?_id hy ▸ hy) rfl rfl⟩

theorem forgetJob (other : ¬ b.WaitsFor e i k) : Respects b (b.forgetJob i k) e := by
  cases found : b.managers[i]? with
  | some x =>
    rw [forgetJob_eq found]
    refine set (post?_congr rfl e) found rfl fun waits hy own => ?_
    refine Manager.respects_forget hy fun same => other ?_
    rwa [← same, own]
  | none =>
    exact of_errands rfl (List.modify_eq_self (List.getElem?_eq_none_iff.mp found))

theorem stepManager {duty : Manager.Duty} (lined : b.IsLined) (found : b.managers[i]? = some x)
    (ready : x.isReady b.site.clock duty)
    (other : ∀ j, b.WaitsFor e i j → duty.job? ≠ some j) :
    Respects b (b.stepManager i duty) e := by
  have same : b.stepManager i duty =
      { b.setManager i (x.act b.site duty).1 with site := (x.act b.site duty).2 } := by
    simp [Broker.stepManager, found, setManager]
  rw [same]
  exact set (post?_congr rfl e) found rfl fun waits hy own =>
    Manager.respects_act (lined found) ready hy (own ▸ other _ waits)

theorem await (lined : b.IsLined) (ready : b.canAwait i k) (other : ¬ b.WaitsFor e i k) :
    Respects b (b.await i k).1 e := by
  unfold canAwait at ready
  split at ready
  · simp at ready
  next x found =>
  unfold Broker.await
  cases ended : x.outcome? k with
  | some o =>
    have outcome : b.outcome? i k = some o := by simp [outcome?, found, ended]
    rw [outcome]
    exact forgetJob other
  | none =>
    have outcome : b.outcome? i k = none := by simp [outcome?, found, ended]
    rw [outcome]
    have moving : x.isReady b.site.clock (.job k) := by
      simpa [ended, Manager.isReady] using ready
    refine stepManager lined found moving fun j waits same => ?_
    obtain rfl : k = j := Option.some.inj same
    exact other waits

end Respects

/-! Activations. -/

private theorem respects_install (b : Broker) (e : ErrandId) (a : ActivationId) (scope : Scope)
    (variant : Variant) : Respects b (b.install a scope variant) e := by
  unfold install
  dsimp only
  split
  · exact .of_errands rfl rfl
  · split
    · simp only [fallBack, reportMissing]
      split <;> exact .of_errands rfl rfl
    · exact .of_errands rfl rfl

theorem respects_stepActivation (owns : b.OwnsJob e) (lined : b.IsLined) (ready : b.canActivate a) :
    Respects b (b.stepActivation a) e := by
  unfold canActivate at ready
  split at ready
  · simp at ready
  next x found =>
  have awaited {i : ManagerId} {j : JobId} (job : x.stage.job? = some (i, j)) :
      Respects b (b.await i j).1 e := by
    refine .await lined ?_ fun waits => owns.apart waits (stage?_of_activation found) job
    cases stage : x.stage <;> simp_all [Activation.Stage.job?]
  simp only [stepActivation, found]
  cases stage : x.stage with
  | fresh =>
    simp only [choose]
    split <;> exact .of_errands rfl rfl
  | installing variant => exact respects_install ..
  | launchingFull variant =>
    simp only [launchFull]
    split
    · rw [startManager_eq]
      exact (Respects.append b e _).trans (.of_errands rfl rfl)
    · exact .of_errands rfl rfl
  | queuedSimple =>
    simp only [enterSimple]
    split
    · exact .of_errands rfl rfl
    · split
      · rw [startManager_eq]
        exact (Respects.append b e _).trans (.of_errands rfl rfl)
      · exact .of_errands rfl rfl
  | startingFull variant i j | startingSimple i j =>
    have waits := awaited (by rw [stage]; rfl)
    obtain ⟨⟨d, o⟩, here⟩ : ∃ pair, b.await i j = pair := ⟨_, rfl⟩
    simp only [here] at waits ⊢
    rcases o with _ | (_ | _ | _)
    · exact waits
    · exact waits.trans (.of_errands rfl rfl)
    · exact (waits.trans (.ask d e i .dispose)).trans (.of_errands rfl rfl)
    · exact waits.trans (.of_errands rfl rfl)
  | cleaningFull variant i j cause | cleaningSimple i j cause =>
    have waits := awaited (by rw [stage]; rfl)
    obtain ⟨⟨d, o⟩, here⟩ : ∃ pair, b.await i j = pair := ⟨_, rfl⟩
    simp only [here] at waits ⊢
    cases o with
    | none => exact waits
    | some o => exact waits.trans (.of_errands rfl rfl)
  | concluding result => cases result <;> exact .of_errands rfl rfl
  | settled result => exact .refl b e

/-! Errands. -/

/-- Another errand is put away. -/
theorem respects_forgetErrand (owns : b.OwnsJob e) {w : ErrandId} (other : e ≠ w) :
    Respects b (b.forgetErrand w) e := by
  have post : (b.forgetErrand w).post? e = b.post? e := by
    rw [post?_forgetErrand, if_neg other]
  rcases forgetErrand_cases b w with ⟨_, same⟩ | ⟨x, m, j, found, job, same⟩
  · exact .of_managers post (by rw [same]; rfl)
  · have free : ¬ b.WaitsFor e m j := fun waits =>
      other (owns.alone waits ⟨x.task, x.stage, post?_of_errand found, job⟩).symm
    have forgotten := Respects.forgetJob free
    refine ⟨post, fun waits hx hy => ?_⟩
    rw [same]
    exact forgotten.job waits hx hy

private theorem respects_entry (b : Broker) (e : ErrandId) (scope : Scope) :
    Respects b (b.entry scope).1 e := by
  rcases entry_cases b scope with same | ⟨_, same⟩ <;> rw [same] <;> exact .of_errands rfl rfl

private theorem respects_beginDisposal (h : Respects b c e) {w : ErrandId} (other : e ≠ w)
    (m : ManagerId) (left : List Record) (evicted : List ScopeKey) :
    Respects b (c.beginDisposal w m left evicted) e :=
  (h.trans (.ask c e m .dispose)).put other _

private theorem respects_beginEviction (h : Respects b c e) {w : ErrandId} (other : e ≠ w)
    (stale : List ScopeKey) : Respects b (c.beginEviction w stale) e :=
  (h.trans (.of_errands (c := c.evict (stale.filter c.isCached)) rfl rfl)).put other _

private theorem respects_beginErrand (owns : b.OwnsJob e) {w : ErrandId} (other : e ≠ w)
    (task : Errand.Task) : Respects b (b.beginErrand w task) e := by
  have here : Respects b b e := .refl b e
  cases task with
  | locate resource interpreter =>
    cases located : locate b.site.host resource interpreter <;>
      simp only [beginErrand, located] <;> exact here.put other _
  | prepare resource interpreter | find resource interpreter =>
    cases located : locate b.site.host resource interpreter with
    | error cause =>
      simp only [beginErrand, located]
      exact here.put other _
    | ok scope =>
      simp only [beginErrand, located]
      exact (respects_entry b e scope).put other _
  | deliver record | inspect record =>
    exact (Respects.ask b e record.manager .lookUp).put other _
  | sweep kind =>
    cases kind with
    | folders => exact respects_beginEviction here other _
    | interpreters => exact here.put other _
    | everything =>
      simp only [beginErrand]
      split
      · next sweep watch =>
        have differs : e ≠ sweep := by
          rintro rfl
          obtain ⟨w, hw, own⟩ := Option.bind_eq_some_iff.mp watch
          have watched := owns.free
          simp [isWatched, hw, own] at watched
        exact respects_beginEviction (c := { b.forgetErrand sweep with watch := none })
          ((respects_forgetErrand owns differs).trans (.of_errands rfl rfl)) other _
      · exact respects_beginEviction (b := b) (c := { b with watch := none })
          (.of_errands rfl rfl) other _

private theorem respects_reach (h : Respects b c e) {w : ErrandId} (other : e ≠ w)
    (server : Option BackendId) (task : Errand.Task) : Respects b (c.reach w server task) e := by
  unfold reach
  split
  · split
    · exact h.put other _
    · split
      · next site result _ =>
        exact (h.trans (.of_errands (c := { c with site }) rfl rfl)).put other _
      · next site d _ => exact (h.trans (.of_errands (c := { c with site }) rfl rfl)).put other _
  · exact h.put other _

/-- Another errand takes a step. -/
theorem respects_stepErrand (owns : b.OwnsJob e) (lined : b.IsLined) {w : ErrandId} (other : e ≠ w)
    (ready : b.canRun w) : Respects b (b.stepErrand w) e := by
  unfold canRun at ready
  split at ready
  · simp at ready
  next x found =>
  have awaited {i : ManagerId} {j : JobId} (job : x.stage.job? = some (i, j))
      (ready : b.canAwait i j) : Respects b (b.await i j).1 e := .await lined ready fun waits =>
    other (owns.alone waits ⟨x.task, x.stage, post?_of_errand found, job⟩).symm
  have rests : Respects b b e := .refl b e
  simp only [stepErrand, found]
  cases stage : x.stage with
  | fresh => exact respects_beginErrand owns other x.task
  | awaiting a =>
    have seen : Respects b (b.observe a) e := .of_errands rfl rfl
    dsimp only
    split
    · exact seen.put other _
    · exact seen.put other _
    · exact seen
  | asking i j =>
    have waits := awaited (by rw [stage]; rfl) (by simpa [stage] using ready)
    obtain ⟨⟨d, o⟩, here⟩ : ∃ pair, b.await i j = pair := ⟨_, rfl⟩
    simp only [here] at waits ⊢
    rcases o with _ | (_ | _ | _)
    · exact waits
    · exact respects_reach waits other ..
    · exact respects_reach waits other ..
    · exact respects_reach waits other ..
  | serving d =>
    dsimp only
    split
    · exact (Respects.of_errands (b := b) (c := { b with site := (b.site.endCall d).1 })
        rfl rfl).put other _
    · exact (Respects.of_errands (b := b) (c := { b with site := (b.site.cancelCall d).1 })
        rfl rfl).put other _
  | surveying left active stale =>
    cases left with
    | nil => exact respects_beginEviction rests other _
    | cons => exact rests.put other _
  | gathering left records evicted =>
    cases left with
    | nil => exact rests.put other _
    | cons a left => exact (rests.trans (.of_errands (c := b.observe a) rfl rfl)).put other _
  | releasing left evicted =>
    cases left with
    | nil => exact rests.put other _
    | cons r left =>
      dsimp only
      unfold release
      split
      · split
        · exact rests.put other _
        · exact (rests.trans (.of_errands (c := b.joinLine _) rfl rfl)).put other _
      · exact respects_beginDisposal rests other ..
  | queuedSimple r left evicted =>
    exact respects_beginDisposal (b := b) (c := b.dropSimple w r) (.of_errands rfl rfl) other ..
  | disposing i j left evicted =>
    have waits := awaited (by rw [stage]; rfl) (by simpa [stage] using ready)
    obtain ⟨⟨d, o⟩, here⟩ : ∃ pair, b.await i j = pair := ⟨_, rfl⟩
    simp only [here] at waits ⊢
    cases o with
    | none => exact waits
    | some o => exact waits.put other _
  | done outcome => exact rests

theorem respects_entrust {task : Errand.Task} {stage : Errand.Stage}
    (found : b.post? e = some (task, stage)) (new : Errand.Task) :
    Respects b (b.entrust new).1 e := by
  refine .of_managers ?_ rfl
  obtain ⟨x, hx, _⟩ := Option.map_eq_some_iff.mp found
  simp only [post?, entrust, errand?, List.find?_append]
  rw [show b.errands.find? (fun y => y.id = e) = some x from hx]
  rfl

/-- The watch takes its turn. -/
theorem respects_stepWatch (owns : b.OwnsJob e) (lined : b.IsLined) {task : Errand.Task}
    {stage : Errand.Stage} (found : b.post? e = some (task, stage)) (ready : b.isReady .watch) :
    Respects b b.stepWatch e := by
  simp only [isReady] at ready
  rcases watch : b.watch with _ | ⟨news, _ | w⟩
  · simp [watch] at ready
  · simp only [stepWatch, watch]
    exact (respects_entrust found _).trans (.of_errands rfl rfl)
  · have differs : e ≠ w := by
      rintro rfl
      have watched := owns.free
      simp [isWatched, watch] at watched
    simp only [watch] at ready
    simp only [stepWatch, watch, awaitErrand]
    cases outcome : b.errandOutcome? w with
    | some o => exact (respects_forgetErrand owns differs).trans (.of_errands rfl rfl)
    | none =>
      exact respects_stepErrand owns lined differs
        (by simpa [canAwaitErrand, outcome] using ready)

end Broker

end LanguageBroker
