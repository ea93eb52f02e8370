import LanguageBroker.Proofs.BrokerManagers

/-!
Whom the broker works for. Programs are asked for and servers made and started for activations
that are on their way or have succeeded, and never for one that has failed.
-/

namespace LanguageBroker

namespace Site

@[simp] theorem toils_settleCall (s : Site) (b : BackendId) (method : Method) (start : Time)
    (result : CallResult) : (s.settleCall b method start result).toils = s.toils := by
  unfold settleCall
  split
  · rfl
  · dsimp only
    split <;> rfl

@[simp] theorem toils_beginCall (s : Site) (b : BackendId) (method : Method) (params : Json) :
    (s.beginCall b method params).1.toils = s.toils := by
  unfold beginCall
  split
  · rfl
  · split
    · exact toils_noteBackend s b fun _ => rfl
    · rfl

@[simp] theorem toils_endCall (s : Site) (d : Delivery) : (s.endCall d).1.toils = s.toils :=
  toils_settleCall ..

@[simp] theorem toils_cancelCall (s : Site) (d : Delivery) :
    (s.cancelCall d).1.toils = s.toils :=
  (toils_settleCall ..).trans (toils_noteBackend s d.backend fun _ => rfl)

end Site

namespace Broker

/-- The manager that a move takes a step with. -/
def manager? (b : Broker) : Move → Option ManagerId
  | .agent (.manager m _) => some m
  | .agent .watch => ((b.watch.bind (·.sweep)).bind b.errand?).bind (·.stage.job?.map (·.1))
  | .errand e => (b.errand? e).bind (·.stage.job?.map (·.1))
  | _ => none

/-- Does a move work for an activation? It takes the activation further, or the manager that the
activation has to do with. -/
def WorksFor (b : Broker) (next : Move) (a : ActivationId) : Prop :=
  next = .agent (.activation a) ∨
    ∃ m stage, b.manager? next = some m ∧ b.stage? a = some stage ∧ stage.manager? = some m

variable {b : Broker} {a : ActivationId} {m : ManagerId} {e : ErrandId}

theorem toils_stepManager (h : b.Kept) {x : Manager} (found : b.managers[m]? = some x)
    {duty : Manager.Duty} (ready : x.isReady b.site.clock duty) :
    (b.stepManager m duty).site.toils = b.site.toils ∨
      ∃ a stage, b.stage? a = some stage ∧ stage.manager? = some m := by
  have same : (b.stepManager m duty).site = (x.act b.site duty).2 := by simp [stepManager, found]
  rw [same]
  rcases x.act_cases (h.lined found) ready with ⟨y, _, hy, _, step⟩ | ⟨_, site⟩
  · cases makes : y.mayMake with
    | false => exact .inl (step.toils makes)
    | true =>
      rcases h.quiet found with quiet | named
      · simp [quiet.makes hy] at makes
      · exact .inr named
  · exact .inl (by rw [site])

private theorem toils_await (h : b.Kept) {j : JobId} (ready : b.canAwait m j) :
    (b.await m j).1.site.toils = b.site.toils ∨
      ∃ a stage, b.stage? a = some stage ∧ stage.manager? = some m := by
  unfold canAwait at ready
  split at ready
  · simp at ready
  · next x found =>
    cases ended : x.outcome? j with
    | some o =>
      have outcome : b.outcome? m j = some o := by simp [outcome?, found, ended]
      exact .inl (by simp [await, outcome, Broker.forgetJob])
    | none =>
      have outcome : b.outcome? m j = none := by simp [outcome?, found, ended]
      have moving : x.isReady b.site.clock (.job j) := by
        simpa [ended, Manager.isReady] using ready
      simpa [await, outcome] using toils_stepManager h found moving

private theorem site_ask (b : Broker) (m : ManagerId) (task : Job.Task) :
    (b.ask m task).1.site = b.site := by
  rcases ask_cases b m task with ⟨_, _, same⟩ | ⟨_, same⟩ <;> rw [same]
  rfl

private theorem site_forgetErrand (b : Broker) (e : ErrandId) :
    (b.forgetErrand e).site = b.site := by
  rcases forgetErrand_cases b e with ⟨_, same⟩ | ⟨_, _, _, _, _, same⟩ <;> rw [same] <;> rfl

private theorem site_beginDisposal (b : Broker) (e : ErrandId) (m : ManagerId) (left : List Record)
    (evicted : List ScopeKey) : (b.beginDisposal e m left evicted).site = b.site :=
  site_ask b m .dispose

private theorem site_entry (b : Broker) (scope : Scope) : (b.entry scope).1.site = b.site := by
  unfold entry
  split <;> rfl

/-- Nothing is made or asked for in an errand's first step. -/
theorem site_beginErrand (b : Broker) (e : ErrandId) (task : Errand.Task) :
    (b.beginErrand e task).site = b.site := by
  cases task with
  | locate resource interpreter =>
    cases located : locate b.site.host resource interpreter <;>
      simp [beginErrand, located, finish, putErrand]
  | prepare resource interpreter | find resource interpreter =>
    cases located : locate b.site.host resource interpreter with
    | error cause => simp [beginErrand, located, finish, putErrand]
    | ok scope => simp [beginErrand, located, finish, putErrand, site_entry]
  | deliver record method params => exact site_ask b record.manager .lookUp
  | inspect record => exact site_ask b record.manager .lookUp
  | sweep kind =>
    cases kind with
    | folders => rfl
    | interpreters => rfl
    | everything =>
      simp only [beginErrand]
      split
      · exact site_forgetErrand ..
      · rfl

private theorem toils_reach (b : Broker) (e : ErrandId) (server : Option BackendId)
    (task : Errand.Task) : (b.reach e server task).site.toils = b.site.toils := by
  unfold reach
  split
  · next method params =>
    split
    · rfl
    · next server =>
      have same := Site.toils_beginCall b.site server method params
      split
      · next here =>
        rw [here] at same
        exact same
      · next here =>
        rw [here] at same
        exact same
  · rfl

private theorem toils_stepErrand (h : b.Kept) {x : Errand} (found : b.errand? e = some x)
    (ready : b.canRun e) : (b.stepErrand e).site.toils = b.site.toils ∨
      ∃ m a stage, x.stage.job?.map (·.1) = some m ∧ b.stage? a = some stage ∧
        stage.manager? = some m := by
  simp only [canRun, found] at ready
  simp only [stepErrand, found]
  cases stage : x.stage with
  | fresh => exact .inl (by rw [site_beginErrand])
  | awaiting a =>
    refine .inl ?_
    dsimp only
    split <;> rfl
  | asking m j =>
    have waits : b.canAwait m j := by simpa [stage] using ready
    obtain ⟨⟨d, o⟩, here⟩ : ∃ pair, b.await m j = pair := ⟨_, rfl⟩
    have toils := toils_await h waits
    simp only [here] at toils ⊢
    rcases toils with same | ⟨a, s, at_stage, named⟩
    · refine .inl ?_
      rcases o with _ | (_ | _ | _)
      · exact same
      · exact (toils_reach ..).trans same
      · exact (toils_reach ..).trans same
      · exact (toils_reach ..).trans same
    · exact .inr ⟨m, a, s, rfl, at_stage, named⟩
  | serving d =>
    refine .inl ?_
    dsimp only
    split
    · exact Site.toils_endCall ..
    · exact Site.toils_cancelCall ..
  | surveying left active stale => cases left <;> exact .inl rfl
  | gathering left records evicted => cases left <;> exact .inl rfl
  | releasing left evicted =>
    refine .inl ?_
    cases left with
    | nil => rfl
    | cons r left =>
      dsimp only
      unfold release
      split
      · split <;> rfl
      · simp [site_beginDisposal]
  | queuedSimple r left evicted =>
    refine .inl ?_
    simp [site_beginDisposal, dropSimple, leaveLine]
  | disposing m j left evicted =>
    have waits : b.canAwait m j := by simpa [stage] using ready
    obtain ⟨⟨d, o⟩, here⟩ : ∃ pair, b.await m j = pair := ⟨_, rfl⟩
    have toils := toils_await h waits
    simp only [here] at toils ⊢
    rcases toils with same | ⟨a, s, at_stage, named⟩
    · exact .inl (by cases o <;> exact same)
    · exact .inr ⟨m, a, s, rfl, at_stage, named⟩
  | done outcome => exact .inl rfl

private theorem toils_stepWatch (h : b.Kept) (ready : b.isReady .watch) :
    b.ticked.stepWatch.site.toils = b.site.toils ∨
      ∃ m a stage, b.manager? (.agent .watch) = some m ∧ b.stage? a = some stage ∧
        stage.manager? = some m := by
  simp only [stepWatch, manager?]
  simp only [isReady] at ready
  split
  · exact .inl rfl
  · exact .inl rfl
  · next news e here =>
    have watch : b.watch = some { news, sweep := some e } := here
    simp only [watch] at ready
    cases outcome : b.errandOutcome? e with
    | some o =>
      have ended : b.ticked.errandOutcome? e = some o := outcome
      simp only [awaitErrand, ended]
      exact .inl (by rw [site_forgetErrand]; rfl)
    | none =>
      have runs : b.ticked.errandOutcome? e = none := outcome
      simp only [awaitErrand, runs]
      simp only [canAwaitErrand, outcome, Option.isSome_none, Bool.false_or] at ready
      cases found : b.errand? e with
      | none => simp [canRun, found] at ready
      | some x =>
        refine (toils_stepErrand (h.atSite b.ticked.site) found ready).imp_right ?_
        rintro ⟨m, a, stage, job, named⟩
        exact ⟨m, a, stage, by simpa [watch, found] using job, named⟩

/-- Whatever is asked for, made or started in a move is for an activation that has not failed. -/
theorem toils_move (h : b.Kept) (next : Move) :
    (b.move next).site.toils = b.site.toils ∨
      ∃ a stage, b.stage? a = some stage ∧ (∀ cause, stage ≠ .settled (.error cause)) ∧
        b.WorksFor next a := by
  have fine {m : ManagerId} {a : ActivationId} {stage : Activation.Stage}
      (asked : b.manager? next = some m) (at_stage : b.stage? a = some stage)
      (named : stage.manager? = some m) :
      ∃ a stage, b.stage? a = some stage ∧ (∀ cause, stage ≠ .settled (.error cause)) ∧
        b.WorksFor next a := by
    refine ⟨a, stage, at_stage, ?_, .inr ⟨m, stage, asked, at_stage, named⟩⟩
    rintro cause rfl
    simp [Activation.Stage.manager?] at named
  cases next with
  | agent agent =>
    simp only [move]
    split
    · next ready =>
      cases agent with
      | watch =>
        refine (toils_stepWatch h ready).imp_right ?_
        rintro ⟨m, a, stage, asked, at_stage, named⟩
        exact fine asked at_stage named
      | activation a =>
        cases found : b.activations[a]? with
        | none => simp [isReady, canActivate, found] at ready
        | some x =>
          refine .inr ⟨a, x.stage, stage?_of_activation found, fun cause failed => ?_, .inl rfl⟩
          simp [isReady, canActivate, found, failed] at ready
      | manager m duty =>
        simp only [isReady, Option.any_eq_true] at ready
        obtain ⟨x, hx, ready⟩ := ready
        refine (toils_stepManager (h.atSite b.ticked.site) hx ready).imp_right ?_
        rintro ⟨a, stage, at_stage, named⟩
        exact fine rfl at_stage named
    · exact .inl rfl
  | errand e =>
    simp only [move]
    split
    · next ready =>
      simp only [Bool.and_eq_true] at ready
      cases found : b.errand? e with
      | none => simp [canRun, found] at ready
      | some x =>
        refine (toils_stepErrand (h.atSite b.ticked.site) found ready.1).imp_right ?_
        rintro ⟨m, a, stage, job, at_stage, named⟩
        exact fine (by simpa [manager?, found] using job) at_stage named
    · exact .inl rfl
  | enter e host =>
    simp only [move]
    split
    · next looking =>
      obtain ⟨x, found, fresh⟩ := fresh_of_isLooking looking
      have here : (b.inHost host).errand? e = some x := found
      refine .inl ?_
      have same : ((b.inHost host).stepErrand e).site = (b.inHost host).site := by
        simp only [stepErrand, here, fresh, site_beginErrand]
      have toils := congrArg Site.toils same
      exact toils
    · exact .inl rfl
  | entrust task =>
    simp only [move]
    split <;> exact .inl rfl
  | drop e =>
    simp only [move]
    split
    · exact .inl rfl
    · exact .inl (congrArg Site.toils (site_forgetErrand b e))
  | cancel e | hear event | wait duration | change host plan | hold held => exact .inl rfl

/-- Nobody works for an activation that has failed. -/
theorem not_worksFor {cause : ActivationError}
    (failed : b.stage? a = some (.settled (.error cause))) {next : Move}
    (toil : (b.move next).site.toils ≠ b.site.toils) : ¬ b.WorksFor next a := by
  rintro (rfl | ⟨m, stage, _, at_stage, named⟩)
  · refine toil ?_
    have waits : b.isReady (.activation a) = false := by
      obtain ⟨x, found, stage⟩ := activation_of_stage? failed
      simp [isReady, canActivate, found, stage]
    simp [move, waits]
  · obtain rfl := Option.some.inj (failed.symm.trans at_stage)
    simp [Activation.Stage.manager?] at named

end Broker

end LanguageBroker
