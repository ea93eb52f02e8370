import LanguageBroker.Proofs.LoneJobs

/-!
The errands of callers that look for an activation or deliver a call: what happens to them while
others are at work, and how they go on themselves.
-/

namespace LanguageBroker

/-- Can an errand that delivers a call have come there? -/
def Errand.Stage.isSending : Errand.Stage → Bool
  | .fresh | .asking .. | .serving _ | .done _ => true
  | _ => false

/-- Was the server not told yet? -/
def Errand.Stage.isUnsent : Errand.Stage → Bool
  | .fresh | .asking .. => true
  | _ => false

/-- What an errand has come to. -/
@[simp] def Errand.Stage.outcome? : Errand.Stage → Option Errand.Outcome
  | .done outcome => some outcome
  | _ => none

/-- The server that a job has found. -/
def Job.Outcome.server? : Job.Outcome → Option BackendId
  | .found server => server
  | _ => none

namespace Broker

variable {b c d : Broker} {e : ErrandId}

namespace Respects

/-- The managers hear of something. -/
theorem hear (b : Broker) (e : ErrandId) (event : WorkspaceEvent) :
    Respects b (b.hear event) e where
  post := rfl
  job {m _ x _} _ hx hy := by
    refine ⟨x.hear event, by simp [Broker.hear, hx], ?_⟩
    exact .of_jobs (Manager.job?_id hy ▸ hy) rfl rfl

theorem cancelErrand (b : Broker) (e i : ErrandId) : Respects b (b.cancelErrand i) e := by
  refine of_managers ?_ rfl
  simp only [post?, errand?, Broker.cancelErrand, List.find?_map]
  have same : ((fun x : Errand => decide (x.id = e)) ∘ fun x =>
      if x.id = i then { x with cancelled := true } else x) = fun x => decide (x.id = e) := by
    funext x
    by_cases here : x.id = i <;> simp [here]
  rw [same]
  cases b.errands.find? fun x => x.id = e with
  | none => rfl
  | some x =>
    simp only [Option.map_some]
    split <;> rfl

end Respects

theorem Respects.errandStage? (h : Respects b c e) : c.errandStage? e = b.errandStage? e := by
  have stage (d : Broker) : d.errandStage? e = (d.post? e).map (·.2) := by
    simp [Broker.errandStage?, post?, Function.comp_def]
  rw [stage, stage, h.post]

theorem Carries.respects (carries : b.Carries e) (h : Respects b c e) : c.Carries e := by
  obtain ⟨task, stage, found, other⟩ := carries
  exact ⟨task, stage, h.post.trans found, other⟩

/-- A new errand leaves those that there are in peace. -/
theorem Carries.entrust (carries : b.Carries e) (task : Errand.Task) :
    Respects b (b.entrust task).1 e := by
  obtain ⟨_, _, found, _⟩ := carries
  exact respects_entrust found task

/-- The agents of the broker leave the errands of its callers in peace. -/
theorem respects_agent (diligent : b.Diligent) (carries : b.Carries e) {a : Agent}
    (listed : a ∈ b.agents) (ready : b.isReady a) : Respects b (b.act a) e := by
  have owns := diligent.owns carries
  have lined : b.IsLined := diligent.kept.lined
  cases a with
  | watch =>
    obtain ⟨_, _, found, _⟩ := carries
    exact (respects_stepWatch owns lined found ready).trans (.tidy _ e)
  | activation a => exact (respects_stepActivation owns lined ready).trans (.tidy _ e)
  | manager m duty =>
    obtain ⟨x, found, moves⟩ : ∃ x, b.managers[m]? = some x ∧ x.isReady b.site.clock duty := by
      simpa only [isReady, Option.any_eq_true] using ready
    refine (Respects.stepManager lined found moves fun j waits => ?_).trans (.tidy _ e)
    -- nobody but those who wait for a job takes it further, the restart apart
    have other := owns.other waits
    obtain ⟨_, _, kinds⟩ : ∃ i < b.managers.length,
        ∃ d ∈ Manager.duties, Agent.manager i d = .manager m duty := by
      simpa [agents] using listed
    obtain ⟨kind, mem, same⟩ := kinds
    obtain ⟨rfl, rfl⟩ := Agent.manager.inj same
    simp only [Manager.duties, List.mem_cons, List.not_mem_nil, or_false] at mem
    rcases mem with rfl | rfl | rfl | rfl | rfl <;> simp [Manager.Duty.job?, Ne.symm other]

theorem nextErrand_forgetErrand (b : Broker) (e : ErrandId) :
    (b.forgetErrand e).nextErrand = b.nextErrand := by
  rcases forgetErrand_cases b e with ⟨_, same⟩ | ⟨_, _, _, _, _, same⟩ <;> rw [same] <;> rfl

theorem IsNumbered.post?_entrust (h : b.IsNumbered) (task : Errand.Task) :
    (b.entrust task).1.post? b.nextErrand = some (task, .fresh) := by
  have absent : b.errands.find? (fun x => x.id = b.nextErrand) = none := by
    refine List.find?_eq_none.mpr fun x hx same => ?_
    have early := h (x.id, x.task, x.stage) (List.mem_map_of_mem hx)
    exact Nat.lt_irrefl _ (of_decide_eq_true same ▸ early)
  simp [post?, errand?, entrust, List.find?_append, absent]

theorem Leads.entrust (leads : Leads b c) {task : Errand.Task} (known : c.knows task) :
    Leads b (c.entrust task).1 :=
  .change leads (.entrust known : Change none c _)

theorem Leads.tells (leads : Leads b c) {a : ActivationId} {stage : Errand.Stage}
    (tells : b.Tells a stage) : c.Tells a stage := by
  rcases tells with ⟨r, ended, same⟩ | ⟨cause, ended, same⟩
  · exact .inl ⟨r, leads.result? ended, same⟩
  · exact .inr ⟨cause, leads.result? ended, same⟩

/-- What an errand that looks for an activation can have come to. -/
def Seeks (b : Broker) : Errand.Stage → Prop
  | .fresh | .awaiting _ | .done (.failed _) => True
  | .done (.found record) => ∃ a, b.result? a = some (.ok record)
  | _ => False

theorem Leads.seeks (leads : Leads b c) {stage : Errand.Stage} (seeks : b.Seeks stage) :
    c.Seeks stage := by
  cases stage with
  | done outcome =>
    cases outcome with
    | found record =>
      obtain ⟨a, ended⟩ := seeks
      exact ⟨a, leads.result? ended⟩
    | _ => exact seeks
  | _ => exact seeks

/-! How an errand goes on itself. -/

variable {task : Errand.Task} {stage old : Errand.Stage} {document : Option Uri} {r : Record}
  {method : Method} {params : Json} {m : ManagerId} {j : JobId} {n : Manager} {y : Job}

theorem errand_of_post? (found : b.post? e = some (task, stage)) :
    ∃ x, b.errand? e = some x ∧ x.task = task ∧ x.stage = stage := by
  obtain ⟨x, hx, same⟩ := Option.map_eq_some_iff.mp found
  exact ⟨x, hx, Prod.mk.inj same⟩

theorem post?_put (found : b.post? e = some (task, old)) (stage : Errand.Stage) :
    (b.putErrand e stage).post? e = some (task, stage) := by
  rw [post?_putErrand, found]
  simp

/-- An errand that looks for an activation comes to it, or hears how it has ended. -/
theorem stepErrand_find (found : b.post? e = some (.find document none, stage))
    (seeks : b.Seeks stage) (ready : b.canRun e) :
    ∃ next, (b.stepErrand e).post? e = some (.find document none, next) ∧
      (b.stepErrand e).managers = b.managers ∧ (b.stepErrand e).site = b.site ∧
        (stage = .fresh ∧ ((∃ a, next = .awaiting a) ∨ ∃ cause, next = .done (.failed cause)) ∨
          ∃ a, stage = .awaiting a ∧ b.Tells a next) := by
  obtain ⟨x, hx, task, rfl⟩ := errand_of_post? found
  simp only [canRun, hx] at ready
  simp only [stepErrand, hx]
  cases at_stage : x.stage with
  | fresh =>
    rw [task]
    simp only [beginErrand]
    cases located : locate b.site.host document none with
    | error cause =>
      exact ⟨_, post?_put found _, rfl, rfl, .inl ⟨trivial, .inr ⟨cause, rfl⟩⟩⟩
    | ok scope =>
      have kept : (b.entry scope).1.post? e = b.post? e ∧
          (b.entry scope).1.managers = b.managers ∧ (b.entry scope).1.site = b.site := by
        rcases entry_cases b scope with same | ⟨_, same⟩ <;> rw [same] <;> exact ⟨rfl, rfl, rfl⟩
      exact ⟨_, post?_put (kept.1.trans found) _, kept.2.1, kept.2.2, .inl ⟨trivial, .inl ⟨_, rfl⟩⟩⟩
  | awaiting a =>
    simp only [at_stage] at ready
    obtain ⟨result, ended⟩ := Option.isSome_iff_exists.mp ready
    have seen : (b.observe a).result? a = some result := by
      rw [result?_eq_some] at ended ⊢
      obtain ⟨z, hz, same⟩ := activation_of_stage? ended
      simp [observe, stage?, files, hz, same]
    have there : (b.observe a).post? e = some (.find document none, x.stage) := found
    simp only [seen]
    cases result with
    | ok record =>
      exact ⟨_, post?_put there _, rfl, rfl, .inr ⟨a, rfl, .inl ⟨record, ended, rfl⟩⟩⟩
    | error cause =>
      exact ⟨_, post?_put there _, rfl, rfl, .inr ⟨a, rfl, .inr ⟨cause, ended, rfl⟩⟩⟩
  | done outcome => simp [at_stage] at ready
  | _ => simp [at_stage, Seeks] at seeks

/-- An errand asks a manager for its server. -/
theorem stepErrand_inquire (found : b.post? e = some (.deliver r method params, .fresh))
    (manager : b.managers[r.manager]? = some n) :
    b.stepErrand e = (b.setManager r.manager (n.ask .lookUp).1).putErrand e
      (.asking r.manager n.nextJob) := by
  obtain ⟨x, hx, task, stage⟩ := errand_of_post? found
  simp only [stepErrand, hx, stage, task, beginErrand, ask_eq manager]
  rfl

/-- The job that an errand waits for takes a step. -/
theorem stepErrand_moves (found : b.post? e = some (task, .asking m j))
    (manager : b.managers[m]? = some n) (job : n.job? j = some y) (live : ¬ y.isDone) :
    b.stepErrand e = { b.setManager m (n.stepJob b.site y).1 with
      site := (n.stepJob b.site y).2 } := by
  obtain ⟨x, hx, -, stage⟩ := errand_of_post? found
  have outcome : b.outcome? m j = none := by
    cases ended : b.outcome? m j with
    | none => rfl
    | some o =>
      simp only [outcome?, manager, Option.bind_some] at ended
      obtain ⟨z, hz, done⟩ := isDone_of_outcome ended
      obtain rfl := Option.some.inj (job.symm.trans hz)
      exact absurd done live
  simp only [stepErrand, hx, stage, await, outcome, stepManager, manager, Manager.act, job]
  rfl

/-- An errand hears which server there is. -/
theorem stepErrand_answer {o : Job.Outcome} (found : b.post? e = some (task, .asking m j))
    (outcome : b.outcome? m j = some o) :
    b.stepErrand e = (b.forgetJob m j).reach e o.server? task := by
  obtain ⟨x, hx, rfl, stage⟩ := errand_of_post? found
  simp only [stepErrand, hx, stage, await, outcome]
  cases o <;> rfl

/-- A call is answered at once or handed to the server. -/
theorem post?_reach (found : b.post? e = some (.deliver r method params, old))
    (server : Option BackendId) :
    ∃ next, (b.reach e server (.deliver r method params)).post? e =
      some (.deliver r method params, next) ∧ next.isSending ∧ next.isUnsent = false := by
  unfold reach
  dsimp only
  split
  · exact ⟨_, post?_put found _, rfl, rfl⟩
  · split
    · next site result _ =>
      exact ⟨_, post?_put (b := { b with site }) found _, rfl, rfl⟩
    · next site d _ => exact ⟨_, post?_put (b := { b with site }) found _, rfl, rfl⟩

/-- An errand that delivers a call goes on doing so, and what is sent is not sent again. -/
theorem stepErrand_deliver (found : b.post? e = some (.deliver r method params, stage))
    (sending : stage.isSending) (ready : b.canRun e) :
    ∃ next, (b.stepErrand e).post? e = some (.deliver r method params, next) ∧ next.isSending ∧
      (next.isUnsent → stage.isUnsent) := by
  obtain ⟨x, hx, task, rfl⟩ := errand_of_post? found
  simp only [canRun, hx] at ready
  cases at_stage : x.stage with
  | fresh =>
    simp only [stepErrand, hx, at_stage, task, beginErrand]
    exact ⟨_, post?_put ((Respects.ask b e _ _).post.trans found) _, rfl, fun _ => rfl⟩
  | asking m j =>
    rw [at_stage] at found
    cases outcome : b.outcome? m j with
    | some o =>
      rw [stepErrand_answer found outcome]
      obtain ⟨next, there, sending, sent⟩ :=
        post?_reach (b := b.forgetJob m j) (found : (b.forgetJob m j).post? e = _) o.server?
      exact ⟨next, there, sending, fun _ => rfl⟩
    | none =>
      have errands : (b.stepErrand e).errands = b.errands := by
        simp only [stepErrand, hx, at_stage, await, outcome, stepManager]
        split <;> rfl
      exact ⟨_, (post?_congr errands e).trans found, rfl, fun _ => rfl⟩
  | serving d =>
    simp only [stepErrand, hx, at_stage]
    split
    · exact ⟨_, post?_put (b := { b with site := (b.site.endCall d).1 }) found _, rfl,
        by simp [Errand.Stage.isUnsent]⟩
    · exact ⟨_, post?_put (b := { b with site := (b.site.cancelCall d).1 }) found _, rfl,
        by simp [Errand.Stage.isUnsent]⟩
  | done outcome => simp [at_stage] at ready
  | _ => simp [at_stage, Errand.Stage.isSending] at sending

/-- The record of an activation that has succeeded is known. -/
theorem knows_of_result? {a : ActivationId} (ended : b.result? a = some (.ok r)) (method : Method)
    (params : Json) : b.knows (.deliver r method params) := by
  obtain ⟨x, hx, result⟩ := Option.bind_eq_some_iff.mp ended
  refine List.any_eq_true.mpr ⟨x, List.mem_of_getElem? hx, ?_⟩
  cases stage : x.stage <;> simp_all [Activation.result?, Activation.record?]

end Broker

end LanguageBroker
