import LanguageBroker.Proofs.BrokerErrands
import LanguageBroker.Proofs.BrokerManagers
import LanguageBroker.Proofs.ManagerShifts

/-!
What a move of the broker does to its managers, and who is behind their jobs: a first start belongs
to an activation, and a question or a disposal that an errand waits for is what the errand asked
for.
-/

namespace LanguageBroker

/-- The job that the errand waits for, and what it is for. -/
def Errand.Stage.asks? : Errand.Stage → Option (ManagerId × JobId × Job.Task)
  | .asking m j => some (m, j, .lookUp)
  | .disposing m j _ _ => some (m, j, .dispose)
  | _ => none

theorem Errand.Stage.job?_of_asks? {stage : Errand.Stage} {m : ManagerId} {j : JobId}
    {task : Job.Task} (asks : stage.asks? = some (m, j, task)) : stage.job? = some (m, j) := by
  cases stage <;> simp_all [asks?, job?]

theorem Errand.Stage.asks?_of_job? {stage : Errand.Stage} {m : ManagerId} {j : JobId}
    (job : stage.job? = some (m, j)) :
    stage.asks? = some (m, j, .lookUp) ∨ stage.asks? = some (m, j, .dispose) ∧ stage.isLaden := by
  cases stage <;> simp_all [asks?, job?, isLaden]

namespace Broker

/-- What a move does to the managers and to the site. -/
inductive Staffing (lost : Prop) (b c : Broker) : Prop
  | shift (length : c.managers.length = b.managers.length) (site : b.site.Calm c.site)
      (managers : ∀ {m : ManagerId} {x n : Manager}, b.managers[m]? = some x →
        c.managers[m]? = some n → x.Shift lost n) : Staffing lost b c
  | step {m : ManagerId} {x n : Manager} {y : Job} {t : Site} {clock : Clock}
      (manager : b.managers[m]? = some x) (found : x.job? y.id = some y)
      (ready : x.canStep clock y) (step : x.JobStep b.site y n t)
      (managers : c.managers = b.managers.set m n) (site : c.site = t) : Staffing lost b c
  | add (variant : Variant) (scope : Scope)
      (managers : c.managers = b.managers ++ [starting variant scope]) (site : c.site = b.site)
      (begun : ∃ a stage, c.stage? a = some stage ∧
        stage.starts? = some (b.managers.length, 1)) : Staffing lost b c

/-- Jobs are what those behind them asked for. -/
structure Staffed (b : Broker) : Prop where
  clear : ∀ {m : ManagerId} {n : Manager}, b.managers[m]? = some n → n.Clear
  begun : ∀ {m : ManagerId} {n : Manager}, b.managers[m]? = some n →
    n.Begun ∨ ∃ a stage j, b.stage? a = some stage ∧ stage.starts? = some (m, j)
  tasked : ∀ {e : ErrandId} {stage : Errand.Stage} {m : ManagerId} {j : JobId} {task : Job.Task}
    {n : Manager}, b.errandStage? e = some stage → stage.asks? = some (m, j, task) →
      b.managers[m]? = some n → n.Tasked j task

variable {b c d : Broker} {a : ActivationId} {m : ManagerId} {e : ErrandId} {j : JobId}
  {r : Record} {sight : Option Sight} {lost : Prop}

/-! The managers one by one. -/

theorem Staffing.before (staffing : Staffing lost b c) {n : Manager}
    (found : c.managers[m]? = some n) :
    (∃ x, b.managers[m]? = some x ∧ x.Turn lost b.site n) ∨
      m = b.managers.length ∧ (∃ variant scope, n = starting variant scope) ∧
        ∃ a stage, c.stage? a = some stage ∧ stage.starts? = some (m, 1) := by
  cases staffing with
  | shift length site managers =>
    have inside : m < b.managers.length := length ▸ (List.getElem?_eq_some_iff.mp found).1
    have here := List.getElem?_eq_getElem inside
    exact .inl ⟨_, here, .shift (managers here found)⟩
  | @step i x y z t clock manager job ready step managers site =>
    rw [managers, List.getElem?_set] at found
    split at found
    · next same =>
      subst same
      have inside := (List.getElem?_eq_some_iff.mp manager).1
      rw [if_pos inside] at found
      obtain rfl := Option.some.inj found
      exact .inl ⟨x, manager, .step job ready step⟩
    · exact .inl ⟨n, found, .shift (.aside (.of_jobs rfl rfl rfl rfl rfl rfl rfl rfl id))⟩
  | add variant scope managers site begun =>
    have all := found
    rw [managers, List.getElem?_append] at found
    split at found
    · exact .inl ⟨n, found, .shift (.aside (.of_jobs rfl rfl rfl rfl rfl rfl rfl rfl id))⟩
    · next beyond =>
      have last := (List.getElem?_eq_some_iff.mp all).1
      rw [managers, List.length_append, List.length_singleton] at last
      obtain rfl := List.mem_singleton.mp (List.mem_of_getElem? found)
      obtain rfl := Nat.le_antisymm (Nat.le_of_lt_succ last) (Nat.le_of_not_lt beyond)
      exact .inr ⟨rfl, ⟨variant, scope, rfl⟩, begun⟩

theorem Staffing.length (staffing : Staffing lost b c) :
    b.managers.length ≤ c.managers.length := by
  cases staffing with
  | shift length => exact Nat.le_of_eq length.symm
  | step _ _ _ _ managers => simp [managers]
  | add _ _ managers => simp [managers]

theorem Staffing.later (staffing : Staffing lost b c) {x : Manager}
    (found : b.managers[m]? = some x) :
    ∃ n, c.managers[m]? = some n ∧ x.Turn lost b.site n := by
  have inside := (List.getElem?_eq_some_iff.mp found).1
  have here := List.getElem?_eq_getElem (Nat.lt_of_lt_of_le inside staffing.length)
  rcases staffing.before here with ⟨y, hy, turn⟩ | ⟨new, _⟩
  · obtain rfl := Option.some.inj (found.symm.trans hy)
    exact ⟨_, here, turn⟩
  · exact absurd new (Nat.ne_of_lt inside)

theorem Alike.staffing (alike : Alike b c) : Staffing lost b c :=
  .shift alike.length alike.site fun hx hn => .aside (alike.managers hx hn)

/-! One change. -/

private theorem staffing_set {x n : Manager} (found : b.managers[m]? = some x)
    (shift : x.Shift lost n) (managers : c.managers = b.managers.set m n)
    (site : c.site = b.site) : Staffing lost b c := by
  refine .shift (by simp [managers]) (site ▸ .refl _) fun {i y z} hy hz => ?_
  rw [managers, List.getElem?_set] at hz
  split at hz
  · next here =>
    subst here
    have inside := (List.getElem?_eq_some_iff.mp found).1
    rw [if_pos inside] at hz
    obtain rfl := Option.some.inj hz
    obtain rfl := Option.some.inj (found.symm.trans hy)
    exact shift
  · obtain rfl := Option.some.inj (hy.symm.trans hz)
    exact .aside (.of_jobs rfl rfl rfl rfl rfl rfl rfl rfl id)

private theorem staffing_same (managers : c.managers = b.managers) (site : c.site = b.site) :
    Staffing lost b c := by
  refine .shift (by rw [managers]) (site ▸ .refl _) fun hy hz => ?_
  rw [managers] at hz
  obtain rfl := Option.some.inj (hy.symm.trans hz)
  exact .aside (.of_jobs rfl rfl rfl rfl rfl rfl rfl rfl id)

/-- A manager that has been found is past its first start. -/
theorem Staffed.begun_of_recorded (staffed : b.Staffed) (h : b.Kept) (recorded : b.IsRecorded r)
    {n : Manager} (manager : b.managers[r.manager]? = some n) : n.Begun := by
  rcases staffed.begun manager with begun | ⟨a, stage, j, at_stage, starts⟩
  · exact begun
  · exact absurd starts (h.not_starts recorded at_stage)

/-- A disposal that is asked for, with the line for the simple server and its record as they may
be. -/
theorem beginDisposal_eq {s : Broker} (managers : s.managers = b.managers)
    {n : Manager} (manager : b.managers[m]? = some n) (left : List Record)
    (evicted : List ScopeKey) :
    s.beginDisposal e m left evicted = (s.setManager m (n.ask .dispose).1).putErrand e
      (.disposing m (n.ask .dispose).2 left evicted) := by
  simp only [beginDisposal, ask_eq (managers ▸ manager)]

private theorem staffing_beginDisposal (staffed : b.Staffed) (h : b.Kept) {s : Broker}
    (managers : s.managers = b.managers) (site : s.site = b.site) (recorded : b.IsRecorded r)
    (left : List Record) (evicted : List ScopeKey) :
    Staffing lost b (s.beginDisposal e r.manager left evicted) := by
  have manager := List.getElem?_eq_getElem (h.recorded_within recorded)
  rw [beginDisposal_eq managers manager]
  exact staffing_set manager (.ask (staffed.begun_of_recorded h recorded manager) (.inr rfl))
    (congrArg (fun l => List.set l r.manager _) managers) site

private theorem idle_of_done {x : Manager} {y : Job} (hy : x.job? j = some y) (done : y.isDone) :
    ∀ z, x.job? j = some z → z.isDone ∨ z.task = .lookUp ∨ z.task = .dispose ∧ lost := by
  intro z hz
  obtain rfl := Option.some.inj (hy.symm.trans hz)
  exact .inl done

private theorem stage?_launch {x : Activation} (found : b.activations[a]? = some x)
    (variant : Variant) (scope : Scope) (stage : ManagerId → JobId → Activation.Stage) :
    (b.launch a variant scope stage).stage? a = some (stage b.managers.length 1) := by
  have here : ({ b with managers := b.managers ++ [starting variant scope] } : Broker).stage? a =
      some x.stage := stage?_of_activation found
  rw [launch, stage?_putActivation here, if_pos rfl]

theorem Staffed.staffing (staffed : b.Staffed) (h : b.Kept) (change : Change sight b c) :
    Staffing (sight = some .lost) b c := by
  cases change with
  | job manager found ready step => exact .step manager found ready step rfl rfl
  | @launchFull a x variant found before =>
    exact .add _ _ rfl rfl ⟨a, _, stage?_launch found variant x.scope (.startingFull variant), rfl⟩
  | @launchSimple a x found before =>
    exact .add _ _ rfl rfl ⟨a, _, stage?_launch found .simple x.scope .startingSimple, rfl⟩
  | fail found before manager ended failed =>
    have starting := h.starting (stage?_of_activation found) before manager
    refine staffing_set manager (.clean starting fun y hy => ?_) rfl rfl
    obtain rfl := Option.some.inj (ended.symm.trans hy)
    obtain ⟨cause, stage⟩ := failed
    simp [Job.isDone, stage]
  | win _ _ manager ended done =>
    exact staffing_set manager (.forget (idle_of_done ended done)) rfl rfl
  | winSimple _ _ manager ended done =>
    exact staffing_set manager (.forget (idle_of_done ended done)) rfl rfl
  | fallBack _ _ manager ended done =>
    exact staffing_set manager (.forget (idle_of_done ended done)) rfl rfl
  | giveUp _ _ manager ended done =>
    exact staffing_set manager (.forget (idle_of_done ended done)) rfl rfl
  | forget e free =>
    rcases forgetErrand_cases b e with ⟨_, same⟩ | ⟨x, m, j, found, job, same⟩
    · rw [same]
      exact staffing_same rfl rfl
    · obtain ⟨r, recorded, rfl⟩ := (h.knows found).jobs job
      have manager := List.getElem?_eq_getElem (h.recorded_within recorded)
      rw [same, forgetJob_eq manager]
      refine staffing_set manager (.forget fun y hy => .inr ?_) rfl rfl
      have at_stage := errandStage?_of_errand found
      rcases Errand.Stage.asks?_of_job? job with asks | ⟨asks, laden⟩
      · exact .inl ((staffed.tasked at_stage asks manager).task hy)
      · exact .inr ⟨(staffed.tasked at_stage asks manager).task hy, free x found laden⟩
  | @enter e x scope =>
    rcases entry_cases b scope with same | ⟨_, same⟩
    · rw [same]
      exact staffing_same rfl rfl
    · rw [same]
      exact staffing_same rfl rfl
  | @inquire e x r n found before task manager =>
    have recorded := (h.knows found).task task
    exact staffing_set manager (.ask (staffed.begun_of_recorded h recorded manager) (.inl rfl))
      rfl rfl
  | answer _ _ manager ended done =>
    rw [forgetJob_eq manager]
    exact staffing_set manager (.forget (idle_of_done ended done)) rfl rfl
  | release found before =>
    exact staffing_beginDisposal staffed h rfl rfl
      ((h.knows found).records _ (by rw [before]; exact List.mem_cons_self)) _ _
  | @discard e x r left evicted found before =>
    exact staffing_beginDisposal (s := b.dropSimple e r) staffed h rfl rfl
      ((h.knows found).records _ (by rw [before]; exact List.mem_cons_self)) _ _
  | _ => exact staffing_same rfl rfl

/-- A first start that is on its way is so after a change, or no start is left in its manager. -/
theorem Change.starts (h : b.Kept) (change : Change sight b c) {stage : Activation.Stage}
    (at_stage : b.stage? a = some stage) (starts : stage.starts? = some (m, j)) :
    (∃ a stage j, c.stage? a = some stage ∧ stage.starts? = some (m, j)) ∨
      ∀ n, c.managers[m]? = some n → n.Begun := by
  have same (files : c.files = b.files) :
      ∃ a stage j, c.stage? a = some stage ∧ stage.starts? = some (m, j) :=
    ⟨a, stage, j, (stage?_congr files a).trans at_stage, starts⟩
  have put {s : Broker} {i : ActivationId} {x : Activation} {new : Activation.Stage}
      (found : b.activations[i]? = some x) (files : s.files = b.files)
      (idle : x.stage.starts? = none) :
      ∃ a stage j, (s.putActivation i new).stage? a = some stage ∧
        stage.starts? = some (m, j) := by
    have was := stage?_of_activation found
    refine ⟨a, stage, j, ?_, starts⟩
    rw [stage?_putActivation ((stage?_congr files i).trans was), if_neg, stage?_congr files,
      at_stage]
    rintro rfl
    obtain rfl := Option.some.inj (was.symm.trans at_stage)
    simp [idle] at starts
  -- the one whose start is over puts it away
  have ends {s : Broker} {i : ActivationId} {x : Activation} {new : Activation.Stage}
      {k : ManagerId} {l : JobId} {z : Manager} (found : b.activations[i]? = some x)
      (files : s.files = b.files) (before : x.stage.starts? = some (k, l))
      (begun : z.Begun) (inside : k < b.managers.length)
      (managers : s.managers = b.managers.set k z) :
      (∃ a stage j, (s.putActivation i new).stage? a = some stage ∧
        stage.starts? = some (m, j)) ∨ ∀ n, s.managers[m]? = some n → n.Begun := by
    have was := stage?_of_activation found
    by_cases here : a = i
    · subst here
      obtain rfl := Option.some.inj (was.symm.trans at_stage)
      obtain ⟨rfl, rfl⟩ := Prod.mk.inj (Option.some.inj (before.symm.trans starts))
      refine .inr fun n hn => ?_
      rw [managers, List.getElem?_set_self inside] at hn
      exact Option.some.inj hn ▸ begun
    · refine .inl ⟨a, stage, j, ?_, starts⟩
      rw [stage?_putActivation ((stage?_congr files i).trans was), if_neg here,
        stage?_congr files, at_stage]
  have inside {k : ManagerId} {z : Manager} (found : b.managers[k]? = some z) :
      k < b.managers.length := (List.getElem?_eq_some_iff.mp found).1
  cases change with
  | turn found before =>
    exact .inl (put found rfl (Activation.Stage.of_isEarly before).2.2.1)
  | queue found before =>
    exact .inl (put (s := b.joinLine _) found rfl (Activation.Stage.of_isEarly before).2.2.1)
  | launchFull found before =>
    exact .inl (put (s := { b with managers := _ }) found rfl (by rw [before]; rfl))
  | launchSimple found before =>
    exact .inl (put (s := { b with managers := _ }) found rfl (by rw [before]; rfl))
  | fail found before manager =>
    have starting := h.starting (stage?_of_activation found) before manager
    have lined := (h.lined manager).forget
    exact ends (s := b.setManager _ _) found rfl before
      (Manager.Begun.ask starting.begun (lined _) (by simp)) (inside manager) rfl
  | @win i x variant k l n y found before manager =>
    have starts : x.stage.starts? = some (k, l) := by rw [before]; rfl
    have starting := h.starting (stage?_of_activation found) starts manager
    exact ends (s := b.setManager _ _) found rfl starts starting.begun (inside manager) rfl
  | @winSimple i x k l n y found before manager =>
    have starts : x.stage.starts? = some (k, l) := by rw [before]; rfl
    have starting := h.starting (stage?_of_activation found) starts manager
    exact ends (s := { b.setManager k (n.forget l) with
      simple := some ⟨.simple, k⟩ }.leaveLine (.activation i)) found rfl starts starting.begun
      (inside manager) rfl
  | share found before =>
    exact .inl (put (s := b.leaveLine _) found rfl (by rw [before]; rfl))
  | refuse found before =>
    exact .inl (put (s := b.leaveLine _) found rfl (by rw [before]; rfl))
  | @fallBack i x variant k l cause n y found before =>
    exact .inl (put (s := (b.setManager k (n.forget l)).joinLine _) found rfl
      (by rw [before]; rfl))
  | @giveUp i x k l cause n y found before =>
    exact .inl (put (s := (b.setManager k (n.forget l)).leaveLine _) found rfl
      (by rw [before]; rfl))
  | settle found before => exact .inl (put found rfl (by rw [before]; rfl))
  | @enter e x scope => exact .inl ⟨a, stage, j, stage?_entry scope at_stage, starts⟩
  | forget e => exact .inl (same (files_forgetErrand b e).1)
  | release => exact .inl (same (files_beginDisposal ..).1)
  | discard => exact .inl (same (files_beginDisposal ..).1)
  | _ => exact .inl (same rfl)

/-- A job that an errand waits for is what it was before, or what it has just asked for. -/
theorem Change.asks (h : b.Kept) (change : Change sight b c) {stage : Errand.Stage}
    {task : Job.Task} (found : c.errandStage? e = some stage)
    (asks : stage.asks? = some (m, j, task)) :
    b.errandStage? e = some stage ∨ ∀ n, c.managers[m]? = some n → n.Tasked j task := by
  have put {s : Broker} {i : ErrandId} {new : Errand.Stage} (errands : s.errands = b.errands)
      (here : (s.putErrand i new).errandStage? e = some stage)
      (other : stage = new → ∀ n, c.managers[m]? = some n → n.Tasked j task) :
      b.errandStage? e = some stage ∨ ∀ n, c.managers[m]? = some n → n.Tasked j task := by
    rw [errandStage?_putErrand] at here
    obtain ⟨old, was, same⟩ := Option.map_eq_some_iff.mp here
    split at same
    · exact .inr (other same.symm)
    · subst same
      exact .inl (by simpa only [errandStage?, errand?, errands] using was)
  have idle {new : Errand.Stage} (none : new.job? = none) (same : stage = new) :
      ∀ n, c.managers[m]? = some n → n.Tasked j task := by
    subst same
    simp [Errand.Stage.job?_of_asks? asks] at none
  have asked {k : ManagerId} {x : Manager} {other : Job.Task} (manager : b.managers[k]? = some x)
      (managers : c.managers = b.managers.set k (x.ask other).1)
      (same : (k, (x.ask other).2, other) = (m, j, task)) :
      ∀ n, c.managers[m]? = some n → n.Tasked j task := by
    obtain ⟨rfl, rfl, rfl⟩ : k = m ∧ (x.ask other).2 = j ∧ other = task := by simpa using same
    intro n hn
    rw [managers, List.getElem?_set_self (List.getElem?_eq_some_iff.mp manager).1] at hn
    exact Option.some.inj hn ▸ Manager.tasked_ask (h.lined manager) other
  have disposing {s : Broker} {i : ErrandId} {x : Errand} {r : Record} {left : List Record}
      {evicted : List ScopeKey} (managers : s.managers = b.managers)
      (errands : s.errands = b.errands) (hx : b.errand? i = some x)
      (mem : r ∈ x.stage.records) (here : c = s.beginDisposal i r.manager left evicted) :
      b.errandStage? e = some stage ∨ ∀ n, c.managers[m]? = some n → n.Tasked j task := by
    have manager := List.getElem?_eq_getElem (h.recorded_within ((h.knows hx).records _ mem))
    rw [beginDisposal_eq managers manager] at here
    refine put (s := s.setManager _ _) errands (here ▸ found) fun same => ?_
    subst same
    refine asked manager ?_ (Option.some.inj asks)
    rw [here]
    exact congrArg (fun l => List.set l r.manager _) managers
  cases change with
  | entrust =>
    rcases errandStage?_of_entrust found with old | ⟨-, -, rfl⟩
    · exact .inl old
    · simp [Errand.Stage.asks?] at asks
  | forget i => exact .inl (errandStage?_of_forgetErrand found)
  | @enter i x scope new hx before after =>
    have errands := errands_entry b scope
    refine put errands found (idle ?_)
    rcases after with rfl | rfl <;> rfl
  | tell => exact put rfl found (idle rfl)
  | pass _ passes => exact put rfl found (idle passes.jobs)
  | @inquire i x r n hx before task' manager =>
    refine put (s := b.setManager _ _) rfl found fun same => ?_
    subst same
    exact asked manager rfl (Option.some.inj asks)
  | answer _ _ _ _ _ passes => exact put (s := b.forgetJob _ _) rfl found (idle passes.jobs)
  | gather => exact put rfl found (idle rfl)
  | evict => exact put (s := b.evict _) rfl found (idle rfl)
  | look => exact put (s := b.joinLine _) rfl found (idle rfl)
  | release hx before =>
    exact disposing rfl rfl hx (by rw [before]; exact List.mem_cons_self) rfl
  | @discard i x r left evicted hx before =>
    exact disposing (s := b.dropSimple i r) rfl rfl hx
      (by rw [before]; exact List.mem_cons_self) rfl
  | _ => exact .inl found

/-! Whole moves. -/

namespace Staffed

theorem change (staffed : b.Staffed) (h : b.Kept) (change : Change sight b c) : c.Staffed := by
  have staffing := staffed.staffing h change
  refine ⟨fun {m n} hn => ?_, fun {m n} hn => ?_, fun {e stage m j task n} found asks hn => ?_⟩
  · rcases staffing.before hn with ⟨x, hx, turn⟩ | ⟨_, ⟨variant, scope, rfl⟩, _⟩
    · exact turn.clear (h.lined hx) (staffed.clear hx)
    · exact Manager.clear_starting variant scope
  · rcases staffing.before hn with ⟨x, hx, turn⟩ | ⟨_, _, a, stage, at_stage, starts⟩
    · rcases staffed.begun hx with begun | ⟨a, stage, j, at_stage, starts⟩
      · exact .inl (turn.begun (h.lined hx) begun)
      · exact (change.starts h at_stage starts).symm.imp_left fun begun => begun n hn
    · exact .inr ⟨a, stage, 1, at_stage, starts⟩
  · rcases change.asks h found asks with old | tasked
    · rcases staffing.before hn with ⟨x, hx, turn⟩ | ⟨rfl, _⟩
      · exact turn.tasked (h.lined hx) (staffed.tasked old asks hx)
      · -- an errand waits for a manager that was found before
        obtain ⟨y, hy, rfl⟩ := Option.map_eq_some_iff.mp old
        obtain ⟨r, recorded, last⟩ := (h.knows hy).jobs
          (Errand.Stage.job?_of_asks? asks)
        exact absurd (h.recorded_within recorded) (last ▸ Nat.lt_irrefl _)
    · exact tasked n hn

theorem alike (staffed : b.Staffed) (h : b.Kept) (alike : Alike b c) : c.Staffed := by
  have stages := stage?_congr (b := b) alike.activations
  refine ⟨fun {m n} hn => ?_, fun {m n} hn => ?_, fun {e stage m j task n} found asks hn => ?_⟩
  · obtain ⟨x, hx, aside⟩ := alike.before hn
    exact (staffed.clear hx).aside (h.lined hx) aside
  · obtain ⟨x, hx, aside⟩ := alike.before hn
    rcases staffed.begun hx with begun | ⟨a, stage, j, at_stage, starts⟩
    · exact .inl (begun.aside aside)
    · exact .inr ⟨a, stage, j, (stages a).trans at_stage, starts⟩
  · obtain ⟨x, hx, aside⟩ := alike.before hn
    have shift : x.Shift False n := .aside aside
    exact shift.tasked (h.lined hx) (staffed.tasked (alike.errandStage? e ▸ found) asks hx)

end Staffed

theorem staffed_opening (host : Host) (plan : BackendName → Plan) (clock : Clock) :
    Staffed (opening host plan clock) where
  clear hn := by simp [opening] at hn
  begun hn := by simp [opening] at hn
  tasked _ _ hn := by simp [opening] at hn

end Broker

end LanguageBroker
