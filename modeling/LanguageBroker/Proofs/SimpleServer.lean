import LanguageBroker.Proofs.BrokerErrands
import LanguageBroker.Proofs.BrokerManagers

/-!
The simple server that scopes share, and what one change does to it: who disposes of its manager,
which activations come to be served by it, how sweeps come to what they are to dispose of, and who
gets in line and leaves it.
-/

namespace LanguageBroker

/-- The record that the errand is in line for the simple server with. -/
def Errand.Stage.queued? : Errand.Stage → Option Record
  | .queuedSimple record _ _ => some record
  | _ => none

/-- Is the manager disposed of, or is somebody about to do so? -/
def Manager.IsDoomed (n : Manager) : Prop :=
  n.disposed ∨ ∃ i x, n.job? i = some x ∧ x.task = .dispose

namespace Broker

/-- Is the activation in the cache? -/
def IsIn (b : Broker) (a : ActivationId) : Prop := ∃ key, (key, a) ∈ b.cache

/-- Is the activation out of the cache for good? -/
def IsOut (b : Broker) (a : ActivationId) : Prop := ¬ b.IsIn a ∧ a < b.files.length

/-- Has a cached activation found the manager's server? -/
def Serves (b : Broker) (m : ManagerId) : Prop :=
  ∃ a stage r, b.IsIn a ∧ b.stage? a = some stage ∧ stage.record? = some r ∧ r.manager = m

variable {b c d : Broker} {a : ActivationId} {m : ManagerId} {e : ErrandId} {r : Record}
  {sight : Option Sight}

/-! What a change does to the managers. -/

theorem doomed_of_jobStep {x n : Manager} {y : Job} {s t : Site}
    (found : x.job? y.id = some y) (step : x.JobStep s y n t) (doomed : n.IsDoomed) :
    x.IsDoomed := by
  obtain ⟨stage, advance⟩ := step.advance
  rcases doomed with disposed | ⟨i, z, hz, task⟩
  · rcases step.disposed_cases with same | ⟨task, _⟩
    · exact .inl (same ▸ disposed)
    · exact .inr ⟨y.id, y, found, task⟩
  · rw [Manager.job?_of_jobs found advance.jobs] at hz
    split at hz
    · obtain rfl := Option.some.inj hz
      exact .inr ⟨y.id, y, found, task⟩
    · exact .inr ⟨i, z, hz, task⟩

theorem doomed_of_aside {x n : Manager} (aside : x.Aside (fun task => task.isMild) n)
    (doomed : n.IsDoomed) : x.IsDoomed := by
  rcases doomed with disposed | ⟨i, z, hz, task⟩
  · exact .inl (aside.disposed ▸ disposed)
  · rcases aside.old hz with old | ⟨_, _, mild⟩
    · exact .inr ⟨i, z, old, task⟩
    · simp [task, Job.Task.isMild] at mild

theorem doomed_of_forget {n : Manager} {j : JobId} (doomed : (n.forget j).IsDoomed) :
    n.IsDoomed := by
  rcases doomed with disposed | ⟨i, z, hz, task⟩
  · exact .inl disposed
  · rw [Manager.job?_forget] at hz
    split at hz
    · simp at hz
    · exact .inr ⟨i, z, hz, task⟩

theorem doomed_of_ask {n : Manager} (lined : n.Lined) {task : Job.Task}
    (other : task ≠ .dispose) (doomed : (n.ask task).1.IsDoomed) : n.IsDoomed := by
  rcases doomed with disposed | ⟨i, z, hz, about⟩
  · exact .inl disposed
  · rw [Manager.job?_ask lined.free] at hz
    split at hz
    · obtain rfl := Option.some.inj hz
      exact absurd about other
    · exact .inr ⟨i, z, hz, about⟩

theorem not_doomed_of_starting {n : Manager} {j : JobId} (starting : n.Starting j) :
    ¬ n.IsDoomed := by
  rintro (disposed | ⟨i, z, hz, task⟩)
  · simp [starting.live] at disposed
  · exact starting.kept hz task

/-- A manager whose first start is over is not doomed. -/
private theorem not_doomed_of_win {x : Manager} {j : JobId} (starting : x.Starting j)
    (manager : b.managers[m]? = some x) (n : Manager)
    (found : (b.managers.set m (x.forget j))[m]? = some n) : ¬ n.IsDoomed := by
  have inside := (List.getElem?_eq_some_iff.mp manager).1
  rw [List.getElem?_set_self inside] at found
  obtain rfl := Option.some.inj found
  exact fun doomed => not_doomed_of_starting starting (doomed_of_forget doomed)

theorem simple_beginDisposal (b : Broker) (e : ErrandId) (m : ManagerId)
    (left : List Record) (evicted : List ScopeKey) :
    (b.beginDisposal e m left evicted).simple = b.simple ∧
      (b.beginDisposal e m left evicted).simpleLine = b.simpleLine := by
  unfold beginDisposal
  rcases ask_cases b m .dispose with ⟨_, _, same⟩ | ⟨_, same⟩ <;> rw [same] <;> exact ⟨rfl, rfl⟩

/-- A manager is newly doomed because its first start has failed or an errand disposes of it. -/
theorem Change.doomed (h : b.Kept) (change : Change sight b c) {n : Manager}
    (found : c.managers[m]? = some n) (doomed : n.IsDoomed) :
    (∃ x, b.managers[m]? = some x ∧ x.IsDoomed) ∨
    (∃ a stage j, b.stage? a = some stage ∧ stage.starts? = some (m, j)) ∨
    ∃ e stage r, b.errandStage? e = some stage ∧ r ∈ stage.records ∧ r.manager = m ∧
      (r.variant ≠ .simple ∨
        sight = some (.dropped m) ∧ ∀ s, c.simple = some s → s.manager ≠ m) := by
  have set {i : ManagerId} {x y : Manager} (hx : b.managers[i]? = some x)
      (here : (b.managers.set i y)[m]? = some n) (fine : y.IsDoomed → x.IsDoomed) :
      ∃ x, b.managers[m]? = some x ∧ x.IsDoomed := by
    rw [List.getElem?_set] at here
    split at here
    · next same =>
      subst same
      split at here
      · obtain rfl := Option.some.inj here
        exact ⟨x, hx, fine doomed⟩
      · simp at here
    · exact ⟨n, here, doomed⟩
  have launched {variant : Variant} {scope : Scope}
      (here : (b.managers ++ [starting variant scope])[m]? = some n) :
      ∃ x, b.managers[m]? = some x ∧ x.IsDoomed := by
    rw [List.getElem?_append] at here
    split at here
    · exact ⟨n, here, doomed⟩
    · obtain rfl := List.mem_singleton.mp (List.mem_of_getElem? here)
      exact absurd doomed (not_doomed_of_starting (Manager.starting_new variant scope))
  have forgotten {i : ManagerId} {j : JobId}
      (here : (b.managers.modify i fun x => x.forget j)[m]? = some n) :
      ∃ x, b.managers[m]? = some x ∧ x.IsDoomed := by
    rw [List.getElem?_modify] at here
    obtain ⟨x, hx, rfl⟩ := Option.map_eq_some_iff.mp here
    refine ⟨x, hx, ?_⟩
    split at doomed
    · exact doomed_of_forget doomed
    · exact doomed
  have disposed {s : Broker} (same : s.managers = b.managers) {i : ManagerId}
      (here : (s.ask i .dispose).1.managers[m]? = some n) :
      (∃ x, b.managers[m]? = some x ∧ x.IsDoomed) ∨ i = m := by
    by_cases this : i = m
    · exact .inr this
    · refine .inl ⟨n, ?_, doomed⟩
      rcases ask_cases s i .dispose with ⟨x, _, also⟩ | ⟨_, also⟩
      · rw [also] at here
        simpa [setManager, List.getElem?_set, this, same] using here
      · rw [also] at here
        exact same ▸ here
  cases change with
  | job manager hy ready step => exact .inl (set manager found (doomed_of_jobStep hy step))
  | launchFull => exact .inl (launched found)
  | launchSimple => exact .inl (launched found)
  | @fail a x i j y z stage hx before manager =>
    by_cases this : i = m
    · exact .inr (.inl ⟨a, x.stage, j, stage?_of_activation hx, this ▸ before⟩)
    · refine .inl ⟨n, ?_, doomed⟩
      simpa [setManager, putActivation, List.getElem?_set, this] using found
  | win hx before manager => exact .inl (set manager found doomed_of_forget)
  | winSimple hx before manager => exact .inl (set manager found doomed_of_forget)
  | fallBack hx before manager => exact .inl (set manager found doomed_of_forget)
  | giveUp hx before manager => exact .inl (set manager found doomed_of_forget)
  | forget e =>
    rcases forgetErrand_cases b e with ⟨_, same⟩ | ⟨_, _, _, _, _, same⟩
    · rw [same] at found
      exact .inl ⟨n, found, doomed⟩
    · rw [same] at found
      exact .inl (forgotten found)
  | inquire hx before task manager =>
    exact .inl (set manager found (doomed_of_ask (h.lined manager) (by simp)))
  | answer => exact .inl (forgotten found)
  | enter =>
    refine .inl ⟨n, ?_, doomed⟩
    have same (scope : Scope) : (b.entry scope).1.managers = b.managers := by
      unfold entry
      split <;> rfl
    exact same _ ▸ found
  | @release e x r left evicted hx before full =>
    refine (disposed (s := b) rfl found).imp_right fun this => .inr ?_
    exact ⟨e, x.stage, r, errandStage?_of_errand hx, by simp [before, Errand.Stage.records], this,
      .inl full⟩
  | @discard e x r left evicted hx before first here =>
    refine (disposed (s := b.dropSimple e r) rfl found).imp_right fun this => .inr ?_
    refine ⟨e, x.stage, r, errandStage?_of_errand hx, by simp [before, Errand.Stage.records], this,
      .inr ⟨this ▸ here, fun s hs => ?_⟩⟩
    rw [(simple_beginDisposal ..).1] at hs
    obtain ⟨_, other⟩ := Option.filter_eq_some_iff.mp hs
    simpa [this] using other
  | _ => exact .inl ⟨n, found, doomed⟩

/-! What a change does to those served. -/

theorem Serves.of_alike (serves : c.Serves m) (files : c.files = b.files)
    (cache : ∀ x ∈ c.cache, x ∈ b.cache) : b.Serves m := by
  obtain ⟨a, stage, r, ⟨key, entry⟩, at_stage, record⟩ := serves
  exact ⟨a, stage, r, ⟨key, cache _ entry⟩, stage?_congr files a ▸ at_stage, record⟩

theorem Filing.isIn (filing : Filing b c) (inside : c.IsIn a) :
    b.IsIn a ∨ c.stage? a = some .fresh := by
  obtain ⟨key, entry⟩ := inside
  cases filing with
  | rest _ cache => exact .inl ⟨key, cache ▸ entry⟩
  | turn _ _ _ _ _ _ cache => exact .inl ⟨key, cache ▸ entry⟩
  | begin scope _ files cache =>
    rw [cache] at entry
    rcases List.mem_append.mp entry with old | new
    · exact .inl ⟨key, old⟩
    · obtain ⟨_, rfl⟩ := Prod.mk.inj (List.mem_singleton.mp new)
      exact .inr (by rw [stage?_begin files, if_pos rfl])
  | evict stale _ cache => exact .inl ⟨key, (List.mem_filter.mp (cache ▸ entry)).1⟩

/-- What an activation has found it had found before, or its first start is over, or it shares the
simple server. -/
theorem Change.finds (h : b.Kept) (change : Change sight b c) {stage : Activation.Stage}
    (at_stage : c.stage? a = some stage) (record : stage.record? = some r) :
    (∃ old, b.stage? a = some old ∧ old.record? = some r) ∨
    (∃ old j, b.stage? a = some old ∧ old.starts? = some (r.manager, j) ∧
      ∀ n, c.managers[r.manager]? = some n → ¬ n.IsDoomed) ∨
    b.stage? a = some .queuedSimple ∧ b.isFirst (.activation a) ∧ b.simple = some r ∧
      c.simple = some r := by
  have put {s : Broker} {i : ActivationId} {x : Activation} {new : Activation.Stage}
      (found : b.activations[i]? = some x) (files : s.files = b.files)
      (here : (s.putActivation i new).stage? a = some stage) :
      (∃ old, b.stage? a = some old ∧ old.record? = some r) ∨
        i = a ∧ b.stage? a = some x.stage ∧ new.record? = some r := by
    have was := stage?_of_activation found
    rw [stage?_putActivation ((stage?_congr files i).trans was), stage?_congr files] at here
    split at here
    · next same =>
      subst same
      obtain rfl := Option.some.inj here
      exact .inr ⟨rfl, was, record⟩
    · exact .inl ⟨stage, here, record⟩
  have idle {s : Broker} {i : ActivationId} {x : Activation} {new : Activation.Stage}
      (found : b.activations[i]? = some x) (files : s.files = b.files)
      (none : new.record? = none) (here : (s.putActivation i new).stage? a = some stage) :
      ∃ old, b.stage? a = some old ∧ old.record? = some r := by
    rcases put found files here with old | ⟨_, _, has⟩
    · exact old
    · simp [none] at has
  cases change with
  | turn found before after =>
    exact .inl (idle found rfl (Activation.Stage.of_isEarly after).2.1 at_stage)
  | queue found => exact .inl (idle (s := b.joinLine _) found rfl rfl at_stage)
  | launchFull found => exact .inl (idle (s := { b with managers := _ }) found rfl rfl at_stage)
  | launchSimple found => exact .inl (idle (s := { b with managers := _ }) found rfl rfl at_stage)
  | fail found before manager _ _ after =>
    exact .inl (idle (s := b.setManager _ _) found rfl
      (Activation.Stage.manager?_of_settles? after).2.1 at_stage)
  | @win i x variant m j n y found before manager =>
    rcases put (s := b.setManager m _) found rfl at_stage with old | ⟨_, was, has⟩
    · exact .inl old
    · obtain rfl := Option.some.inj has
      have starts : x.stage.starts? = some (m, j) := by rw [before]; rfl
      exact .inr (.inl ⟨x.stage, j, was, starts,
        not_doomed_of_win (h.starting was starts manager) manager⟩)
  | @winSimple i x m j n y found before manager =>
    rcases put (s := { b.setManager m (n.forget j) with
      simple := some ⟨.simple, m⟩ }.leaveLine (.activation i)) found rfl at_stage with
      old | ⟨_, was, has⟩
    · exact .inl old
    · obtain rfl := Option.some.inj has
      have starts : x.stage.starts? = some (m, j) := by rw [before]; rfl
      exact .inr (.inl ⟨x.stage, j, was, starts,
        not_doomed_of_win (h.starting was starts manager) manager⟩)
  | @share i x s found before first shared =>
    rcases put (s := b.leaveLine _) found rfl at_stage with old | ⟨rfl, was, has⟩
    · exact .inl old
    · obtain rfl := Option.some.inj has
      exact .inr (.inr ⟨before ▸ was, first, shared, shared⟩)
  | refuse found => exact .inl (idle (s := b.leaveLine _) found rfl rfl at_stage)
  | @fallBack i x variant m j cause n y found =>
    exact .inl (idle (s := (b.setManager m (n.forget j)).joinLine _) found rfl rfl at_stage)
  | @giveUp i x m j cause n y found =>
    exact .inl (idle (s := (b.setManager m (n.forget j)).leaveLine _) found rfl rfl at_stage)
  | @settle i x result found before =>
    rcases put (s := b) found rfl at_stage with old | ⟨_, was, has⟩
    · exact .inl old
    · refine .inl ⟨x.stage, was, ?_⟩
      rw [before]
      cases result <;> exact has
  | @enter e x scope =>
    refine .inl ⟨stage, ?_, record⟩
    have here : (b.entry scope).1.stage? a = some stage := at_stage
    rcases entry_cases b scope with same | ⟨_, same⟩
    · exact same ▸ here
    · rw [same, stage?_append] at here
      split at here
      · obtain rfl := Option.some.inj here
        simp [Activation.Stage.record?] at record
      · exact here
  | forget e =>
    exact .inl ⟨stage, stage?_congr (files_forgetErrand b e).1 a ▸ at_stage, record⟩
  | @release e x s left evicted =>
    have same := (files_beginDisposal b e s.manager left evicted).1
    exact .inl ⟨stage, stage?_congr same a ▸ at_stage, record⟩
  | @discard e x s left evicted =>
    have same := (files_beginDisposal (b.dropSimple e s) e s.manager left evicted).1
    exact .inl ⟨stage, stage?_congr (b := b) same a ▸ at_stage, record⟩
  | _ => exact .inl ⟨stage, at_stage, record⟩

/-- A server comes to serve when its first start is over or when it is shared. -/
theorem Change.serves (h : b.Kept) (change : Change sight b c) (serves : c.Serves m) :
    b.Serves m ∨ (∃ a stage j, b.stage? a = some stage ∧ stage.starts? = some (m, j) ∧
        ∀ n, c.managers[m]? = some n → ¬ n.IsDoomed) ∨
      ∃ a r, b.stage? a = some .queuedSimple ∧ b.isFirst (.activation a) ∧ b.IsIn a ∧
        b.simple = some r ∧ c.simple = some r ∧ r.manager = m := by
  obtain ⟨a, stage, r, inside, at_stage, record, rfl⟩ := serves
  have before : b.IsIn a := by
    refine (change.filing.isIn inside).resolve_right fun fresh => ?_
    obtain rfl := Option.some.inj (at_stage.symm.trans fresh)
    simp [Activation.Stage.record?] at record
  rcases change.finds h at_stage record with ⟨old, was, known⟩ | ⟨old, j, was, starts, fine⟩ |
    ⟨queued, first, shared, still⟩
  · exact .inl ⟨a, old, r, before, was, known, rfl⟩
  · exact .inr (.inl ⟨a, old, j, was, starts, fine⟩)
  · exact .inr (.inr ⟨a, r, queued, first, before, shared, still, rfl⟩)

/-! What a change does to the errands. -/

/-- How an errand has come to its stage. -/
inductive Stride (sight : Option Sight) (b c : Broker) (e : ErrandId) : Errand.Stage → Prop
  | stays {stage : Errand.Stage} (same : b.errandStage? e = some stage) : Stride sight b c e stage
  | empty {stage : Errand.Stage} (records : stage.records = []) (out : stage.queued? = none)
      (evicted : ∀ a ∈ stage.evicted, b.IsIn a ∧ c.IsOut a) : Stride sight b c e stage
  | fewer {old stage : Errand.Stage} (before : b.errandStage? e = some old)
      (records : stage.records ⊆ old.records) (evicted : stage.evicted ⊆ old.evicted)
      (out : stage.queued? = none) : Stride sight b c e stage
  | gather {a : ActivationId} {left : List ActivationId} {records : List Record}
      {evicted : List ScopeKey}
      (before : b.errandStage? e = some (.gathering (a :: left) records evicted)) :
      Stride sight b c e (.gathering left (b.gather a records) evicted)
  | look {r : Record} {left : List Record} {evicted : List ScopeKey}
      (before : b.errandStage? e = some (.releasing (r :: left) evicted))
      (here : sight = some (.unused r.manager)) (line : c.simpleLine = b.simpleLine ++ [.errand e])
      (files : c.files = b.files) (cache : c.cache = b.cache) :
      Stride sight b c e (.queuedSimple r left evicted)

private theorem queued?_of_not_isLined {stage : Errand.Stage} (out : stage.isLined = false) :
    stage.queued? = none := by
  cases stage <;> simp_all [Errand.Stage.isLined, Errand.Stage.queued?]

theorem IsOut.filing (out : b.IsOut a) (filing : Filing b c) : c.IsOut a := by
  obtain ⟨free, inside⟩ := out
  cases filing with
  | rest files cache =>
    exact ⟨by simpa only [IsIn, cache] using free, files ▸ inside⟩
  | turn stage _ _ _ _ files cache =>
    exact ⟨by simpa only [IsIn, cache] using free, by simpa [files] using inside⟩
  | begin scope _ files cache =>
    refine ⟨?_, by simpa [files] using Nat.lt_succ_of_lt inside⟩
    rintro ⟨key, entry⟩
    rw [cache] at entry
    rcases List.mem_append.mp entry with old | new
    · exact free ⟨key, old⟩
    · obtain ⟨_, rfl⟩ := Prod.mk.inj (List.mem_singleton.mp new)
      exact Nat.lt_irrefl _ inside
  | evict stale files cache =>
    refine ⟨?_, files ▸ inside⟩
    rintro ⟨key, entry⟩
    rw [cache] at entry
    exact free ⟨key, (List.mem_filter.mp entry).1⟩

theorem isOut_of_evict (filed : b.Filed) {stale : List ScopeKey} (files : c.files = b.files)
    (cache : c.cache = b.cache.filter fun x => ! stale.contains x.1)
    (mem : a ∈ stale.filterMap fun key => b.cache.lookup key) : b.IsIn a ∧ c.IsOut a := by
  obtain ⟨key, present, found⟩ := List.mem_filterMap.mp mem
  have entry := mem_cache_of_lookup found
  obtain ⟨x, hx, _⟩ := filed.entry entry
  refine ⟨⟨key, entry⟩, ?_, files ▸ (List.getElem?_eq_some_iff.mp hx).1⟩
  rintro ⟨other, stays⟩
  rw [cache] at stays
  obtain ⟨also, kept⟩ := List.mem_filter.mp stays
  obtain rfl := filed.unique entry also
  simp [present] at kept

theorem Change.stride (filed : b.Filed) (change : Change sight b c) {stage : Errand.Stage}
    (found : c.errandStage? e = some stage) : Stride sight b c e stage := by
  rcases change.pace found with same | ⟨rfl, _⟩ | ⟨old, was, pace, _⟩
  · exact .stays same
  · exact .empty rfl rfl (by simp [Errand.Stage.evicted])
  · cases pace with
    | idle _ _ after =>
      obtain ⟨records, waited⟩ := Errand.Stage.of_light after
      refine .empty records ?_ (by simp [waited])
      cases stage <;> simp_all [Errand.Stage.queued?, Errand.Stage.records]
    | evicts _ files cache => exact .empty rfl rfl fun a mem => isOut_of_evict filed files cache mem
    | hears => exact .gather was
    | passes passes =>
      exact .fewer was passes.records.subset passes.evicted (queued?_of_not_isLined passes.still)
    | answers _ _ _ _ passes =>
      exact .fewer was passes.records.subset passes.evicted (queued?_of_not_isLined passes.still)
    | looks _ here line files cache => exact .look was here line files cache
    | begins records =>
      exact .fewer was (records ▸ List.subset_cons_self ..) (List.nil_subset _) rfl

/-! What a change does to the simple server and to who is in line for it. -/

theorem Change.simple (h : b.Kept) (change : Change sight b c) {r : Record}
    (shared : c.simple = some r) :
    b.simple = some r ∨
      ∃ a stage j, b.stage? a = some stage ∧ stage.starts? = some (r.manager, j) ∧
        stage.isLined ∧ c.stage? a = some (.concluding (.ok r)) ∧
          ∀ n, c.managers[r.manager]? = some n → ¬ n.IsDoomed := by
  cases change with
  | @winSimple a x m j n y found before manager =>
    obtain rfl := Option.some.inj shared
    have at_stage := stage?_of_activation found
    have starts : x.stage.starts? = some (m, j) := by rw [before]; rfl
    refine .inr ⟨a, x.stage, j, at_stage, starts, by rw [before]; rfl, ?_,
      not_doomed_of_win (h.starting at_stage starts manager) manager⟩
    have put := stage?_putActivation (b := { b.setManager m (n.forget j) with
      simple := some ⟨.simple, m⟩ }.leaveLine (.activation a)) at_stage
        (.concluding (.ok ⟨.simple, m⟩)) a
    rwa [if_pos rfl] at put
  | @enter e x scope =>
    have same : (b.entry scope).1.simple = b.simple := by
      rcases entry_cases b scope with same | ⟨_, same⟩ <;> rw [same]
    exact .inl (same ▸ shared)
  | forget e =>
    have same : (b.forgetErrand e).simple = b.simple := by
      rcases forgetErrand_cases b e with ⟨_, same⟩ | ⟨_, _, _, _, _, same⟩ <;> rw [same] <;> rfl
    exact .inl (same ▸ shared)
  | release => exact .inl ((simple_beginDisposal ..).1 ▸ shared)
  | discard =>
    rw [(simple_beginDisposal ..).1] at shared
    exact .inl (Option.filter_eq_some_iff.mp shared).1
  | _ => exact .inl shared

/-- What a change does to the line and to the activations in it. -/
inductive Lining (b c : Broker) : Prop
  | rest (line : c.simpleLine = b.simpleLine)
      (lined : ∀ {a stage}, b.stage? a = some stage → stage.isLined →
        ∃ other, c.stage? a = some other ∧ other.isLined)
      (queued : ∀ {a}, c.stage? a = some .queuedSimple → b.stage? a = some .queuedSimple)
  | join {a : ActivationId} {old : Activation.Stage} (before : b.stage? a = some old)
      (out : old.isLined = false) (line : c.simpleLine = b.simpleLine ++ [.activation a])
      (stages : ∀ i, c.stage? i = if i = a then some .queuedSimple else b.stage? i)
  | part {a : ActivationId} {stage : Activation.Stage} (out : stage.isLined = false)
      (line : c.simpleLine = b.simpleLine.filter (· ≠ .activation a))
      (stages : ∀ i, c.stage? i = if i = a then some stage else b.stage? i)
  | leave {e : ErrandId} (line : c.simpleLine = b.simpleLine.filter (· ≠ .errand e))
      (stages : ∀ i, c.stage? i = b.stage? i)
      (out : ∀ {stage}, c.errandStage? e = some stage → stage.queued? = none)
  | come {e : ErrandId} {old : Errand.Stage} (before : b.errandStage? e = some old)
      (out : old.queued? = none) (line : c.simpleLine = b.simpleLine ++ [.errand e])
      (stages : ∀ i, c.stage? i = b.stage? i)

private theorem lining_same (line : c.simpleLine = b.simpleLine) (files : c.files = b.files) :
    Lining b c := by
  have stages := stage?_congr files
  exact .rest line (fun at_stage lined => ⟨_, (stages _).trans at_stage, lined⟩)
    fun queued => stages _ ▸ queued

private theorem lining_put {s : Broker} {x : Activation} {stage : Activation.Stage}
    (found : b.activations[a]? = some x) (line : s.simpleLine = b.simpleLine)
    (files : s.files = b.files) (keeps : x.stage.isLined → stage.isLined)
    (other : stage ≠ .queuedSimple) : Lining b (s.putActivation a stage) := by
  have at_stage := stage?_of_activation found
  have stages (i : ActivationId) : (s.putActivation a stage).stage? i =
      if i = a then some stage else b.stage? i := by
    rw [stage?_putActivation ((stage?_congr files a).trans at_stage), stage?_congr files]
  refine .rest line (fun {i old} at_old lined => ?_) fun {i} queued => ?_
  · by_cases here : i = a
    · subst here
      obtain rfl := Option.some.inj (at_stage.symm.trans at_old)
      exact ⟨stage, by rw [stages, if_pos rfl], keeps lined⟩
    · exact ⟨old, by rw [stages, if_neg here, at_old], lined⟩
  · rw [stages] at queued
    split at queued
    · exact absurd (Option.some.inj queued) other
    · exact queued

theorem Change.lining (change : Change sight b c) : Lining b c := by
  have early {stage : Activation.Stage} (early : stage.isEarly) :
      stage.isLined = false ∧ stage ≠ .queuedSimple := by
    cases stage <;> simp_all [Activation.Stage.isEarly, Activation.Stage.isLined]
  cases change with
  | turn found before after =>
    exact lining_put found rfl rfl (by simp [(early before).1]) (early after).2
  | @queue a x found before =>
    exact .join (stage?_of_activation found) (early before).1 rfl
      (stage?_putActivation (b := b.joinLine (.activation a)) (stage?_of_activation found) _)
  | launchFull found before =>
    exact lining_put (s := { b with managers := _ }) found rfl rfl
      (by simp [before, Activation.Stage.isLined]) (by simp)
  | launchSimple found before =>
    exact lining_put (s := { b with managers := _ }) found rfl rfl
      (by simp [Activation.Stage.isLined]) (by simp)
  | fail found before manager _ _ after same =>
    refine lining_put (s := b.setManager _ _) found rfl rfl (by simp [same]) ?_
    rintro rfl
    simp [Activation.Stage.settles?] at after
  | win found before manager =>
    exact lining_put (s := b.setManager _ _) found rfl rfl
      (by simp [before, Activation.Stage.isLined]) (by simp)
  | @winSimple a x m j n y found before manager =>
    exact .part rfl rfl (stage?_putActivation (b := { b.setManager m (n.forget j) with
      simple := some ⟨.simple, m⟩ }.leaveLine (.activation a)) (stage?_of_activation found) _)
  | @share a x r found =>
    exact .part rfl rfl (stage?_putActivation (b := b.leaveLine (.activation a))
      (stage?_of_activation found) _)
  | @refuse a x cause found =>
    exact .part rfl rfl (stage?_putActivation (b := b.leaveLine (.activation a))
      (stage?_of_activation found) _)
  | @fallBack a x variant m j cause n y found before =>
    exact .join (stage?_of_activation found) (by rw [before]; rfl) rfl
      (stage?_putActivation (b := (b.setManager m (n.forget j)).joinLine (.activation a))
        (stage?_of_activation found) _)
  | @giveUp a x m j cause n y found =>
    exact .part rfl rfl (stage?_putActivation
      (b := (b.setManager m (n.forget j)).leaveLine (.activation a))
      (stage?_of_activation found) _)
  | settle found before =>
    exact lining_put found rfl rfl (by simp [before, Activation.Stage.isLined]) (by simp)
  | forget e =>
    have line : (b.forgetErrand e).simpleLine = b.simpleLine.filter (· ≠ .errand e) := by
      rcases forgetErrand_cases b e with ⟨_, same⟩ | ⟨_, _, _, _, _, same⟩ <;> rw [same] <;> rfl
    refine .leave line (stage?_congr (files_forgetErrand b e).1) fun found => ?_
    simp [errandStage?_forgetErrand] at found
  | @enter e x scope =>
    rcases entry_cases b scope with same | ⟨_, same⟩
    · rw [same]
      exact lining_same rfl rfl
    · rw [same]
      have stages := stage?_append b scope (b.cache ++ [(scope.key, b.activations.length)])
      refine .rest rfl (fun {i old} at_old lined => ?_) fun {i} queued => ?_
      · exact ⟨old, (stages i).trans (by rw [if_neg (Nat.ne_of_lt (lt_of_stage? at_old)), at_old]),
          lined⟩
      · have queued := (stages i).symm.trans queued
        split at queued
        · simp at queued
        · exact queued
  | look found before =>
    exact .come (errandStage?_of_errand found) (by rw [before]; rfl) rfl fun _ => rfl
  | release => exact lining_same (simple_beginDisposal ..).2 (files_beginDisposal ..).1
  | @discard e x r left evicted found =>
    refine .leave (simple_beginDisposal ..).2 (stage?_congr (files_beginDisposal ..).1)
      fun here => ?_
    unfold beginDisposal at here
    rw [errandStage?_putErrand_self here]
    rfl
  | _ => exact lining_same rfl rfl

end Broker

end LanguageBroker
