import LanguageBroker.Proofs.TendedServers

/-!
Who sees to what. An activation that a sweep has evicted is that sweep's business alone: it waits
for the activation, and nobody else disposes of the full server that the activation has found. So a
manager that a sweep has waited for is quiet, whatever other sweeps do meanwhile and whether they
are given up or not.
-/

namespace LanguageBroker

/-- The managers that the errand is to dispose of, and before them the one that it disposes of. -/
def Errand.Stage.targets : Errand.Stage → List ManagerId
  | .disposing m _ left _ => m :: left.map (·.manager)
  | stage => stage.records.map (·.manager)

namespace Errand.Stage

variable {stage old new : Errand.Stage} {m : ManagerId}

theorem targets_of_free (free : stage.job? = none) :
    stage.targets = stage.records.map (·.manager) := by
  cases stage <;> first | rfl | simp [job?] at free

/-- An errand that disposes of nothing yet turns to the first of its records. -/
theorem head_mem_targets {r : Record} {left : List Record} (free : stage.job? = none)
    (records : stage.records = r :: left) : r.manager ∈ stage.targets := by
  rw [targets_of_free free, records]
  exact List.mem_cons_self

theorem sublist_targets (stage : Errand.Stage) :
    (stage.records.map (·.manager)).Sublist stage.targets := by
  cases stage with
  | disposing => exact List.sublist_cons_self ..
  | _ => exact .refl _

theorem mem_targets (mem : m ∈ stage.targets) : (∃ r ∈ stage.records, r.manager = m) ∨
    ∃ j left evicted, stage = .disposing m j left evicted := by
  cases stage with
  | disposing i j left evicted =>
    rcases List.mem_cons.mp mem with rfl | mem
    · exact .inr ⟨j, left, evicted, rfl⟩
    · exact .inl (List.mem_map.mp mem)
  | _ => exact .inl (List.mem_map.mp mem)

theorem targets_of_light (light : stage.isLaden = false) : stage.targets = [] := by
  cases stage <;> simp_all [isLaden, targets]

theorem Passes.targets (passes : old.Passes new) :
    new.targets.Sublist (old.records.map (·.manager)) := by
  rw [targets_of_free passes.jobs]
  exact passes.records.map _

end Errand.Stage

namespace Broker

/-- The activation has found a full server of that manager. -/
def FoundFull (b : Broker) (a : ActivationId) (m : ManagerId) : Prop :=
  ∃ stage r, b.stage? a = some stage ∧ stage.record? = some r ∧ r.variant ≠ .simple ∧ r.manager = m

/-- The errand waits for the activation, or sees to the full server that it has found. -/
def Minds (b : Broker) (e : ErrandId) (a : ActivationId) : Prop :=
  ∃ stage, b.errandStage? e = some stage ∧
    (a ∈ stage.evicted ∨ ∃ m ∈ stage.targets, b.FoundFull a m)

variable {b c d : Broker} {a i : ActivationId} {m : ManagerId} {e : ErrandId} {r : Record}
  {sight : Option Sight} {x n : Manager}

/-! What activations have found. -/

namespace FoundFull

theorem recorded (found : b.FoundFull a m) :
    ∃ r, b.IsRecorded r ∧ r.variant ≠ .simple ∧ r.manager = m := by
  obtain ⟨stage, r, at_stage, record, full, same⟩ := found
  exact ⟨r, ⟨a, stage, at_stage, record⟩, full, same⟩

/-- A full server is found by one activation. -/
theorem only (found : b.FoundFull a m) (h : b.Kept) {stage : Activation.Stage}
    (at_stage : b.stage? i = some stage) (named : stage.manager? = some m) : i = a := by
  obtain ⟨other, r, at_other, record, full, rfl⟩ := found
  have names := (Activation.Stage.manager?_of_record? record).1
  rcases h.alone at_stage at_other named names with same | ⟨_, shares⟩
  · exact same
  · rw [record] at shares
    exact absurd (congrArg Record.variant (Option.some.inj shares)) full

/-- What was found by somebody before was found by this activation. -/
theorem before (found : c.FoundFull a m) (h : c.Kept) (filing : Filing b c)
    (known : ∃ r, b.IsRecorded r ∧ r.manager = m) : b.FoundFull a m := by
  obtain ⟨r, ⟨i, old, at_old, record⟩, same⟩ := known
  obtain ⟨later, at_later, also⟩ := filing.record at_old record
  have named := (Activation.Stage.manager?_of_record? also).1
  obtain rfl := found.only h at_later (same ▸ named)
  obtain ⟨stage, s, at_stage, has, full, _⟩ := found
  obtain rfl := Option.some.inj (at_stage.symm.trans at_later)
  obtain rfl := Option.some.inj (has.symm.trans also)
  exact ⟨old, s, at_old, record, full, same⟩

theorem not_isIn (found : c.FoundFull a m) (filing : Filing b c) (out : ¬ b.IsIn a) :
    ¬ c.IsIn a := by
  intro inside
  obtain ⟨stage, r, at_stage, record, _⟩ := found
  rcases filing.isIn inside with old | fresh
  · exact out old
  · obtain rfl := Option.some.inj (at_stage.symm.trans fresh)
    simp [Activation.Stage.record?] at record

end FoundFull

theorem Kept.manager_of_recorded (h : b.Kept) (recorded : b.IsRecorded r) :
    ∃ x, b.managers[r.manager]? = some x :=
  ⟨_, List.getElem?_eq_getElem (h.recorded_within recorded)⟩

/-- What errands see to was found. -/
theorem Kept.target (h : b.Kept) {stage : Errand.Stage} (found : b.errandStage? e = some stage)
    (mem : m ∈ stage.targets) : ∃ r, b.IsRecorded r ∧ r.manager = m := by
  rcases Errand.Stage.mem_targets mem with ⟨r, mem, same⟩ | ⟨j, left, evicted, rfl⟩
  · exact ⟨r, recorded_of_errandStage? h found mem, same⟩
  · obtain ⟨x, hx, stage⟩ := Option.map_eq_some_iff.mp found
    exact (h.knows hx).jobs (j := j) (by rw [stage]; rfl)

/-! What a change does to a manager that was found. -/

/-- Nobody but an errand that has listed a manager asks for its disposal. -/
inductive Tending (b c : Broker) (m : ManagerId) (x : Manager) : Manager → Prop
  | aside {n : Manager} (aside : x.Aside (fun task => task.isMild) n) : Tending b c m x n
  | step {n : Manager} {y : Job} {t : Site} {clock : Clock} (found : x.job? y.id = some y)
      (ready : x.canStep clock y) (step : x.JobStep b.site y n t) : Tending b c m x n
  | forget (j : JobId) : Tending b c m x (x.forget j)
  | begins {e : ErrandId} {old : Errand.Stage} {r : Record} {left : List Record}
      {evicted : List ScopeKey} (found : b.errandStage? e = some old)
      (records : old.records = r :: left) (same : r.manager = m) (free : old.job? = none)
      (after : c.errandStage? e = some (.disposing m (x.ask .dispose).2 left evicted)) :
      Tending b c m x (x.ask .dispose).1

theorem Change.tending (h : b.Kept) (change : Change sight b c) (recorded : b.IsRecorded r)
    (hx : b.managers[r.manager]? = some x) (hn : c.managers[r.manager]? = some n) :
    Tending b c r.manager x n := by
  have same (managers : c.managers = b.managers) : Tending b c r.manager x n := by
    rw [managers, hx] at hn
    obtain rfl := Option.some.inj hn
    exact .aside (.of_jobs rfl rfl rfl rfl rfl rfl rfl rfl id)
  -- another manager is no matter
  have set {i : ManagerId} {y z : Manager} (manager : b.managers[i]? = some y)
      (managers : c.managers = b.managers.set i z)
      (here : i = r.manager → y = x → Tending b c r.manager x z) :
      Tending b c r.manager x n := by
    rw [managers, List.getElem?_set] at hn
    split at hn
    · next this =>
      subst this
      rw [if_pos (List.getElem?_eq_some_iff.mp manager).1] at hn
      obtain rfl := Option.some.inj hn
      exact here rfl (Option.some.inj (manager.symm.trans hx))
    · obtain rfl := Option.some.inj (hx.symm.trans hn)
      exact .aside (.of_jobs rfl rfl rfl rfl rfl rfl rfl rfl id)
  have forgotten {i : ManagerId} {y : Manager} {j : JobId} (manager : b.managers[i]? = some y)
      (managers : c.managers = b.managers.set i (y.forget j)) : Tending b c r.manager x n :=
    set manager managers fun _ same => same ▸ .forget j
  have added {variant : Variant} {scope : Scope}
      (managers : c.managers = b.managers ++ [starting variant scope]) :
      Tending b c r.manager x n := by
    rw [managers, List.getElem?_append_left (h.recorded_within recorded), hx] at hn
    obtain rfl := Option.some.inj hn
    exact .aside (.of_jobs rfl rfl rfl rfl rfl rfl rfl rfl id)
  have disposing {s : Broker} {i : ErrandId} {y : Errand} {t : Record} {left : List Record}
      {evicted : List ScopeKey} (managers : s.managers = b.managers)
      (errands : s.errands = b.errands) (hy : b.errand? i = some y)
      (records : y.stage.records = t :: left) (free : y.stage.job? = none)
      (here : c = s.beginDisposal i t.manager left evicted) : Tending b c r.manager x n := by
    have known := recorded_of_errandStage? h (errandStage?_of_errand hy)
      (records ▸ List.mem_cons_self)
    obtain ⟨z, manager⟩ := h.manager_of_recorded known
    rw [beginDisposal_eq managers manager] at here
    refine set manager (by rw [here]; exact congrArg (fun l => List.set l _ _) managers) ?_
    rintro this rfl
    have at_stage : (s.setManager t.manager (z.ask .dispose).1).errandStage? i = some y.stage := by
      simpa only [errandStage?, errand?, setManager, errands] using errandStage?_of_errand hy
    have after :
        c.errandStage? i = some (.disposing r.manager (z.ask .dispose).2 left evicted) := by
      rw [here, errandStage?_putErrand, at_stage, ← this]
      simp
    exact .begins (errandStage?_of_errand hy) records this free after
  cases change with
  | job manager found ready step =>
    exact set manager rfl fun _ same => same ▸ .step found ready step
  | launchFull => exact added rfl
  | launchSimple => exact added rfl
  | fail found before manager =>
    refine set manager rfl fun this _ => ?_
    exact absurd (this ▸ before) (h.not_starts recorded (stage?_of_activation found))
  | win _ _ manager => exact forgotten manager rfl
  | winSimple _ _ manager => exact forgotten manager rfl
  | fallBack _ _ manager => exact forgotten manager rfl
  | giveUp _ _ manager => exact forgotten manager rfl
  | forget e =>
    rcases forgetErrand_cases b e with ⟨_, same'⟩ | ⟨y, m, j, found, job, same'⟩
    · exact same (by rw [same']; rfl)
    · obtain ⟨s, known, rfl⟩ := (h.knows found).jobs job
      have manager := List.getElem?_eq_getElem (h.recorded_within known)
      exact forgotten manager (by rw [same', forgetJob_eq manager]; rfl)
  | @enter e y scope =>
    refine same ?_
    rcases entry_cases b scope with unchanged | ⟨_, unchanged⟩ <;> rw [unchanged] <;> rfl
  | @inquire e y s z found before task manager =>
    exact set manager rfl fun _ same => same ▸ .aside ((h.lined manager).asks rfl)
  | answer _ _ manager => exact forgotten manager (by rw [forgetJob_eq manager]; rfl)
  | release found before =>
    exact disposing (s := b) rfl rfl found (by rw [before]; rfl) (by rw [before]; rfl) rfl
  | @discard e y s left evicted found before =>
    exact disposing (s := b.dropSimple e s) rfl rfl found (by rw [before]; rfl)
      (by rw [before]; rfl) rfl
  | _ => exact same rfl

/-- A manager that was found is newly doomed because an errand begins to dispose of it. -/
theorem Tending.live (tending : Tending b c m x n) (live : ¬ x.IsDoomed) (doomed : n.IsDoomed) :
    ∃ e old r left j evicted, b.errandStage? e = some old ∧ old.records = r :: left ∧
      r.manager = m ∧ old.job? = none ∧ c.errandStage? e = some (.disposing m j left evicted) := by
  cases tending with
  | aside aside => exact absurd (doomed_of_aside aside doomed) live
  | step found _ step => exact absurd (doomed_of_jobStep found step doomed) live
  | forget j => exact absurd (doomed_of_forget doomed) live
  | begins found records same free after =>
    exact ⟨_, _, _, _, _, _, found, records, same, free, after⟩

/-! What a step does to what an errand sees to. -/

namespace Pace

variable {old new : Errand.Stage} (pace : Pace sight b c e old new)
include pace

theorem mem_targets (mem : m ∈ new.targets) : m ∈ old.targets ∨
    ∃ a ∈ old.evicted, ∃ stage r, b.stage? a = some stage ∧ stage.record? = some r ∧
      r.manager = m := by
  cases pace with
  | idle _ _ after => simp [Errand.Stage.targets_of_light after] at mem
  | evicts => simp [Errand.Stage.targets, Errand.Stage.records] at mem
  | @hears a left records evicted =>
    obtain ⟨r, mem, same⟩ := List.mem_map.mp mem
    rcases mem_gather mem with known | ⟨stage, at_stage, record⟩
    · exact .inl (List.mem_map.mpr ⟨r, known, same⟩)
    · exact .inr ⟨a, List.mem_cons_self, stage, r, at_stage, record, same⟩
  | passes passes =>
    exact .inl (old.sublist_targets.subset (passes.targets.subset mem))
  | answers _ _ _ _ passes =>
    exact .inl (old.sublist_targets.subset (passes.targets.subset mem))
  | looks => exact .inl mem
  | begins records _ _ free =>
    refine .inl ?_
    rw [Errand.Stage.targets_of_free free, records]
    exact mem

theorem nodup (distinct : old.targets.Nodup) : new.targets.Nodup := by
  cases pace with
  | idle _ _ after => simp [Errand.Stage.targets_of_light after]
  | evicts => simp [Errand.Stage.targets, Errand.Stage.records]
  | @hears a left records evicted =>
    show ((b.gather a records).map (·.manager)).Nodup
    have distinct : (records.map (·.manager)).Nodup := distinct
    unfold gather
    split
    · split
      · exact distinct
      · next unlisted =>
        rw [List.map_append, List.nodup_append]
        refine ⟨distinct, List.nodup_singleton _, ?_⟩
        rintro k old l new rfl
        obtain ⟨s, mem, rfl⟩ := List.mem_map.mp old
        obtain same := List.mem_singleton.mp new
        exact unlisted (List.any_eq_true.mpr ⟨s, mem, by simpa using same⟩)
    · exact distinct
  | passes passes => exact (passes.targets.trans old.sublist_targets).nodup distinct
  | answers _ _ _ _ passes => exact (passes.targets.trans old.sublist_targets).nodup distinct
  | looks => exact distinct
  | begins records _ _ free =>
    rw [Errand.Stage.targets_of_free free, records] at distinct
    exact distinct

theorem keys {evicted : List ScopeKey} (keys : old.keys? = some evicted) :
    new.keys? = some evicted := by
  cases pace with
  | idle _ none => simp [none] at keys
  | evicts before => cases old <;> simp_all [Errand.Stage.isSeeking, Errand.Stage.keys?]
  | passes passes => exact passes.keys keys
  | answers _ _ _ _ passes => exact passes.keys keys
  | hears | looks => exact keys
  | begins _ _ same => exact same.symm.trans keys

theorem mem_evicted (filed : b.Filed) (mem : a ∈ new.evicted) :
    a ∈ old.evicted ∨ old.keys? = none ∧ b.IsIn a ∧ c.IsOut a := by
  cases pace with
  | idle _ _ after => simp [(Errand.Stage.of_light after).2] at mem
  | evicts before files cache =>
    refine .inr ⟨?_, isOut_of_evict filed files cache mem⟩
    cases old <;> simp_all [Errand.Stage.isSeeking, Errand.Stage.keys?]
  | hears => exact .inl (List.mem_cons_of_mem _ mem)
  | passes passes => exact .inl (passes.evicted mem)
  | answers _ _ _ _ passes => exact .inl (passes.evicted mem)
  | looks => simp [Errand.Stage.evicted] at mem
  | begins => simp [Errand.Stage.evicted] at mem

end Pace

/-! Each evicted activation is one errand's business. -/

theorem Change.minds (h : b.Kept) (filed : b.Filed) (change : Change sight b c)
    (minds : c.Minds e a) : b.Minds e a ∨ b.IsIn a ∧ c.IsOut a ∧ ∃ stage,
      c.errandStage? e = some stage ∧ a ∈ stage.evicted ∧
        ∀ i, i ≠ e → c.errandStage? i = b.errandStage? i := by
  obtain ⟨stage, found, has⟩ := minds
  have known {old : Errand.Stage} {m : ManagerId} (was : b.errandStage? e = some old)
      (mem : m ∈ old.targets) (won : c.FoundFull a m) : b.Minds e a :=
    ⟨old, was, .inr ⟨m, mem, won.before (h.change change) change.filing (h.target was mem)⟩⟩
  rcases change.pace found with same | ⟨rfl, _⟩ | ⟨old, was, pace, others⟩
  · rcases has with mem | ⟨m, mem, won⟩
    · exact .inl ⟨stage, same, .inl mem⟩
    · exact .inl (known same mem won)
  · simp [Errand.Stage.evicted, Errand.Stage.targets, Errand.Stage.records] at has
  · rcases has with mem | ⟨m, mem, won⟩
    · rcases pace.mem_evicted filed mem with before | ⟨_, inside, out⟩
      · exact .inl ⟨old, was, .inl before⟩
      · exact .inr ⟨inside, out, stage, found, mem, others⟩
    · rcases pace.mem_targets mem with before | ⟨k, waits, other, r, at_other, record, same⟩
      · exact .inl (known was before won)
      · have here := won.before (h.change change) change.filing
          ⟨r, ⟨k, other, at_other, record⟩, same⟩
        have names := (Activation.Stage.manager?_of_record? record).1
        obtain rfl := here.only h at_other (same ▸ names)
        exact .inl ⟨old, was, .inl waits⟩

/-- What one errand sees to, no other sees to, and what no errand disposes of is not doomed. -/
structure Custody (b : Broker) : Prop where
  single : ∀ {e i a}, b.Minds e a → b.Minds i a → e = i
  out : ∀ {e a}, b.Minds e a → b.IsOut a
  distinct : ∀ {e stage}, b.errandStage? e = some stage → stage.targets.Nodup
  spared : ∀ {a m n}, b.FoundFull a m → b.managers[m]? = some n → n.IsDoomed → ¬ b.IsIn a ∧
    ∀ e, b.Minds e a → ∃ j left evicted, b.errandStage? e = some (.disposing m j left evicted)
  settling : ∀ {a m e j left evicted n}, b.FoundFull a m →
    b.errandStage? e = some (.disposing m j left evicted) → b.managers[m]? = some n → n.Settling j

section

variable (custody : b.Custody) (h : b.Sound) (change : Change sight b c)
include custody h change

private theorem Custody.single_change (one : c.Minds e a) {i : ErrandId} (two : c.Minds i a) :
    e = i := by
  by_contra differs
  rcases change.minds h.kept h.filed one with old | ⟨inside, _, stage, found, mem, others⟩ <;>
    rcases change.minds h.kept h.filed two with also | ⟨inside', _, stage', found', mem', others'⟩
  · exact differs (custody.single old also)
  · exact (custody.out old).1 inside'
  · exact (custody.out also).1 inside
  · -- both would have evicted it at once
    have also : b.Minds i a := ⟨stage', (others i (Ne.symm differs)).symm.trans found', .inl mem'⟩
    exact (custody.out also).1 inside

omit h in
/-- Whoever disposes of a manager goes on to do so, or is over with it. -/
private theorem Custody.disposing_change {j : JobId} {left : List Record} {evicted : List ScopeKey}
    (was : b.errandStage? e = some (.disposing m j left evicted)) (won : c.FoundFull a m)
    (minds : c.Minds e a) : c.errandStage? e = some (.disposing m j left evicted) := by
  obtain ⟨stage, found, has⟩ := minds
  have apart := (List.nodup_cons.mp (custody.distinct was)).1
  -- what is left is about other managers
  have spent (passes : Errand.Stage.Passes (.disposing m j left evicted) stage) : False := by
    rcases has with mem | ⟨i, mem, also⟩
    · simpa [Errand.Stage.evicted] using passes.evicted mem
    · obtain ⟨one, r, at_one, record, _, rfl⟩ := won
      obtain ⟨two, s, at_two, has, _, rfl⟩ := also
      obtain rfl := Option.some.inj (at_one.symm.trans at_two)
      obtain rfl := Option.some.inj (record.symm.trans has)
      exact apart (passes.targets.subset mem)
  rcases change.pace found with same | ⟨_, none⟩ | ⟨old, before, pace, _⟩
  · exact found.trans (same.symm.trans was)
  · simp [none] at was
  · obtain rfl := Option.some.inj (was.symm.trans before)
    cases pace with
    | idle before => simp [Errand.Stage.isLaden] at before
    | evicts before => simp [Errand.Stage.isSeeking] at before
    | passes _ _ free => simp [Errand.Stage.job?] at free
    | answers _ _ _ _ passes => exact (spent passes).elim
    | begins _ _ _ free => simp [Errand.Stage.job?] at free

private theorem Custody.spared_change (won : c.FoundFull a m) (manager : c.managers[m]? = some n)
    (doomed : n.IsDoomed) : ¬ c.IsIn a ∧ ∀ e, c.Minds e a →
      ∃ j left evicted, c.errandStage? e = some (.disposing m j left evicted) := by
  have won' := won
  obtain ⟨stage, r, at_stage, record, full, rfl⟩ := won
  rcases change.finds h.kept at_stage record with ⟨old, at_old, known⟩ | ⟨_, _, _, _, fine⟩ |
    ⟨_, _, shared, _⟩
  · have before : b.FoundFull a r.manager := ⟨old, r, at_old, known, full, rfl⟩
    have recorded : b.IsRecorded r := ⟨a, old, at_old, known⟩
    obtain ⟨x, hx⟩ := h.kept.manager_of_recorded recorded
    have tending := change.tending h.kept recorded hx manager
    have minds (out : ¬ b.IsIn a) {e : ErrandId} (minds : c.Minds e a) : b.Minds e a :=
      (change.minds h.kept h.filed minds).resolve_right fun new => out new.1
    by_cases was : x.IsDoomed
    · obtain ⟨out, disposing⟩ := custody.spared before hx was
      refine ⟨won'.not_isIn change.filing out, fun e here => ?_⟩
      obtain ⟨j, left, evicted, found⟩ := disposing e (minds out here)
      exact ⟨j, left, evicted, custody.disposing_change change found won' here⟩
    · obtain ⟨e, listed, s, left, j, evicted, found, records, same, free, after⟩ :=
        tending.live was doomed
      have target : r.manager ∈ listed.targets :=
        same ▸ Errand.Stage.head_mem_targets free records
      have own : b.Minds e a := ⟨listed, found, .inr ⟨_, target, before⟩⟩
      have out := (custody.out own).1
      refine ⟨won'.not_isIn change.filing out, fun i here => ?_⟩
      obtain rfl := custody.single own (minds out here)
      exact ⟨j, left, evicted, after⟩
  · exact absurd doomed (fine n manager)
  · exact absurd (h.kept.simple shared).2 full

private theorem Custody.settling_change {j : JobId} {left : List Record} {evicted : List ScopeKey}
    (won : c.FoundFull a m) (found : c.errandStage? e = some (.disposing m j left evicted))
    (manager : c.managers[m]? = some n) : n.Settling j := by
  have before (known : ∃ r, b.IsRecorded r ∧ r.manager = m) : b.FoundFull a m :=
    won.before (h.kept.change change) change.filing known
  rcases change.pace found with same | ⟨fresh, _⟩ | ⟨old, was, pace, _⟩
  · have won := before (h.kept.target same List.mem_cons_self)
    obtain ⟨r, recorded, _, rfl⟩ := won.recorded
    obtain ⟨x, hx⟩ := h.kept.manager_of_recorded recorded
    have settling := custody.settling won same hx
    cases change.tending h.kept recorded hx manager with
    | aside aside => exact settling.aside aside
    | step found ready step => exact settling.jobStep (h.kept.lined hx) found ready step
    | forget => exact settling.less _
    | @begins i old s rest keys listed records same' free =>
      -- only the errand itself could, and it has done so before
      have target : r.manager ∈ old.targets :=
        same' ▸ Errand.Stage.head_mem_targets free records
      have own : b.Minds i a := ⟨old, listed, .inr ⟨_, target, won⟩⟩
      have also : b.Minds e a := ⟨_, same, .inr ⟨_, List.mem_cons_self, won⟩⟩
      obtain rfl := custody.single own also
      obtain rfl := Option.some.inj (listed.symm.trans same)
      simp [Errand.Stage.job?] at free
  · simp at fresh
  · cases pace with
    | idle _ _ after => simp [Errand.Stage.isLaden] at after
    | passes passes => simpa [Errand.Stage.job?] using passes.jobs
    | answers _ _ _ _ passes => simpa [Errand.Stage.job?] using passes.jobs
    | @begins _ r left _ _ records _ _ free asked =>
      have target : r.manager ∈ old.targets := Errand.Stage.head_mem_targets free records
      have recorded := recorded_of_errandStage? h.kept was (records ▸ List.mem_cons_self)
      have won := before ⟨r, recorded, rfl⟩
      obtain ⟨x, hx⟩ := h.kept.manager_of_recorded recorded
      obtain ⟨after, rfl⟩ := asked x hx
      obtain rfl := Option.some.inj (manager.symm.trans after)
      have live : ¬ x.IsDoomed := by
        intro doomed
        obtain ⟨_, _, _, found⟩ :=
          (custody.spared won hx doomed).2 e ⟨old, was, .inr ⟨_, target, won⟩⟩
        obtain rfl := Option.some.inj (was.symm.trans found)
        simp [Errand.Stage.job?] at free
      have begun : x.Begun := h.staffed.begun_of_recorded h.kept recorded hx
      refine Manager.settling_ask (h.kept.lined hx) ?_ fun hy => ⟨begun hy, fun task => ?_⟩
      · by_contra disposed
        exact live (.inl (by simpa using disposed))
      · exact live (.inr ⟨_, _, hy, task⟩)

end

theorem Custody.change (custody : b.Custody) (h : b.Sound) (change : Change sight b c) :
    c.Custody where
  single one two := custody.single_change h change one two
  out minds := by
    rcases change.minds h.kept h.filed minds with old | ⟨_, out, _⟩
    · exact (custody.out old).filing change.filing
    · exact out
  distinct {e stage} found := by
    rcases change.pace found with same | ⟨rfl, _⟩ | ⟨old, was, pace, _⟩
    · exact custody.distinct same
    · exact List.nodup_nil
    · exact pace.nodup (custody.distinct was)
  spared won manager doomed := custody.spared_change h change won manager doomed
  settling won found manager := custody.settling_change h change won found manager

theorem FoundFull.congr (found : c.FoundFull a m) (files : c.files = b.files) :
    b.FoundFull a m := by
  obtain ⟨stage, r, at_stage, rest⟩ := found
  exact ⟨stage, r, stage?_congr files a ▸ at_stage, rest⟩

theorem Custody.alike (custody : b.Custody) (alike : Alike b c) : c.Custody := by
  have files : c.files = b.files := alike.activations
  have minds {e : ErrandId} {a : ActivationId} (minds : c.Minds e a) : b.Minds e a := by
    obtain ⟨stage, found, has⟩ := minds
    refine ⟨stage, alike.errandStage? e ▸ found, has.imp_right ?_⟩
    rintro ⟨m, mem, won⟩
    exact ⟨m, mem, won.congr files⟩
  refine ⟨fun one two => custody.single (minds one) (minds two),
    fun here => (custody.out (minds here)).filing alike.filing,
    fun {e _} found => custody.distinct ((alike.errandStage? e).symm.trans found),
    fun {a m n} won manager doomed => ?_, fun {a m e j left evicted n} won found manager => ?_⟩
  · obtain ⟨x, hx, aside⟩ := alike.before manager
    obtain ⟨out, disposing⟩ :=
      custody.spared (won.congr files) hx (doomed_of_aside aside.mild doomed)
    refine ⟨won.not_isIn alike.filing out, fun e here => ?_⟩
    rw [alike.errandStage? e]
    exact disposing e (minds here)
  · obtain ⟨x, hx, aside⟩ := alike.before manager
    exact (custody.settling (won.congr files) (alike.errandStage? e ▸ found) hx).aside aside.mild

theorem custody_opening (host : Host) (plan : BackendName → Plan) (clock : Clock) :
    Custody (opening host plan clock) where
  single := by simp [Minds, opening, errandStage?, errand?]
  out := by simp [Minds, opening, errandStage?, errand?]
  distinct := by simp [opening, errandStage?, errand?]
  spared := by simp [opening]
  settling := by simp [opening]

/-! A sweep that has begun. -/

/-- The errand waits for the activation, or the activation has ended and the errand sees to the
full server that it has found, or that server's manager is quiet. -/
def InHand (b : Broker) (e : ErrandId) (a : ActivationId) : Prop :=
  (∃ stage, b.errandStage? e = some stage ∧ a ∈ stage.evicted) ∨
    ∃ result, b.stage? a = some (.settled result) ∧ ∀ m, b.FoundFull a m →
      (∃ stage, b.errandStage? e = some stage ∧ m ∈ stage.targets) ∨
        ∃ n, b.managers[m]? = some n ∧ n.Quiet

/-- What an errand sees to it goes on to see to, until the manager is quiet. -/
theorem Custody.target_stays (custody : b.Custody) (h : b.Kept) {old new : Errand.Stage}
    (was : b.errandStage? e = some old) (pace : Pace sight b c e old new)
    (won : b.FoundFull a m) (mem : m ∈ old.targets) :
    m ∈ new.targets ∨ ∃ n, c.managers[m]? = some n ∧ n.Quiet := by
  have listed {stage : Errand.Stage} {r : Record} (mem : r ∈ stage.records) :
      r.manager ∈ stage.targets :=
    stage.sublist_targets.subset (List.mem_map_of_mem mem)
  cases pace with
  | idle before => simp [Errand.Stage.targets_of_light before] at mem
  | evicts before =>
    simp [Errand.Stage.targets_of_light (Errand.Stage.of_isSeeking before).2] at mem
  | hears => exact .inl (List.map_subset _ (subset_gather _) mem)
  | passes _ kept free =>
    rcases Errand.Stage.mem_targets mem with ⟨r, inside, rfl⟩ | ⟨j, left, evicted, rfl⟩
    · refine .inl ((kept r inside).elim listed fun used => ?_)
      -- no cached activation has found the server
      obtain ⟨i, stage, s, cached, at_stage, record, same⟩ := serves_of_isInUse used
      have named := (Activation.Stage.manager?_of_record? record).1
      obtain rfl := won.only h at_stage (same ▸ named)
      exact absurd cached (custody.out ⟨old, was, .inr ⟨_, mem, won⟩⟩).1
    · simp [Errand.Stage.job?] at free
  | @answers _ _ k j n x job manager ended done passes kept managers =>
    rcases Errand.Stage.mem_targets mem with ⟨r, inside, rfl⟩ | ⟨j, left, evicted, rfl⟩
    · exact .inl (listed (kept inside))
    · obtain ⟨rfl, rfl⟩ := Prod.mk.inj (Option.some.inj job)
      refine .inr ⟨n.forget j, ?_, (custody.settling won was manager).forget ended done⟩
      rw [managers, List.getElem?_set_self (List.getElem?_eq_some_iff.mp manager).1]
  | looks => exact .inl mem
  | begins records _ _ free =>
    rw [Errand.Stage.targets_of_free free, records] at mem
    exact .inl mem

/-- An activation that is waited for is waited for until its end, and then what it has found is seen
to. -/
theorem Pace.waits {old new : Errand.Stage} (pace : Pace sight b c e old new)
    (mem : a ∈ old.evicted) : a ∈ new.evicted ∨ ∃ result, b.stage? a = some (.settled result) ∧
      ∀ m, b.FoundFull a m → m ∈ new.targets := by
  cases pace with
  | idle before => simp [(Errand.Stage.of_light before).2] at mem
  | evicts before =>
    simp [(Errand.Stage.of_light (Errand.Stage.of_isSeeking before).2).2] at mem
  | @hears i left records evicted ended =>
    rcases List.mem_cons.mp mem with rfl | mem
    · obtain ⟨result, known⟩ := Option.isSome_iff_exists.mp ended
      have at_stage := result?_eq_some.mp known
      refine .inr ⟨result, at_stage, ?_⟩
      rintro m ⟨stage, r, at_other, record, _, rfl⟩
      obtain rfl := Option.some.inj (at_stage.symm.trans at_other)
      obtain rfl : result = .ok r := by
        cases result <;> simp_all [Activation.Stage.record?]
      obtain ⟨s, mem, same⟩ := gather_lists at_stage records
      exact List.mem_map.mpr ⟨s, mem, same⟩
    · exact .inl mem
  | passes passes => simp [passes.waited] at mem
  | answers _ _ _ _ passes => simp [passes.waited] at mem
  | looks => simp [Errand.Stage.evicted] at mem
  | begins _ waited => simp [waited] at mem

theorem InHand.change (hand : b.InHand e a) (custody : b.Custody) (h : b.Sound)
    (change : Change sight b c) {old stage : Errand.Stage} (was : b.errandStage? e = some old)
    (found : c.errandStage? e = some stage) : c.InHand e a := by
  have filing := change.filing
  have settled {result : Except ActivationError Record}
      (ended : b.stage? a = some (.settled result)) (sees : ∀ m, b.FoundFull a m →
        m ∈ stage.targets ∨ ∃ n, c.managers[m]? = some n ∧ n.Quiet) : c.InHand e a := by
    have still := filing.settled ended
    refine .inr ⟨result, still, ?_⟩
    rintro m ⟨other, r, at_other, rest⟩
    obtain rfl := Option.some.inj (at_other.symm.trans still)
    exact (sees m ⟨_, r, ended, rest⟩).imp_left fun mem => ⟨stage, found, mem⟩
  have step : old = stage ∨ Pace sight b c e old stage := by
    rcases change.pace found with same | ⟨_, none⟩ | ⟨other, before, pace, _⟩
    · exact .inl (Option.some.inj (was.symm.trans same))
    · simp [none] at was
    · exact .inr (Option.some.inj (was.symm.trans before) ▸ pace)
  rcases hand with ⟨other, waits, mem⟩ | ⟨result, ended, sees⟩
  · obtain rfl := Option.some.inj (was.symm.trans waits)
    rcases step with rfl | pace
    · exact .inl ⟨old, found, mem⟩
    · rcases pace.waits mem with still | ⟨result, ended, listed⟩
      · exact .inl ⟨stage, found, still⟩
      · exact settled ended fun m won => .inl (listed m won)
  · refine settled ended fun m won => ?_
    rcases sees m won with ⟨other, at_other, mem⟩ | ⟨n, manager, quiet⟩
    · obtain rfl := Option.some.inj (was.symm.trans at_other)
      rcases step with rfl | pace
      · exact .inl mem
      · exact custody.target_stays h.kept was pace won mem
    · obtain ⟨k, hk, turn⟩ := (h.staffed.staffing h.kept change).later manager
      exact .inr ⟨k, hk, turn.quiet (h.kept.lined manager) quiet⟩

theorem InHand.alike (hand : b.InHand e a) (alike : Alike b c) : c.InHand e a := by
  have files : c.files = b.files := alike.activations
  rcases hand with ⟨stage, found, mem⟩ | ⟨result, ended, sees⟩
  · exact .inl ⟨stage, (alike.errandStage? e).trans found, mem⟩
  · refine .inr ⟨result, (stage?_congr files a).trans ended, fun m won => ?_⟩
    rcases sees m (won.congr files) with ⟨stage, found, mem⟩ | ⟨n, manager, quiet⟩
    · exact .inl ⟨stage, (alike.errandStage? e).trans found, mem⟩
    · obtain ⟨k, hk, aside⟩ := alike.later manager
      exact .inr ⟨k, hk, quiet.aside aside⟩

/-- The errand has taken the keys out of the cache and goes on to their activations. -/
structure Sweeping (b : Broker) (e : ErrandId) (keys : List ScopeKey)
    (gone : List ActivationId) : Prop where
  keys : ∃ stage, b.errandStage? e = some stage ∧ stage.keys? = some keys
  hand : ∀ {a}, a ∈ gone → b.InHand e a
  waits : ∀ {stage a}, b.errandStage? e = some stage → a ∈ stage.evicted → a ∈ gone
  sees : ∀ {stage m}, b.errandStage? e = some stage → m ∈ stage.targets →
    ∃ a ∈ gone, ∃ other r, b.stage? a = some other ∧ other.record? = some r ∧ r.manager = m

namespace Sweeping

variable {keys : List ScopeKey} {gone : List ActivationId}

/-- A sweep goes on, or is put away. -/
theorem change (sweeping : b.Sweeping e keys gone) (custody : b.Custody) (h : b.Sound)
    (change : Change sight b c) : c.Sweeping e keys gone ∨ c.errandStage? e = none := by
  obtain ⟨old, was, before⟩ := sweeping.keys
  cases found : c.errandStage? e with
  | none => exact .inr rfl
  | some stage =>
    left
    have step : old = stage ∨ Pace sight b c e old stage := by
      rcases change.pace found with same | ⟨_, none⟩ | ⟨other, at_other, pace, _⟩
      · exact .inl (Option.some.inj (was.symm.trans same))
      · simp [none] at was
      · exact .inr (Option.some.inj (was.symm.trans at_other) ▸ pace)
    have later {a : ActivationId} {m : ManagerId} {other : Activation.Stage} {r : Record}
        (at_other : b.stage? a = some other) (record : other.record? = some r)
        (same : r.manager = m) :
        ∃ other r, c.stage? a = some other ∧ other.record? = some r ∧ r.manager = m := by
      obtain ⟨later, at_later, also⟩ := change.filing.record at_other record
      exact ⟨later, r, at_later, also, same⟩
    have sees {m : ManagerId} (mem : m ∈ old.targets) :
        ∃ a ∈ gone, ∃ other r, c.stage? a = some other ∧ other.record? = some r ∧
          r.manager = m := by
      obtain ⟨a, gone, other, r, at_other, record, same⟩ := sweeping.sees was mem
      exact ⟨a, gone, later at_other record same⟩
    refine ⟨⟨stage, found, ?_⟩, fun mem => (sweeping.hand mem).change custody h change was found,
      fun {other a} here mem => ?_, fun {other m} here mem => ?_⟩
    · rcases step with rfl | pace
      · exact before
      · exact pace.keys before
    · obtain rfl := Option.some.inj (found.symm.trans here)
      rcases step with rfl | pace
      · exact sweeping.waits was mem
      · rcases pace.mem_evicted h.filed mem with mem | ⟨none, _⟩
        · exact sweeping.waits was mem
        · simp [none] at before
    · obtain rfl := Option.some.inj (found.symm.trans here)
      rcases step with rfl | pace
      · exact sees mem
      · rcases pace.mem_targets mem with mem | ⟨a, mem, other, r, at_other, record, same⟩
        · exact sees mem
        · exact ⟨a, sweeping.waits was mem, later at_other record same⟩

theorem alike (sweeping : b.Sweeping e keys gone) (alike : Alike b c) :
    c.Sweeping e keys gone := by
  have stages := stage?_congr (b := b) alike.activations
  obtain ⟨stage, found, same⟩ := sweeping.keys
  refine ⟨⟨stage, (alike.errandStage? e).trans found, same⟩,
    fun mem => (sweeping.hand mem).alike alike,
    fun here => sweeping.waits ((alike.errandStage? e).symm.trans here), fun here mem => ?_⟩
  obtain ⟨a, inside, other, r, at_other, rest⟩ :=
    sweeping.sees ((alike.errandStage? e).symm.trans here) mem
  exact ⟨a, inside, other, r, (stages a).trans at_other, rest⟩

/-- Whatever else happens, a sweep that has not been put away has all that it has evicted in
hand. -/
theorem run (sweeping : b.Sweeping e keys gone) (custody : b.Custody) (h : b.Sound)
    (old : e < b.nextErrand) (moves : List Move) :
    (b.run moves).Sweeping e keys gone ∨ (b.run moves).errandStage? e = none := by
  have all : ((b.run moves).Sound ∧ (b.run moves).Custody ∧ e < (b.run moves).nextErrand) ∧
      ((b.run moves).Sweeping e keys gone ∨ (b.run moves).errandStage? e = none) := by
    refine run_induction (P := fun c => (c.Sound ∧ c.Custody ∧ e < c.nextErrand) ∧
      (c.Sweeping e keys gone ∨ c.errandStage? e = none)) (fun b next before => ?_)
      ⟨⟨h, custody, old⟩, .inl sweeping⟩ moves
    refine (before.1.1.kept.moves next).keeps (P := fun c => (c.Sound ∧ c.Custody ∧
      e < c.nextErrand) ∧ (c.Sweeping e keys gone ∨ c.errandStage? e = none)) before ?_ ?_
    · rintro c d ⟨⟨h, custody, old⟩, goes⟩ same
      refine ⟨⟨h.alike same, custody.alike same, same.next ▸ old⟩, ?_⟩
      exact goes.imp (fun goes => goes.alike same) (same.errandStage? e).trans
    · rintro sight c d ⟨⟨h, custody, old⟩, goes⟩ change
      refine ⟨⟨h.change change, custody.change h change,
        Nat.lt_of_lt_of_le old change.posting.later⟩, ?_⟩
      rcases goes with goes | away
      · exact goes.change custody h change
      · exact .inr (change.posting.away old away)
  exact all.2

end Sweeping

theorem Custody.run (custody : b.Custody) (h : b.Sound) (moves : List Move) :
    (b.run moves).Custody := by
  have all : (b.run moves).Sound ∧ (b.run moves).Custody := by
    refine run_induction (P := fun c => c.Sound ∧ c.Custody) (fun b next before => ?_)
      ⟨h, custody⟩ moves
    refine (before.1.kept.moves next).keeps (P := fun c => c.Sound ∧ c.Custody) before ?_ ?_
    · rintro c d ⟨h, custody⟩ same
      exact ⟨h.alike same, custody.alike same⟩
    · rintro sight c d ⟨h, custody⟩ change
      exact ⟨h.change change, custody.change h change⟩
  exact all.2

end Broker

end LanguageBroker
