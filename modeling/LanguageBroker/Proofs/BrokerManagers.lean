import LanguageBroker.Proofs.ActivationCache

/-!
Which activation has to do with which manager. A manager whose first start is on its way, or whose
first start has failed, belongs to one activation alone. Only a simple server that has started is
shared. A manager that no activation has to do with is quiet.
-/

namespace LanguageBroker

/-- The manager that an activation has to do with. -/
def Activation.Stage.manager? : Activation.Stage → Option ManagerId
  | .startingFull _ m _ | .startingSimple m _ => some m
  | .cleaningFull _ m _ _ | .cleaningSimple m _ _ => some m
  | .concluding (.ok record) | .settled (.ok record) => some record.manager
  | _ => none

namespace Activation.Stage

variable {stage : Activation.Stage} {m : ManagerId} {j : JobId} {r : Record}

theorem manager?_of_starts? (h : stage.starts? = some (m, j)) :
    stage.manager? = some m ∧ stage.record? = none ∧ stage.settles? = none := by
  cases stage <;> simp_all [starts?, manager?, record?, settles?]

theorem manager?_of_settles? (h : stage.settles? = some (m, j)) :
    stage.manager? = some m ∧ stage.record? = none ∧ stage.starts? = none := by
  cases stage <;> simp_all [starts?, manager?, record?, settles?]

theorem manager?_of_record? (h : stage.record? = some r) :
    stage.manager? = some r.manager ∧ stage.starts? = none ∧ stage.settles? = none := by
  cases stage with
  | concluding result | settled result =>
    cases result <;> simp_all [starts?, manager?, record?, settles?]
  | _ => simp [record?] at h

theorem record?_of_manager? (h : stage.manager? = some m) (idle : stage.starts? = none)
    (clean : stage.settles? = none) : ∃ r, stage.record? = some r ∧ r.manager = m := by
  cases stage with
  | concluding result | settled result => cases result <;> simp_all [manager?, record?]
  | _ => simp_all [starts?, manager?, settles?]

theorem of_isEarly (early : stage.isEarly) :
    stage.manager? = none ∧ stage.record? = none ∧ stage.starts? = none ∧
      stage.settles? = none := by
  cases stage <;> simp_all [isEarly, manager?, record?, starts?, settles?]

end Activation.Stage

namespace Broker

/-- An activation has found it. -/
def IsRecorded (b : Broker) (r : Record) : Prop :=
  ∃ a stage, b.stage? a = some stage ∧ stage.record? = some r

/-- All that an errand is about was found by activations. -/
structure Knows (b : Broker) (x : Errand) : Prop where
  records : ∀ r ∈ x.stage.records, b.IsRecorded r
  jobs : ∀ {m j}, x.stage.job? = some (m, j) → ∃ r, b.IsRecorded r ∧ r.manager = m
  task : ∀ {r}, x.task.record? = some r → b.IsRecorded r

structure Kept (b : Broker) : Prop where
  lined : b.IsLined
  within : ∀ {a stage m}, b.stage? a = some stage → stage.manager? = some m →
    m < b.managers.length
  alone : ∀ {a i stage other m}, b.stage? a = some stage → b.stage? i = some other →
    stage.manager? = some m → other.manager? = some m →
      a = i ∨ stage.record? = some ⟨.simple, m⟩ ∧ other.record? = some ⟨.simple, m⟩
  starting : ∀ {a stage m j n}, b.stage? a = some stage → stage.starts? = some (m, j) →
    b.managers[m]? = some n → n.Starting j
  settling : ∀ {a stage m j n}, b.stage? a = some stage → stage.settles? = some (m, j) →
    b.managers[m]? = some n → n.Settling j
  quiet : ∀ {m n}, b.managers[m]? = some n →
    n.Quiet ∨ ∃ a stage, b.stage? a = some stage ∧ stage.manager? = some m
  simple : ∀ {r}, b.simple = some r → b.IsRecorded r ∧ r.variant = .simple
  errands : ∀ {x}, x ∈ b.errands → b.Knows x

variable {b c d : Broker} {a : ActivationId} {m : ManagerId} {r : Record} {e : ErrandId}
  {sight : Option Sight}

theorem Knows.mono {x : Errand} (knows : b.Knows x)
    (recorded : ∀ {r}, b.IsRecorded r → c.IsRecorded r) : c.Knows x where
  records r hr := recorded (knows.records r hr)
  jobs job := by
    obtain ⟨r, hr, same⟩ := knows.jobs job
    exact ⟨r, recorded hr, same⟩
  task task := recorded (knows.task task)

theorem stage?_congr (files : c.files = b.files) (a : ActivationId) : c.stage? a = b.stage? a := by
  simp only [stage?, files]

theorem isRecorded_congr (files : c.files = b.files) (h : b.IsRecorded r) : c.IsRecorded r := by
  obtain ⟨a, stage, at_stage, record⟩ := h
  exact ⟨a, stage, (stage?_congr files a).trans at_stage, record⟩

theorem stage?_putActivation {old : Activation.Stage} (found : b.stage? a = some old)
    (stage : Activation.Stage) (i : ActivationId) :
    (b.putActivation a stage).stage? i = if i = a then some stage else b.stage? i := by
  rw [stage?, files_putActivation, List.getElem?_modify]
  by_cases here : i = a
  · subst here
    simp only [stage?, Option.map_eq_some_iff] at found
    obtain ⟨x, hx, _⟩ := found
    simp [hx]
  · simp [stage?, here, Ne.symm here]

theorem record?_of_activation {x : Activation} (found : b.activations[a]? = some x)
    (record : x.record? = some r) :
    ∃ stage, b.stage? a = some stage ∧ stage.record? = some r := by
  refine ⟨x.stage, stage?_of_activation found, ?_⟩
  unfold Activation.record? at record
  split at record
  · next stage => simpa [stage, Activation.Stage.record?] using record
  · simp at record

theorem mem_gather {records : List Record} (mem : r ∈ b.gather a records) :
    r ∈ records ∨ ∃ stage, b.stage? a = some stage ∧ stage.record? = some r := by
  unfold gather at mem
  split at mem
  · next found here =>
    split at mem
    · exact .inl mem
    · rcases List.mem_append.mp mem with old | new
      · exact .inl old
      · obtain rfl := List.mem_singleton.mp new
        obtain ⟨x, hx, record⟩ := Option.bind_eq_some_iff.mp here
        exact .inr (record?_of_activation hx record)
  · exact .inl mem

namespace Kept

/-- The activations and the managers are the same. -/
theorem congr (h : b.Kept) (files : c.files = b.files) (managers : c.managers = b.managers)
    (simple : ∀ r, c.simple = some r → b.IsRecorded r ∧ r.variant = .simple)
    (errands : ∀ x ∈ c.errands, b.Knows x) : c.Kept := by
  have stages := stage?_congr files
  refine ⟨?lined, ?within, ?alone, ?starting, ?settling, ?quiet, ?simple, ?errands⟩
  case lined =>
    intro m x hx
    exact h.lined (managers ▸ hx)
  case within =>
    intro a stage m at_stage
    rw [managers]
    exact h.within (stages a ▸ at_stage)
  case alone =>
    intro a i stage other m one two
    exact h.alone (stages a ▸ one) (stages i ▸ two)
  case starting =>
    intro a stage m j n at_stage starts hn
    exact h.starting (stages a ▸ at_stage) starts (managers ▸ hn)
  case settling =>
    intro a stage m j n at_stage settles hn
    exact h.settling (stages a ▸ at_stage) settles (managers ▸ hn)
  case quiet =>
    intro m n hn
    rcases h.quiet (managers ▸ hn) with quiet | ⟨a, stage, at_stage, named⟩
    · exact .inl quiet
    · exact .inr ⟨a, stage, (stages a).trans at_stage, named⟩
  case simple =>
    intro r hr
    exact ⟨isRecorded_congr files (simple r hr).1, (simple r hr).2⟩
  case errands =>
    intro x hx
    exact (errands x hx).mono (isRecorded_congr files)

theorem recorded_within (h : b.Kept) (recorded : b.IsRecorded r) :
    r.manager < b.managers.length := by
  obtain ⟨a, stage, at_stage, record⟩ := recorded
  exact h.within at_stage (Activation.Stage.manager?_of_record? record).1

theorem knows (h : b.Kept) {x : Errand} (found : b.errand? e = some x) : b.Knows x :=
  h.errands (List.mem_of_find?_eq_some found)

theorem informed (h : b.Kept) : b.IsInformed := fun found task =>
  h.recorded_within ((h.knows found).task task)

/-- A manager that has been found is nobody's own. -/
theorem not_starts (h : b.Kept) (recorded : b.IsRecorded r) {stage : Activation.Stage} {j : JobId}
    (at_stage : b.stage? a = some stage) : stage.starts? ≠ some (r.manager, j) := by
  intro starts
  obtain ⟨i, other, at_other, record⟩ := recorded
  obtain ⟨named, free, _⟩ := Activation.Stage.manager?_of_starts? starts
  obtain ⟨also, idle, _⟩ := Activation.Stage.manager?_of_record? record
  rcases h.alone at_stage at_other named also with rfl | ⟨shares, _⟩
  · obtain rfl := Option.some.inj (at_stage.symm.trans at_other)
    simp [idle] at starts
  · simp [free] at shares

theorem not_settles (h : b.Kept) (recorded : b.IsRecorded r) {stage : Activation.Stage}
    {j : JobId} (at_stage : b.stage? a = some stage) :
    stage.settles? ≠ some (r.manager, j) := by
  intro settles
  obtain ⟨i, other, at_other, record⟩ := recorded
  obtain ⟨named, free, _⟩ := Activation.Stage.manager?_of_settles? settles
  obtain ⟨also, _, clean⟩ := Activation.Stage.manager?_of_record? record
  rcases h.alone at_stage at_other named also with rfl | ⟨shares, _⟩
  · obtain rfl := Option.some.inj (at_stage.symm.trans at_other)
    simp [clean] at settles
  · simp [free] at shares

private theorem getElem?_setManager {x n : Manager} (found : b.managers[m]? = some x)
    {i : ManagerId} {y : Manager} (hy : (b.setManager m n).managers[i]? = some y) :
    i = m ∧ y = n ∨ i ≠ m ∧ b.managers[i]? = some y := by
  simp only [setManager, List.getElem?_set] at hy
  split at hy
  · next here =>
    subst here
    have inside := (List.getElem?_eq_some_iff.mp found).1
    rw [if_pos inside] at hy
    exact .inl ⟨rfl, (Option.some.inj hy).symm⟩
  · next other => exact .inr ⟨Ne.symm other, hy⟩

/-- A manager does something that fits what it is there for. -/
theorem setManager (h : b.Kept) {x n : Manager} (found : b.managers[m]? = some x)
    (lined : n.Lined)
    (starting : ∀ {a stage j}, b.stage? a = some stage → stage.starts? = some (m, j) →
      n.Starting j)
    (settling : ∀ {a stage j}, b.stage? a = some stage → stage.settles? = some (m, j) →
      n.Settling j)
    (quiet : n.Quiet ∨ ∃ a stage, b.stage? a = some stage ∧ stage.manager? = some m) :
    (b.setManager m n).Kept where
  lined {i y} hy := by
    rcases getElem?_setManager found hy with ⟨_, rfl⟩ | ⟨_, hy⟩
    · exact lined
    · exact h.lined hy
  within at_stage named := by
    simpa [Broker.setManager] using h.within at_stage named
  alone := h.alone
  starting {a stage i j y} at_stage starts hy := by
    rcases getElem?_setManager found hy with ⟨rfl, rfl⟩ | ⟨_, hy⟩
    · exact starting at_stage starts
    · exact h.starting at_stage starts hy
  settling {a stage i j y} at_stage settles hy := by
    rcases getElem?_setManager found hy with ⟨rfl, rfl⟩ | ⟨_, hy⟩
    · exact settling at_stage settles
    · exact h.settling at_stage settles hy
  quiet {i y} hy := by
    rcases getElem?_setManager found hy with ⟨rfl, rfl⟩ | ⟨_, hy⟩
    · exact quiet
    · exact h.quiet hy
  simple hr := h.simple hr
  errands hx := (h.errands hx).mono fun recorded => recorded

/-- A manager that has been found does anything. -/
theorem setRecorded (h : b.Kept) {x n : Manager} (found : b.managers[r.manager]? = some x)
    (recorded : b.IsRecorded r) (lined : n.Lined) : (b.setManager r.manager n).Kept := by
  refine h.setManager found lined (fun at_stage starts => ?_) (fun at_stage settles => ?_) ?_
  · exact absurd starts (h.not_starts recorded at_stage)
  · exact absurd settles (h.not_settles recorded at_stage)
  · obtain ⟨a, stage, at_stage, record⟩ := recorded
    exact .inr ⟨a, stage, at_stage, (Activation.Stage.manager?_of_record? record).1⟩

theorem jobStep (h : b.Kept) {x n : Manager} {y : Job} {s t : Site} {clock : Clock}
    (manager : b.managers[m]? = some x) (found : x.job? y.id = some y)
    (ready : x.canStep clock y) (step : x.JobStep s y n t) : (b.setManager m n).Kept := by
  have lined := h.lined manager
  refine h.setManager manager (lined.jobStep found step) (fun at_stage starts => ?_)
    (fun at_stage settles => ?_) ?_
  · exact (h.starting at_stage starts manager).jobStep found step
  · exact (h.settling at_stage settles manager).jobStep lined found ready step
  · exact (h.quiet manager).imp_left fun quiet => quiet.jobStep found step

/-- An activation goes on without a manager of its own. -/
theorem putActivation (h : b.Kept) {old stage : Activation.Stage} (found : b.stage? a = some old)
    (idle : stage.starts? = none) (clean : stage.settles? = none)
    (keeps : ∀ {r}, old.record? = some r → stage.record? = some r)
    (record : ∀ {r}, stage.record? = some r →
      old.record? = some r ∨ b.IsRecorded r ∧ r.variant = .simple)
    (named : ∀ {m}, old.manager? = some m → stage.manager? = some m) :
    (b.putActivation a stage).Kept := by
  have stages := stage?_putActivation found stage
  have recorded {r : Record} (known : b.IsRecorded r) : (b.putActivation a stage).IsRecorded r := by
    obtain ⟨i, other, at_other, has⟩ := known
    by_cases here : i = a
    · subst here
      obtain rfl := Option.some.inj (found.symm.trans at_other)
      exact ⟨i, stage, by rw [stages, if_pos rfl], keeps has⟩
    · exact ⟨i, other, by rw [stages, if_neg here, at_other], has⟩
  -- a manager comes to a stage by having been its own before or by being shared
  have before {m : ManagerId} (named : stage.manager? = some m) :
      ∃ i other, b.stage? i = some other ∧ other.manager? = some m ∧
        (i = a ∨ stage.record? = some ⟨.simple, m⟩ ∧ other.record? = some ⟨.simple, m⟩) := by
    obtain ⟨r, has, rfl⟩ := Activation.Stage.record?_of_manager? named idle clean
    rcases record has with also | ⟨⟨i, other, at_other, also⟩, simple⟩
    · exact ⟨a, old, found, (Activation.Stage.manager?_of_record? also).1, .inl rfl⟩
    · obtain ⟨variant, m⟩ := r
      obtain rfl : variant = .simple := simple
      exact ⟨i, other, at_other, (Activation.Stage.manager?_of_record? also).1, .inr ⟨has, also⟩⟩
  have alone {i : ActivationId} {other : Activation.Stage} {m : ManagerId} (differs : i ≠ a)
      (at_other : b.stage? i = some other) (one : stage.manager? = some m)
      (two : other.manager? = some m) :
      stage.record? = some ⟨.simple, m⟩ ∧ other.record? = some ⟨.simple, m⟩ := by
    obtain ⟨k, third, at_third, three, rfl | ⟨shares, also⟩⟩ := before one
    · obtain rfl := Option.some.inj (found.symm.trans at_third)
      rcases h.alone found at_other three two with rfl | ⟨shares, also⟩
      · exact absurd rfl differs
      · exact ⟨keeps shares, also⟩
    · rcases h.alone at_third at_other three two with rfl | ⟨_, has⟩
      · obtain rfl := Option.some.inj (at_third.symm.trans at_other)
        exact ⟨shares, also⟩
      · exact ⟨shares, has⟩
  refine ⟨h.lined, ?within, ?alone, ?starting, ?settling, ?quiet, ?simple, ?errands⟩
  case within =>
    intro i s m at_s named
    rw [stages] at at_s
    split at at_s
    · obtain rfl := Option.some.inj at_s
      obtain ⟨k, other, at_other, also, _⟩ := before named
      exact h.within at_other also
    · exact h.within at_s named
  case alone =>
    intro i k s t m at_s at_t one two
    rw [stages] at at_s at_t
    split at at_s <;> split at at_t
    · next here there => exact .inl (here.trans there.symm)
    · next here there =>
      obtain rfl := Option.some.inj at_s
      exact .inr (alone there at_t one two)
    · next here there =>
      obtain rfl := Option.some.inj at_t
      exact .inr (alone here at_s two one).symm
    · exact h.alone at_s at_t one two
  case starting =>
    intro i s m j n at_s starts hn
    rw [stages] at at_s
    split at at_s
    · obtain rfl := Option.some.inj at_s
      simp [idle] at starts
    · exact h.starting at_s starts hn
  case settling =>
    intro i s m j n at_s settles hn
    rw [stages] at at_s
    split at at_s
    · obtain rfl := Option.some.inj at_s
      simp [clean] at settles
    · exact h.settling at_s settles hn
  case quiet =>
    intro m n hn
    rcases h.quiet hn with quiet | ⟨i, other, at_other, also⟩
    · exact .inl quiet
    · refine .inr ?_
      by_cases here : i = a
      · subst here
        obtain rfl := Option.some.inj (found.symm.trans at_other)
        exact ⟨i, stage, by rw [stages, if_pos rfl], named also⟩
      · exact ⟨i, other, by rw [stages, if_neg here, at_other], also⟩
  case simple =>
    intro r hr
    exact ⟨recorded (h.simple hr).1, (h.simple hr).2⟩
  case errands =>
    intro x hx
    exact (h.errands hx).mono recorded

/-- An activation goes on with a manager that is its own, and only this one is different. -/
private theorem replace (h : b.Kept) {n : Manager} {old stage : Activation.Stage}
    (found : b.stage? a = some old) (own : old.record? = none)
    (held : ∀ {k}, old.manager? = some k → k = m)
    (nobody : ∀ {i other}, i ≠ a → b.stage? i = some other → other.manager? ≠ some m)
    (stages : ∀ i, c.stage? i = if i = a then some stage else b.stage? i)
    (managers : ∀ {i y}, c.managers[i]? = some y → i = m ∧ y = n ∨ i ≠ m ∧ b.managers[i]? = some y)
    (inside : m < c.managers.length) (length : b.managers.length ≤ c.managers.length)
    (simple : c.simple = b.simple) (errands : c.errands = b.errands) (lined : n.Lined)
    (same : ∀ {i}, stage.manager? = some i → i = m)
    (starting : ∀ {i j}, stage.starts? = some (i, j) → n.Starting j)
    (settling : ∀ {i j}, stage.settles? = some (i, j) → n.Settling j)
    (quiet : n.Quiet ∨ stage.manager? = some m) : c.Kept := by
  have recorded {r : Record} (known : b.IsRecorded r) : c.IsRecorded r := by
    obtain ⟨i, other, at_other, has⟩ := known
    by_cases here : i = a
    · subst here
      obtain rfl := Option.some.inj (found.symm.trans at_other)
      simp [own] at has
    · exact ⟨i, other, by rw [stages, if_neg here, at_other], has⟩
  refine ⟨?lined, ?within, ?alone, ?starting, ?settling, ?quiet, ?simple, ?errands⟩
  case lined =>
    intro i y hy
    rcases managers hy with ⟨_, rfl⟩ | ⟨_, hy⟩
    · exact lined
    · exact h.lined hy
  case within =>
    intro i s k at_s names
    rw [stages] at at_s
    split at at_s
    · obtain rfl := Option.some.inj at_s
      exact same names ▸ inside
    · exact Nat.lt_of_lt_of_le (h.within at_s names) length
  case alone =>
    intro i k s t l at_s at_t one two
    rw [stages] at at_s at_t
    split at at_s <;> split at at_t
    · next here there => exact .inl (here.trans there.symm)
    · next there =>
      obtain rfl := Option.some.inj at_s
      exact absurd (same one ▸ two) (nobody there at_t)
    · next here _ =>
      obtain rfl := Option.some.inj at_t
      exact absurd (same two ▸ one) (nobody here at_s)
    · exact h.alone at_s at_t one two
  case starting =>
    intro i s k j y at_s starts hy
    rw [stages] at at_s
    split at at_s
    · obtain rfl := Option.some.inj at_s
      obtain rfl := same (Activation.Stage.manager?_of_starts? starts).1
      rcases managers hy with ⟨_, rfl⟩ | ⟨other, _⟩
      · exact starting starts
      · exact absurd rfl other
    · next there =>
      rcases managers hy with ⟨rfl, _⟩ | ⟨_, hy⟩
      · exact absurd (Activation.Stage.manager?_of_starts? starts).1 (nobody there at_s)
      · exact h.starting at_s starts hy
  case settling =>
    intro i s k j y at_s settles hy
    rw [stages] at at_s
    split at at_s
    · obtain rfl := Option.some.inj at_s
      obtain rfl := same (Activation.Stage.manager?_of_settles? settles).1
      rcases managers hy with ⟨_, rfl⟩ | ⟨other, _⟩
      · exact settling settles
      · exact absurd rfl other
    · next there =>
      rcases managers hy with ⟨rfl, _⟩ | ⟨_, hy⟩
      · exact absurd (Activation.Stage.manager?_of_settles? settles).1 (nobody there at_s)
      · exact h.settling at_s settles hy
  case quiet =>
    intro k y hy
    rcases managers hy with ⟨rfl, rfl⟩ | ⟨other, hy⟩
    · exact quiet.imp_right fun names => ⟨a, stage, by rw [stages, if_pos rfl], names⟩
    · refine (h.quiet hy).imp_right ?_
      rintro ⟨i, s, at_s, names⟩
      by_cases here : i = a
      · subst here
        obtain rfl := Option.some.inj (found.symm.trans at_s)
        exact absurd (held names) other
      · exact ⟨i, s, by rw [stages, if_neg here, at_s], names⟩
  case simple =>
    intro r hr
    obtain ⟨known, variant⟩ := h.simple (simple ▸ hr)
    exact ⟨recorded known, variant⟩
  case errands =>
    intro y hy
    exact (h.errands (errands ▸ hy)).mono recorded

/-- An activation goes on with a manager of its own, and this one does something. -/
theorem turn (h : b.Kept) {x n : Manager} {old stage : Activation.Stage}
    (found : b.stage? a = some old) (named : old.manager? = some m) (own : old.record? = none)
    (manager : b.managers[m]? = some x) (lined : n.Lined)
    (same : ∀ {i}, stage.manager? = some i → i = m)
    (starting : ∀ {i j}, stage.starts? = some (i, j) → n.Starting j)
    (settling : ∀ {i j}, stage.settles? = some (i, j) → n.Settling j)
    (quiet : n.Quiet ∨ stage.manager? = some m) :
    ((b.setManager m n).putActivation a stage).Kept := by
  have nobody {i : ActivationId} {other : Activation.Stage} (differs : i ≠ a)
      (at_other : b.stage? i = some other) : other.manager? ≠ some m := by
    intro also
    rcases h.alone found at_other named also with rfl | ⟨shares, _⟩
    · exact differs rfl
    · simp [own] at shares
  have length : ((b.setManager m n).putActivation a stage).managers.length = b.managers.length := by
    simp [Broker.setManager, Broker.putActivation]
  refine h.replace found own (fun also => Option.some.inj (also.symm.trans named)) nobody
    (stage?_putActivation (b := b.setManager m n) found stage)
    (fun hy => getElem?_setManager manager hy) ?_ (Nat.le_of_eq length.symm) rfl rfl lined same
    starting settling quiet
  rw [length]
  exact (List.getElem?_eq_some_iff.mp manager).1

/-- A manager is made for an activation that has none. -/
theorem launch (h : b.Kept) {old : Activation.Stage}
    {stage : ManagerId → JobId → Activation.Stage} (found : b.stage? a = some old)
    (free : old.manager? = none) (own : old.record? = none) (variant : Variant) (scope : Scope)
    (starts : ∀ m j, (stage m j).starts? = some (m, j)) :
    (b.launch a variant scope stage).Kept := by
  have length : (b.launch a variant scope stage).managers.length = b.managers.length + 1 := by
    simp [Broker.launch, Broker.putActivation]
  have managers {i : ManagerId} {y : Manager}
      (hy : (b.launch a variant scope stage).managers[i]? = some y) :
      i = b.managers.length ∧ y = Broker.starting variant scope ∨
        i ≠ b.managers.length ∧ b.managers[i]? = some y := by
    have whole : i < b.managers.length + 1 := length ▸ (List.getElem?_eq_some_iff.mp hy).1
    have top : (b.managers ++ [Broker.starting variant scope])[i]? = some y := hy
    rcases Nat.lt_succ_iff_lt_or_eq.mp whole with inside | rfl
    · rw [List.getElem?_append_left inside] at top
      exact .inr ⟨Nat.ne_of_lt inside, top⟩
    · rw [List.getElem?_concat_length] at top
      exact .inl ⟨rfl, (Option.some.inj top).symm⟩
  have nobody {i : ActivationId} {other : Activation.Stage} (_ : i ≠ a)
      (at_other : b.stage? i = some other) : other.manager? ≠ some b.managers.length :=
    fun named => Nat.lt_irrefl _ (h.within at_other named)
  obtain ⟨named, _, clean⟩ := Activation.Stage.manager?_of_starts? (starts b.managers.length 1)
  refine h.replace found own (by simp [free]) nobody
    (stage?_putActivation
      (b := { b with managers := b.managers ++ [Broker.starting variant scope] }) found _)
    managers ?_ ?_ rfl rfl ((Manager.lined_new variant).ask _) ?_ ?_ ?_ (.inr named)
  · rw [length]
    exact Nat.lt_succ_self _
  · rw [length]
    exact Nat.le_succ _
  · intro i also
    exact Option.some.inj (also.symm.trans named)
  · intro i j also
    obtain ⟨_, rfl⟩ := Prod.mk.inj (Option.some.inj ((starts _ _).symm.trans also))
    exact Manager.starting_new variant scope
  · intro i j settles
    simp [clean] at settles

/-- An activation begins. -/
theorem begin (h : b.Kept) {scope : Scope} (files : c.files = b.files ++ [(scope, .fresh)])
    (managers : c.managers = b.managers) (simple : c.simple = b.simple)
    (errands : c.errands = b.errands) : c.Kept := by
  have old {i : ActivationId} {s : Activation.Stage} (at_s : b.stage? i = some s) :
      c.stage? i = some s := by
    rw [stage?_begin files, if_neg (Nat.ne_of_lt (lt_of_stage? at_s)), at_s]
  have cases {i : ActivationId} {s : Activation.Stage} (at_s : c.stage? i = some s) :
      b.stage? i = some s ∨ s = .fresh := by
    rw [stage?_begin files] at at_s
    split at at_s
    · exact .inr (Option.some.inj at_s).symm
    · exact .inl at_s
  have recorded {r : Record} : b.IsRecorded r → c.IsRecorded r := by
    rintro ⟨i, s, at_s, has⟩
    exact ⟨i, s, old at_s, has⟩
  refine ⟨?lined, ?within, ?alone, ?starting, ?settling, ?quiet, ?simple, ?errands⟩
  case lined =>
    intro m x hx
    exact h.lined (managers ▸ hx)
  case within =>
    intro i s m at_s names
    rw [managers]
    rcases cases at_s with at_s | rfl
    · exact h.within at_s names
    · simp [Activation.Stage.manager?] at names
  case alone =>
    intro i k s t m at_s at_t one two
    rcases cases at_s with at_s | rfl
    · rcases cases at_t with at_t | rfl
      · exact h.alone at_s at_t one two
      · simp [Activation.Stage.manager?] at two
    · simp [Activation.Stage.manager?] at one
  case starting =>
    intro i s m j n at_s starts hn
    rcases cases at_s with at_s | rfl
    · exact h.starting at_s starts (managers ▸ hn)
    · simp [Activation.Stage.starts?] at starts
  case settling =>
    intro i s m j n at_s settles hn
    rcases cases at_s with at_s | rfl
    · exact h.settling at_s settles (managers ▸ hn)
    · simp [Activation.Stage.settles?] at settles
  case quiet =>
    intro m n hn
    refine (h.quiet (managers ▸ hn)).imp_right ?_
    rintro ⟨i, s, at_s, names⟩
    exact ⟨i, s, old at_s, names⟩
  case simple =>
    intro r hr
    obtain ⟨known, variant⟩ := h.simple (simple ▸ hr)
    exact ⟨recorded known, variant⟩
  case errands =>
    intro y hy
    exact (h.errands (errands ▸ hy)).mono recorded

/-! Errands. -/

theorem putErrand (h : b.Kept) (e : ErrandId) {stage : Errand.Stage}
    (records : ∀ r ∈ stage.records, b.IsRecorded r)
    (jobs : ∀ {m j}, stage.job? = some (m, j) → ∃ r, b.IsRecorded r ∧ r.manager = m) :
    (b.putErrand e stage).Kept := by
  refine h.congr rfl rfl (fun r => h.simple) fun x hx => ?_
  obtain ⟨y, hy, rfl⟩ := List.mem_map.mp hx
  have known := h.errands hy
  split
  · exact ⟨records, jobs, known.task⟩
  · exact known

/-- The job that an errand waits for is put away. -/
theorem forgetJob (h : b.Kept) {x : Errand} {j : JobId} (found : b.errand? e = some x)
    (job : x.stage.job? = some (m, j)) : (b.forgetJob m j).Kept := by
  obtain ⟨r, recorded, rfl⟩ := (h.knows found).jobs job
  have manager := List.getElem?_eq_getElem (h.recorded_within recorded)
  rw [forgetJob_eq manager]
  exact h.setRecorded manager recorded ((h.lined manager).forget j)

theorem forgetErrand (h : b.Kept) (e : ErrandId) : (b.forgetErrand e).Kept := by
  have fewer {c : Broker} (kept : c.Kept) (same : c.errands = b.errands) :
      ({ c.leaveLine (.errand e) with
        errands := b.errands.filter fun x => x.id ≠ e } : Broker).Kept :=
    kept.congr rfl rfl (fun r => kept.simple)
      fun x hx => kept.errands (same ▸ (List.mem_filter.mp hx).1)
  rcases forgetErrand_cases b e with ⟨_, same⟩ | ⟨x, m, j, found, job, same⟩
  · rw [same]
    exact fewer h rfl
  · rw [same]
    exact fewer (h.forgetJob found job) rfl

theorem beginDisposal (h : b.Kept) (e : ErrandId) (recorded : b.IsRecorded r) {left : List Record}
    (known : ∀ r ∈ left, b.IsRecorded r) (evicted : List ScopeKey) :
    (b.beginDisposal e r.manager left evicted).Kept := by
  have manager := List.getElem?_eq_getElem (h.recorded_within recorded)
  have kept := h.setRecorded manager recorded ((h.lined manager).ask .dispose)
  simp only [Broker.beginDisposal, ask_eq manager]
  exact kept.putErrand e known fun job => ⟨r, recorded, (Prod.mk.inj (Option.some.inj job)).1⟩

theorem beginEviction (h : b.Kept) (e : ErrandId) (stale : List ScopeKey) :
    (b.beginEviction e stale).Kept := by
  have kept : (b.evict (stale.filter b.isCached)).Kept :=
    h.congr rfl rfl (fun r => h.simple) fun x hx => h.errands hx
  exact kept.putErrand e (fun r hr => by simp [Errand.Stage.records] at hr)
    fun job => by simp [Errand.Stage.job?] at job

/-- Only who waits for the simple server is different. -/
private theorem sameLine (h : b.Kept) (files : c.files = b.files)
    (managers : c.managers = b.managers) (simple : c.simple = b.simple)
    (errands : c.errands = b.errands) : c.Kept :=
  h.congr files managers (fun _ hr => h.simple (simple ▸ hr)) fun _ hx => h.errands (errands ▸ hx)

theorem atSite (h : b.Kept) (s : Site) : ({ b with site := s } : Broker).Kept :=
  h.sameLine rfl rfl rfl rfl

private theorem entry (h : b.Kept) (scope : Scope) : (b.entry scope).1.Kept := by
  unfold Broker.entry
  split
  · exact h
  · exact h.begin (files_append b scope) rfl rfl rfl

private theorem recorded_of_knows {task : Errand.Task} (known : b.knows task) {r : Record}
    (about : task.record? = some r) : b.IsRecorded r := by
  have found : b.activations.any (fun x => x.record? == some r) := by
    cases task <;> simp_all [Errand.Task.record?, Broker.knows]
  obtain ⟨x, hx, record⟩ := List.any_eq_true.mp found
  obtain ⟨a, inside, rfl⟩ := List.getElem_of_mem hx
  exact ⟨a, record?_of_activation (List.getElem?_eq_getElem inside) (by simpa using record)⟩

theorem change (h : b.Kept) (change : Change sight b c) : c.Kept := by
  cases change with
  | rest => exact h
  | job manager found ready step => exact (h.jobStep manager found ready step).atSite _
  | turn found before after _ =>
    obtain ⟨free, none, _⟩ := Activation.Stage.of_isEarly before
    obtain ⟨_, own, idle, clean⟩ := Activation.Stage.of_isEarly after
    exact h.putActivation (stage?_of_activation found) idle clean (by simp [none]) (by simp [own])
      (by simp [free])
  | @queue a x found before =>
    obtain ⟨free, none, _⟩ := Activation.Stage.of_isEarly before
    have kept : (b.putActivation a .queuedSimple).Kept :=
      h.putActivation (stage?_of_activation found) rfl rfl (by simp [none])
        (by simp [Activation.Stage.record?]) (by simp [free])
    exact kept.sameLine rfl rfl rfl rfl
  | launchFull found before =>
    exact h.launch (stage?_of_activation found) (by rw [before]; rfl) (by rw [before]; rfl) _ _
      fun _ _ => rfl
  | launchSimple found before =>
    exact h.launch (stage?_of_activation found) (by rw [before]; rfl) (by rw [before]; rfl) _ _
      fun _ _ => rfl
  | fail found before manager _ _ after =>
    have at_stage := stage?_of_activation found
    obtain ⟨named, own, _⟩ := Activation.Stage.manager?_of_starts? before
    obtain ⟨also, _, idle⟩ := Activation.Stage.manager?_of_settles? after
    have lined := h.lined manager
    refine h.turn at_stage named own manager ((lined.forget _).ask _)
      (fun names => Option.some.inj (names.symm.trans also)) (by simp [idle]) ?_ (.inr also)
    intro i j settles
    obtain ⟨_, rfl⟩ := Prod.mk.inj (Option.some.inj (after.symm.trans settles))
    exact (h.starting at_stage before manager).clean lined
  | win found before manager =>
    exact h.turn (stage?_of_activation found) (by rw [before]; rfl) (by rw [before]; rfl) manager
      ((h.lined manager).forget _) (fun names => (Option.some.inj names).symm)
      (by simp [Activation.Stage.starts?]) (by simp [Activation.Stage.settles?]) (.inr rfl)
  | @winSimple a x m j n y found before manager =>
    have at_stage := stage?_of_activation found
    have kept : ((b.setManager m (n.forget j)).putActivation a
        (.concluding (.ok ⟨.simple, m⟩))).Kept :=
      h.turn at_stage (by rw [before]; rfl) (by rw [before]; rfl) manager
        ((h.lined manager).forget j) (fun names => (Option.some.inj names).symm)
        (by simp [Activation.Stage.starts?]) (by simp [Activation.Stage.settles?]) (.inr rfl)
    refine kept.congr rfl rfl ?_ fun _ hx => kept.errands hx
    rintro r ⟨⟩
    refine ⟨⟨a, .concluding (.ok ⟨.simple, m⟩), ?_, rfl⟩, rfl⟩
    rw [stage?_putActivation (b := b.setManager m (n.forget j)) at_stage, if_pos rfl]
  | @share a x r found before first shared =>
    have kept : (b.putActivation a (.concluding (.ok r))).Kept := by
      refine h.putActivation (stage?_of_activation found) rfl rfl
        (by simp [before, Activation.Stage.record?]) ?_
        (by simp [before, Activation.Stage.manager?])
      rintro s ⟨⟩
      exact .inr (h.simple shared)
    exact kept.sameLine rfl rfl rfl rfl
  | @refuse a x cause found before =>
    have kept : (b.putActivation a (.concluding (.error cause))).Kept :=
      h.putActivation (stage?_of_activation found) rfl rfl
        (by simp [before, Activation.Stage.record?]) (by simp [Activation.Stage.record?])
        (by simp [before, Activation.Stage.manager?])
    exact kept.sameLine rfl rfl rfl rfl
  | @fallBack a x variant m j cause n y found before manager ended done =>
    have at_stage := stage?_of_activation found
    -- the disposal has ended, so the manager that the activation lets go of is quiet
    have settling : n.Settling j := h.settling at_stage (by rw [before]; rfl) manager
    have kept : ((b.setManager m (n.forget j)).putActivation a .queuedSimple).Kept :=
      h.turn at_stage (by rw [before]; rfl) (by rw [before]; rfl) manager
        ((h.lined manager).forget j) (by simp [Activation.Stage.manager?])
        (by simp [Activation.Stage.starts?]) (by simp [Activation.Stage.settles?])
        (.inl (settling.forget ended done))
    exact kept.sameLine rfl rfl rfl rfl
  | @giveUp a x m j cause n y found before manager ended done =>
    have at_stage := stage?_of_activation found
    have settling : n.Settling j := h.settling at_stage (by rw [before]; rfl) manager
    have kept : ((b.setManager m (n.forget j)).putActivation a (.concluding (.error cause))).Kept :=
      h.turn at_stage (by rw [before]; rfl) (by rw [before]; rfl) manager
        ((h.lined manager).forget j) (by simp [Activation.Stage.manager?])
        (by simp [Activation.Stage.starts?]) (by simp [Activation.Stage.settles?])
        (.inl (settling.forget ended done))
    exact kept.sameLine rfl rfl rfl rfl
  | @settle a x result found before =>
    have same : Activation.Stage.record? (.settled result) = x.stage.record? := by
      rw [before]
      cases result <;> rfl
    have names : Activation.Stage.manager? (.settled result) = x.stage.manager? := by
      rw [before]
      cases result <;> rfl
    exact h.putActivation (stage?_of_activation found) rfl rfl (by simp [same])
      (fun record => .inl (same ▸ record)) (by simp [names])
  | @entrust task known =>
    refine h.congr rfl rfl (fun r => h.simple) fun x hx => ?_
    rcases List.mem_append.mp hx with hx | new
    · exact h.errands hx
    · obtain rfl := List.mem_singleton.mp new
      exact ⟨by simp [Errand.Stage.records], by simp [Errand.Stage.job?], recorded_of_knows known⟩
  | forget e => exact h.forgetErrand e
  | enter found before after =>
    refine (h.entry _).putErrand _ ?_ ?_ <;> rcases after with rfl | rfl <;>
      simp [Errand.Stage.records, Errand.Stage.job?]
  | tell found before result =>
    exact h.putErrand _ (by simp [Errand.Stage.records]) (by simp [Errand.Stage.job?])
  | pass found passes =>
    exact h.putErrand _ (fun r hr => (h.knows found).records r (passes.records.subset hr))
      (by simp [passes.jobs])
  | @inquire e x r n found before task manager =>
    have recorded := (h.knows found).task task
    have kept := h.setRecorded manager recorded ((h.lined manager).ask .lookUp)
    exact kept.putErrand _ (by simp [Errand.Stage.records])
      fun job => ⟨r, recorded, (Prod.mk.inj (Option.some.inj job)).1⟩
  | answer found before _ _ _ passes =>
    exact (h.forgetJob found before).putErrand _
      (fun r hr => (h.knows found).records r (passes.records.subset hr)) (by simp [passes.jobs])
  | gather found before =>
    have known := (h.knows found).records
    rw [before] at known
    refine h.putErrand _ (fun s hs => ?_) (by simp [Errand.Stage.job?])
    rcases mem_gather hs with old | new
    · exact known s old
    · exact ⟨_, new⟩
  | evict => exact h.beginEviction _ _
  | @look e x r left evicted found before =>
    have known := (h.knows found).records
    rw [before] at known
    have kept : (b.joinLine (.errand e)).Kept := h.sameLine rfl rfl rfl rfl
    exact kept.putErrand _ known (by simp [Errand.Stage.job?])
  | release found before =>
    have known := (h.knows found).records
    rw [before] at known
    exact h.beginDisposal _ (known _ List.mem_cons_self)
      (fun r hr => known r (List.mem_cons_of_mem _ hr)) _
  | @discard e x r left evicted found before =>
    have known := (h.knows found).records
    rw [before] at known
    have kept : (b.dropSimple e r).Kept :=
      h.congr rfl rfl (fun s hs => h.simple (Option.filter_eq_some_iff.mp hs).1)
        fun x hx => h.errands hx
    exact kept.beginDisposal _ (known _ List.mem_cons_self)
      (fun r hr => known r (List.mem_cons_of_mem _ hr)) _

theorem alike (h : b.Kept) (alike : Alike b c) : c.Kept := by
  have files : c.files = b.files := alike.activations
  have stages := stage?_congr files
  refine ⟨?lined, ?within, ?alone, ?starting, ?settling, ?quiet, ?simple, ?errands⟩
  case lined =>
    intro m y hy
    obtain ⟨x, hx, aside⟩ := alike.before hy
    exact aside.lined (h.lined hx)
  case within =>
    intro a stage m at_stage
    rw [alike.length]
    exact h.within (stages a ▸ at_stage)
  case alone =>
    intro a i stage other m one two
    exact h.alone (stages a ▸ one) (stages i ▸ two)
  case starting =>
    intro a stage m j y at_stage starts hy
    obtain ⟨x, hx, aside⟩ := alike.before hy
    exact (h.starting (stages a ▸ at_stage) starts hx).aside aside.mild
  case settling =>
    intro a stage m j y at_stage settles hy
    obtain ⟨x, hx, aside⟩ := alike.before hy
    exact (h.settling (stages a ▸ at_stage) settles hx).aside aside.mild
  case quiet =>
    intro m y hy
    obtain ⟨x, hx, aside⟩ := alike.before hy
    rcases h.quiet hx with quiet | ⟨a, stage, at_stage, named⟩
    · exact .inl (quiet.aside aside)
    · exact .inr ⟨a, stage, (stages a).trans at_stage, named⟩
  case simple =>
    intro r hr
    obtain ⟨known, variant⟩ := h.simple (alike.simple ▸ hr)
    exact ⟨isRecorded_congr files known, variant⟩
  case errands =>
    intro y hy
    have entry : (y.id, y.task, y.stage) ∈ b.errands.map fun x => (x.id, x.task, x.stage) := by
      rw [← alike.errands]
      exact List.mem_map_of_mem hy
    obtain ⟨x, hx, same⟩ := List.mem_map.mp entry
    simp only [Prod.mk.injEq] at same
    obtain ⟨_, task, stage⟩ := same
    have known := (h.errands hx).mono (isRecorded_congr files)
    exact ⟨stage ▸ known.records, stage ▸ known.jobs, task ▸ known.task⟩

theorem course (h : b.Kept) {host : Host} (course : Course sight host b d) : d.Kept := by
  cases course with
  | one _ change alike => exact ((h.atSite _).change change).alike alike
  | alone _ _ _ _ _ _ alike => exact (((h.atSite _).forgetErrand _).beginEviction _ _).alike alike

end Kept

theorem kept_opening (host : Host) (plan : BackendName → Plan) (clock : Clock) :
    Kept (opening host plan clock) where
  lined hx := by simp [opening] at hx
  within at_stage := by simp [opening, stage?, files] at at_stage
  alone at_stage := by simp [opening, stage?, files] at at_stage
  starting at_stage := by simp [opening, stage?, files] at at_stage
  settling at_stage := by simp [opening, stage?, files] at at_stage
  quiet hn := by simp [opening] at hn
  simple hr := by simp [opening] at hr
  errands hx := by simp [opening] at hx

theorem Kept.moves (h : b.Kept) (next : Move) :
    Course (b.fate? next) (b.lookout next) b (b.move next) :=
  course_move h.lined h.informed next

theorem Kept.move (h : b.Kept) (next : Move) : (b.move next).Kept := h.course (h.moves next)

end Broker

end LanguageBroker
