import LanguageBroker.Proofs.ManagerMoves

/-!
Every server that a manager made is accounted for: it is in the slot, it comes up on behalf of the
job that has the slot, or its disposal was called.
-/

namespace LanguageBroker

namespace Manager

/-- Where the servers are, and who may be at work on them. -/
structure Accounts (m : Manager) (s : Site) : Prop where
  slot : ∀ {b}, m.slot = some b → b < s.backends.length ∧ s.disposals b = 0 ∧ s.hasStarted b
  coming : ∀ {j x b}, m.job? j = some x → x.stage.coming? = some b →
    b < s.backends.length ∧ s.disposals b = 0
  leaving : ∀ {j x b}, m.job? j = some x → x.stage.leaving? = some b → b < s.backends.length
  kept : ∀ {b}, b < s.backends.length → s.disposals b = 0 →
    m.slot = some b ∨ ∃ j x, m.job? j = some x ∧ x.stage.coming? = some b
  once : ∀ b, s.disposals b ≤ 1
  alone : ∀ {j x}, m.job? j = some x → x.holds → m.slot = none
  closed : ∀ {j x}, m.job? j = some x → x.task = .dispose → x.stage ≠ .fresh → m.disposed
  parting : ∀ {j x}, m.job? j = some x → x.task = .dispose → x.stage.leaving? ≠ none →
    m.slot = none ∧ ∀ {i y}, m.job? i = some y → ¬ y.holds
  emptied : m.disposed → m.slot = none ∨
    ∃ j x, m.job? j = some x ∧ x.task = .dispose ∧ x.stage = .queued

namespace Accounts

variable {m n : Manager} {s t : Site} {x : Job} {stage : Job.Stage} {b : BackendId}

/-- While a job that brings a server up or is about to make one has the slot, that server is the
only one whose disposal was not called. -/
theorem only_coming (h : m.Accounts s) (lined : m.Lined) (hx : m.job? x.id = some x)
    (holds : x.holds) {c : BackendId} (made : c < s.backends.length) (live : s.disposals c = 0) :
    x.stage.coming? = some c := by
  rcases h.kept made live with inside | ⟨i, y, hy, coming⟩
  · simp [h.alone hx holds] at inside
  · have same := lined.holder_unique hx hy holds (Job.holds_of_coming coming)
    subst same
    obtain rfl : x = y := Option.some.inj (hx.symm.trans hy)
    exact coming

/-- While there is a server in the slot it is the only one whose disposal was not called. -/
theorem only_slot (h : m.Accounts s) (inside : m.slot = some b) {c : BackendId}
    (made : c < s.backends.length) (live : s.disposals c = 0) : c = b := by
  rcases h.kept made live with also | ⟨i, y, hy, coming⟩
  · exact Option.some.inj (also.symm.trans inside)
  · simp [h.alone hy (Job.holds_of_coming coming)] at inside

/-- No disposal shuts a server down while a job has the slot. -/
theorem no_parting (h : m.Accounts s) (hx : m.job? x.id = some x) (holds : x.holds)
    {j : JobId} {y : Job} (hy : m.job? j = some y) (task : y.task = .dispose) :
    y.stage.leaving? = none := by
  by_contra leaving
  exact (h.parting hy task leaving).2 hx holds

/-- A step of a job that calls no server and leaves the slot as it is. -/
theorem still (h : m.Accounts s) (hx : m.job? x.id = some x)
    (jobs : ∀ i, n.job? i = if i = x.id then some { x with stage } else m.job? i)
    (slot : n.slot = m.slot) (length : t.backends.length = s.backends.length)
    (disposals : ∀ c, t.disposals c = s.disposals c)
    (started : ∀ c, s.hasStarted c → t.hasStarted c)
    (idle : x.stage.coming? = none) (coming : stage.coming? = none)
    (leaving : stage.leaving? = none)
    (holds : Job.holds { x with stage } → m.slot = none ∧
      ∀ {j y}, m.job? j = some y → y.task = .dispose → y.stage.leaving? = none)
    (disposed : m.disposed → n.disposed)
    (begun : x.task = .dispose → n.disposed)
    (freed : n.disposed → m.disposed ∨ x.task = .dispose ∧ stage = .queued)
    (emptied : x.task = .dispose → x.stage = .queued → m.slot = none) : n.Accounts t where
  slot {b} inside := by
    rw [slot] at inside
    obtain ⟨made, live, up⟩ := h.slot inside
    exact ⟨length ▸ made, (disposals b).trans live, started b up⟩
  coming {j y b} hy server := by
    rw [jobs] at hy
    split at hy
    · obtain rfl := Option.some.inj hy
      simp [coming] at server
    · obtain ⟨made, live⟩ := h.coming hy server
      exact ⟨length ▸ made, (disposals b).trans live⟩
  leaving {j y b} hy server := by
    rw [jobs] at hy
    split at hy
    · obtain rfl := Option.some.inj hy
      simp [leaving] at server
    · exact length ▸ h.leaving hy server
  kept {b} made live := by
    rw [slot]
    rcases h.kept (length ▸ made) ((disposals b).symm.trans live) with inside | ⟨j, y, hy, server⟩
    · exact .inl inside
    · refine .inr ⟨j, y, ?_, server⟩
      have other : j ≠ x.id := by
        rintro rfl
        obtain rfl : x = y := Option.some.inj (hx.symm.trans hy)
        simp [idle] at server
      simpa [jobs, other] using hy
  once b := by
    rw [disposals]
    exact h.once b
  alone {j y} hy has := by
    rw [jobs] at hy
    rw [slot]
    split at hy
    · obtain rfl := Option.some.inj hy
      exact (holds has).1
    · exact h.alone hy has
  closed {j y} hy task late := by
    rw [jobs] at hy
    split at hy
    · obtain rfl := Option.some.inj hy
      exact begun task
    · exact disposed (h.closed hy task late)
  parting {j y} hy task server := by
    rw [jobs] at hy
    split at hy
    · obtain rfl := Option.some.inj hy
      exact absurd leaving server
    · obtain ⟨empty, nobody⟩ := h.parting hy task server
      refine ⟨slot.trans empty, fun {i z} hz has => ?_⟩
      rw [jobs] at hz
      split at hz
      · obtain rfl := Option.some.inj hz
        exact server ((holds has).2 hy task)
      · exact nobody hz has
  emptied shut := by
    rw [slot]
    rcases freed shut with before | ⟨task, queued⟩
    · rcases h.emptied before with empty | ⟨j, y, hy, task, queued⟩
      · exact .inl empty
      · by_cases same : j = x.id
        · subst same
          obtain rfl : x = y := Option.some.inj (hx.symm.trans hy)
          exact .inl (emptied task queued)
        · exact .inr ⟨j, y, by simpa [jobs, same] using hy, task, queued⟩
    · exact .inr ⟨x.id, { x with stage }, by rw [jobs, if_pos rfl], task, queued⟩

/-- A job calls the disposal of the one server that was not disposed of. -/
theorem shut (h : m.Accounts s) (hx : m.job? x.id = some x)
    (jobs : ∀ i, n.job? i = if i = x.id then some { x with stage } else m.job? i)
    (slot : n.slot = none) (length : t.backends.length = s.backends.length)
    (disposals : ∀ c, t.disposals c = s.disposals c + if c = b then 1 else 0)
    (made : b < s.backends.length) (live : s.disposals b = 0)
    (only : ∀ {c}, c < s.backends.length → s.disposals c = 0 → c = b)
    (coming : stage.coming? = none) (leaving : stage.leaving? = some b)
    (disposed : n.disposed = m.disposed) (begun : x.stage ≠ .fresh)
    (others : ∀ {j y}, j ≠ x.id → m.job? j = some y →
      y.stage.coming? = none ∧ (y.task = .dispose → y.stage.leaving? = none))
    (withdraws : x.task = .dispose →
      ¬ Job.holds { x with stage } ∧ ∀ {j y}, m.job? j = some y → ¬ y.holds) : n.Accounts t where
  slot {c} inside := by simp [slot] at inside
  coming {j y c} hy server := by
    rw [jobs] at hy
    split at hy
    · obtain rfl := Option.some.inj hy
      simp [coming] at server
    · next other => simp [(others other hy).1] at server
  leaving {j y c} hy server := by
    rw [jobs] at hy
    split at hy
    · obtain rfl := Option.some.inj hy
      rw [leaving] at server
      exact length ▸ Option.some.inj server ▸ made
    · exact length ▸ h.leaving hy server
  kept {c} made' live' := by
    rw [disposals] at live'
    have same := only (length ▸ made') (by omega)
    simp [same] at live'
  once c := by
    rw [disposals]
    split
    · next same => simp [same, live]
    · exact h.once c
  alone _ _ := slot
  closed {j y} hy task late := by
    rw [jobs] at hy
    rw [disposed]
    split at hy
    · obtain rfl := Option.some.inj hy
      exact h.closed hx task begun
    · exact h.closed hy task late
  parting {j y} hy task server := by
    rw [jobs] at hy
    split at hy
    · obtain rfl := Option.some.inj hy
      obtain ⟨here, elsewhere⟩ := withdraws task
      refine ⟨slot, fun {i z} hz has => ?_⟩
      rw [jobs] at hz
      split at hz
      · exact here (Option.some.inj hz ▸ has)
      · exact elsewhere hz has
    · next other => exact absurd ((others other hy).2 task) server
  emptied _ := .inl slot

/-- A job takes the server out of the slot and calls its disposal. -/
theorem shut_slot (h : m.Accounts s) (named : s.Named) (hx : m.job? x.id = some x)
    (taken : m.slot = some b)
    (jobs : ∀ i, n.job? i = if i = x.id then some { x with stage } else m.job? i)
    (slot : n.slot = none) (coming : stage.coming? = none) (leaving : stage.leaving? = some b)
    (disposed : n.disposed = m.disposed) (begun : x.stage ≠ .fresh)
    (out : x.task = .dispose → ¬ Job.holds { x with stage }) : n.Accounts (s.beginDispose b).1 := by
  obtain ⟨made, live, _⟩ := h.slot taken
  have nobody {j : JobId} {y : Job} (hy : m.job? j = some y) : ¬ y.holds := fun holds => by
    simp [h.alone hy holds] at taken
  refine h.shut hx jobs slot (by simp) (Site.disposals_beginDispose named made) made live
    (fun made => h.only_slot taken made) coming leaving disposed begun ?_
    fun task => ⟨out task, nobody⟩
  intro j y _ hy
  refine ⟨?_, fun task => ?_⟩
  · by_contra coming
    obtain ⟨c, coming⟩ := Option.ne_none_iff_exists'.mp coming
    exact nobody hy (Job.holds_of_coming coming)
  · by_contra leaving
    simp [(h.parting hy task leaving).1] at taken

/-- A job calls the disposal of the server that it was to bring up. -/
theorem shut_coming (h : m.Accounts s) (lined : m.Lined) (named : s.Named)
    (hx : m.job? x.id = some x) (up : x.stage.coming? = some b) (options : Options)
    (jobs : ∀ i, n.job? i = if i = x.id then some { x with stage } else m.job? i)
    (slot : n.slot = m.slot) (coming : stage.coming? = none) (leaving : stage.leaving? = some b)
    (disposed : n.disposed = m.disposed) (begun : x.stage ≠ .fresh) (other : x.task ≠ .dispose) :
    n.Accounts ((s.endStart b options).1.beginDispose b).1 := by
  have holds := Job.holds_of_coming up
  obtain ⟨made, live⟩ := h.coming hx up
  refine h.shut hx jobs (slot.trans (h.alone hx holds)) (by simp) ?_ made live ?_ coming leaving
    disposed begun ?_ (absurd · other)
  · intro c
    rw [Site.disposals_beginDispose (Site.named_endStart named b options) (by simpa using made),
      Site.disposals, Site.tally_endStart named made _ rfl rfl]
    rfl
  · intro c made live
    exact Option.some.inj ((h.only_coming lined hx holds made live).symm.trans up)
  · intro j y apart hy
    refine ⟨?_, fun task => h.no_parting hx holds hy task⟩
    by_contra also
    obtain ⟨c, also⟩ := Option.ne_none_iff_exists'.mp also
    exact apart (lined.holder_unique hx hy holds (Job.holds_of_coming also))

/-- A job that has the slot makes a server. -/
theorem create (h : m.Accounts s) (lined : m.Lined) (hx : m.job? x.id = some x) (holds : x.holds)
    (idle : x.stage.coming? = none)
    (jobs : ∀ i, n.job? i = if i = x.id then some { x with stage } else m.job? i)
    (slot : n.slot = m.slot) (length : t.backends.length = s.backends.length + 1)
    (disposals : ∀ c, t.disposals c = s.disposals c) (coming : stage.coming? = some b)
    (new : b = s.backends.length) (fresh : s.disposals b = 0) (leaving : stage.leaving? = none)
    (disposed : n.disposed = m.disposed) (begun : x.stage ≠ .fresh) : n.Accounts t where
  slot {c} inside := by simp [slot, h.alone hx holds] at inside
  coming {j y c} hy server := by
    rw [jobs] at hy
    split at hy
    · obtain rfl := Option.some.inj hy
      rw [coming] at server
      obtain rfl := Option.some.inj server
      exact ⟨by rw [length, new]; exact Nat.lt_succ_self _, (disposals b).trans fresh⟩
    · obtain ⟨made, live⟩ := h.coming hy server
      exact ⟨length ▸ Nat.lt_succ_of_lt made, (disposals c).trans live⟩
  leaving {j y c} hy server := by
    rw [jobs] at hy
    split at hy
    · obtain rfl := Option.some.inj hy
      simp [leaving] at server
    · exact length ▸ Nat.lt_succ_of_lt (h.leaving hy server)
  kept {c} made live := by
    refine .inr ⟨x.id, { x with stage }, by rw [jobs, if_pos rfl], ?_⟩
    by_cases old : c < s.backends.length
    · have server := h.only_coming lined hx holds old ((disposals c).symm.trans live)
      simp [idle] at server
    · have last : c = b := by
        rw [length] at made
        exact (Nat.le_antisymm (Nat.le_of_lt_succ made) (Nat.le_of_not_lt old)).trans new.symm
      exact last ▸ coming
  once c := by
    rw [disposals]
    exact h.once c
  alone _ _ := slot.trans (h.alone hx holds)
  closed {j y} hy task late := by
    rw [jobs] at hy
    rw [disposed]
    split at hy
    · obtain rfl := Option.some.inj hy
      exact h.closed hx task begun
    · exact h.closed hy task late
  parting {j y} hy task server := by
    rw [jobs] at hy
    split at hy
    · obtain rfl := Option.some.inj hy
      exact absurd leaving server
    · exact absurd (h.no_parting hx holds hy task) server
  emptied _ := .inl (slot.trans (h.alone hx holds))

/-- A server that has come up takes the slot. -/
theorem settle (h : m.Accounts s) (lined : m.Lined) (hx : m.job? x.id = some x)
    (up : x.stage.coming? = some b)
    (jobs : ∀ i, n.job? i = if i = x.id then some { x with stage } else m.job? i)
    (slot : n.slot = some b) (length : t.backends.length = s.backends.length)
    (disposals : ∀ c, t.disposals c = s.disposals c) (started : t.hasStarted b)
    (coming : stage.coming? = none) (leaving : stage.leaving? = none)
    (out : ¬ Job.holds { x with stage }) (live : n.disposed = false) (before : m.disposed = false)
    (begun : x.stage ≠ .fresh) : n.Accounts t where
  slot {c} inside := by
    obtain rfl : b = c := Option.some.inj (slot.symm.trans inside)
    obtain ⟨made, live⟩ := h.coming hx up
    exact ⟨length ▸ made, (disposals b).trans live, started⟩
  coming {j y c} hy server := by
    rw [jobs] at hy
    split at hy
    · obtain rfl := Option.some.inj hy
      simp [coming] at server
    · obtain ⟨made, live⟩ := h.coming hy server
      exact ⟨length ▸ made, (disposals c).trans live⟩
  leaving {j y c} hy server := by
    rw [jobs] at hy
    split at hy
    · obtain rfl := Option.some.inj hy
      simp [leaving] at server
    · exact length ▸ h.leaving hy server
  kept {c} made live := by
    have server := h.only_coming lined hx (Job.holds_of_coming up) (length ▸ made)
      ((disposals c).symm.trans live)
    exact .inl (slot.trans (up.symm.trans server))
  once c := by
    rw [disposals]
    exact h.once c
  alone {j y} hy has := by
    rw [jobs] at hy
    split at hy
    · exact absurd (Option.some.inj hy ▸ has) out
    · next other => exact absurd (lined.holder_unique hx hy (Job.holds_of_coming up) has) other
  closed {j y} hy task late := by
    rw [jobs] at hy
    split at hy
    · obtain rfl := Option.some.inj hy
      simp [h.closed hx task begun] at before
    · simp [h.closed hy task late] at before
  parting {j y} hy task server := by
    rw [jobs] at hy
    split at hy
    · obtain rfl := Option.some.inj hy
      exact absurd leaving server
    · exact absurd (h.no_parting hx (Job.holds_of_coming up) hy task) server
  emptied shut := by simp [live] at shut

/-- What happens aside changes no account. -/
theorem aside (h : m.Accounts s) {new : Job.Task → Prop} (aside : Aside new m n)
    (site : s.SameServers t) : n.Accounts t where
  slot {b} inside := by
    rw [aside.slot] at inside
    obtain ⟨made, live, up⟩ := h.slot inside
    refine ⟨site.backends ▸ made, (site.tally _ b).trans live, ?_⟩
    rwa [Site.hasStarted, site.tally]
  coming {j y b} hy server := by
    rcases aside.old hy with old | ⟨fresh, _⟩
    · obtain ⟨made, live⟩ := h.coming old server
      exact ⟨site.backends ▸ made, (site.tally _ b).trans live⟩
    · simp [fresh, Job.Stage.coming?] at server
  leaving {j y b} hy server := by
    rcases aside.old hy with old | ⟨fresh, _⟩
    · exact site.backends ▸ h.leaving old server
    · simp [fresh, Job.Stage.leaving?] at server
  kept {b} made live := by
    rw [aside.slot]
    rw [site.backends] at made
    rcases h.kept made ((site.tally _ b).symm.trans live) with inside | ⟨j, y, hy, server⟩
    · exact .inl inside
    · refine .inr ⟨j, y, aside.kept hy fun done => ?_, server⟩
      cases stage : y.stage <;> simp_all [Job.isDone, Job.Stage.coming?]
  once b := by
    rw [Site.disposals, site.tally]
    exact h.once b
  alone {j y} hy holds := by
    rw [aside.slot]
    rcases aside.old hy with old | ⟨fresh, _⟩
    · exact h.alone old holds
    · simp [fresh, Job.holds] at holds
  closed {j y} hy task begun := by
    rw [aside.disposed]
    rcases aside.old hy with old | ⟨fresh, _⟩
    · exact h.closed old task begun
    · exact absurd fresh begun
  parting {j y} hy task server := by
    rw [aside.slot]
    rcases aside.old hy with old | ⟨fresh, _⟩
    · obtain ⟨empty, nobody⟩ := h.parting old task server
      refine ⟨empty, fun hz holds => ?_⟩
      rcases aside.old hz with also | ⟨fresh, _⟩
      · exact nobody also holds
      · simp [fresh, Job.holds] at holds
    · simp [fresh, Job.Stage.leaving?] at server
  emptied shut := by
    rw [aside.slot]
    rw [aside.disposed] at shut
    rcases h.emptied shut with empty | ⟨j, y, hy, task, queued⟩
    · exact .inl empty
    · exact .inr ⟨j, y, aside.kept hy (by simp [Job.isDone, queued]), task, queued⟩

end Accounts

section

variable {m n : Manager} {s t : Site} {x : Job}

/-- Every step of a job gives names as `Site.create` does, or none. -/
theorem named_jobStep (named : s.Named) (step : JobStep m s x n t) : t.Named := by
  cases step with
  | bind | come | close | bound | launch | quit => exact named
  | retire | withdraw => exact Site.named_beginDispose named _
  | relaunch | part => exact Site.named_endDispose named _
  | create stage made =>
    obtain rfl : _ = _ := congrArg Prod.fst made
    exact Site.named_noteBackend (Site.named_create named _ _) _ _
  | uncreated stage made =>
    obtain rfl : _ = t := congrArg Prod.fst made
    exact Site.named_create named _ _
  | discard stage failed =>
    obtain rfl : _ = _ := congrArg Prod.fst failed
    exact Site.named_beginDispose (Site.named_endStart named _ _) _
  | retract stage up disposed =>
    obtain rfl : _ = _ := congrArg Prod.fst up
    exact Site.named_beginDispose (Site.named_endStart named _ _) _
  | settle stage up live =>
    obtain rfl : _ = t := congrArg Prod.fst up
    exact Site.named_endStart named _ _

/-- Every step of a job keeps the accounts, if first starts get the slot before there is a
server. -/
theorem accounts_jobStep (h : m.Accounts s) (lined : m.Lined) (named : s.Named)
    (hx : m.job? x.id = some x)
    (early : x.isStart → x.stage = .queued → m.slot = none ∧ s.backends = [])
    (step : JobStep m s x n t) : n.Accounts t := by
  have fits := lined.fits hx
  cases step with
  | bind stage task live first =>
    refine h.still hx (job?_at rfl hx _) rfl rfl (fun _ => rfl) (fun _ => id) ?_ rfl rfl ?_ id ?_
      .inl ?_
    · simp [stage, Job.Stage.coming?]
    · simp [Job.holds]
    · simp [task]
    · simp [task]
  | come stage task =>
    have other : x.task ≠ .dispose := by rcases task with task | task <;> simp [task]
    refine h.still hx (job?_at rfl hx _) rfl rfl (fun _ => rfl) (fun _ => id) ?_ rfl rfl ?_ id
      (absurd · other) .inl (absurd · other)
    · simp [stage, Job.Stage.coming?]
    · simp [Job.holds]
  | close stage task live =>
    refine h.still hx (job?_at rfl hx _) rfl rfl (fun _ => rfl) (fun _ => id) ?_ rfl rfl ?_
      (fun _ => rfl) (fun _ => rfl) (fun _ => .inr ⟨task, rfl⟩) ?_
    · simp [stage, Job.Stage.coming?]
    · simp [Job.holds]
    · simp [stage]
  | bound stage =>
    have other : x.task ≠ .dispose := fun task => by simp [Job.fits, stage, task] at fits
    refine h.still hx (job?_at rfl hx _) rfl rfl (fun _ => rfl) (fun _ => id) ?_ rfl rfl ?_ id
      (absurd · other) .inl (absurd · other)
    · simp [stage, Job.Stage.coming?]
    · simp [Job.holds]
  | @launch scope stage head task =>
    have other : x.task ≠ .dispose := by rcases task with task | ⟨task, _⟩ <;> simp [task]
    refine h.still hx (job?_at rfl hx _) rfl rfl (fun _ => rfl) (fun _ => id) ?_ rfl rfl ?_ id
      (absurd · other) .inl (absurd · other)
    · simp [stage, Job.Stage.coming?]
    · intro _
      rcases task with task | ⟨task, live, _, empty⟩
      · -- nothing was made yet, so nothing shuts down
        obtain ⟨empty, none⟩ := early (by simp [Job.isStart, task]) stage
        refine ⟨empty, fun {j y} hy _ => ?_⟩
        by_contra leaving
        obtain ⟨b, leaving⟩ := Option.ne_none_iff_exists'.mp leaving
        have made := h.leaving hy leaving
        simp [none] at made
      · refine ⟨empty, fun {j y} hy task => ?_⟩
        have fresh : y.stage = .fresh := by
          by_contra begun
          simp [h.closed hy task begun] at live
        simp [fresh, Job.Stage.leaving?]
  | @retire b stage head task live slot =>
    exact h.shut_slot named hx slot (job?_at rfl hx _) rfl rfl rfl rfl (by simp [stage])
      (by simp [task])
  | @withdraw b stage head task slot =>
    exact h.shut_slot named hx slot (job?_at rfl hx _) rfl rfl rfl rfl (by simp [stage])
      (by simp [Job.holds, task])
  | @relaunch b due scope stage bound =>
    have holds : x.holds := by simp [Job.holds, stage]
    have other : x.task ≠ .dispose := fun task => by simp [Job.fits, stage, task] at fits
    refine h.still hx (job?_at rfl hx _) rfl (by simp) ?_ ?_ ?_ rfl rfl ?_ id
      (absurd · other) .inl (absurd · other)
    · exact fun c => Site.tally_endDispose named rfl c
    · intro c up
      rwa [Site.hasStarted, Site.tally_endDispose named rfl]
    · simp [stage, Job.Stage.coming?]
    · exact fun _ => ⟨h.alone hx holds, fun hy task => h.no_parting hx holds hy task⟩
  | @create scope provider options b t' stage made =>
    obtain ⟨last, length⟩ := Site.create_ok made
    obtain rfl : _ = t' := congrArg Prod.fst made
    have named' := Site.named_create named m.variant scope
    have new : b < (s.create m.variant scope).1.backends.length := by
      rw [length, last]
      exact Nat.lt_succ_self _
    refine h.create lined hx (by simp [Job.holds, stage]) (by simp [stage, Job.Stage.coming?])
      (job?_at rfl hx _) rfl ?_ ?_ (b := b) rfl last ?_ rfl rfl (by simp [stage])
    · rw [Site.beginStart_site, Site.backends_noteBackend, length]
    · intro c
      rw [Site.disposals, Site.beginStart_site, Site.tally_noteBackend named' new,
        Site.tally_create named _ _ rfl]
      simp [Site.disposals, BackendEvent.isDispose]
    · exact Site.tally_of_ge (Nat.le_of_eq last.symm) _
  | @uncreated scope provider options e t' stage made =>
    have other : x.task ≠ .dispose := fun task => by simp [Job.fits, stage, task] at fits
    have length := congrArg List.length (Site.create_error made)
    obtain rfl : _ = t := congrArg Prod.fst made
    refine h.still hx (job?_at rfl hx _) rfl length ?_ ?_ ?_ rfl rfl ?_ id
      (absurd · other) .inl (absurd · other)
    · exact fun c => Site.tally_create named _ _ rfl c
    · intro c up
      rwa [Site.hasStarted, Site.tally_create named _ _ rfl]
    · simp [stage, Job.Stage.coming?]
    · simp [Job.holds]
  | @discard b due options e t' stage failed =>
    have other : x.task ≠ .dispose := fun task => by simp [Job.fits, stage, task] at fits
    obtain rfl : _ = t' := congrArg Prod.fst failed
    exact h.shut_coming lined named hx (by simp [stage, Job.Stage.coming?]) options
      (job?_at rfl hx _) rfl rfl rfl rfl (by simp [stage]) other
  | @retract b due options t' stage up disposed =>
    have other : x.task ≠ .dispose := fun task => by simp [Job.fits, stage, task] at fits
    obtain rfl : _ = t' := congrArg Prod.fst up
    exact h.shut_coming lined named hx (by simp [stage, Job.Stage.coming?]) options
      (job?_at rfl hx _) rfl rfl rfl rfl (by simp [stage]) other
  | @settle b due options t' stage up live =>
    have coming : x.stage.coming? = some b := by simp [stage, Job.Stage.coming?]
    have made := (h.coming hx coming).1
    have started := Site.hasStarted_endStart named made up
    obtain rfl : _ = t := congrArg Prod.fst up
    refine h.settle lined hx coming (job?_at rfl hx _) rfl (by simp) ?_ started rfl rfl ?_ live live
      (by simp [stage])
    · exact fun c => Site.tally_endStart named made _ rfl rfl c
    · simp [Job.holds]
  | @part b o stage start =>
    refine h.still hx (job?_at rfl hx _) rfl (by simp) ?_ ?_ ?_ rfl rfl ?_ id ?_ .inl ?_
    · exact fun c => Site.tally_endDispose named rfl c
    · intro c up
      rwa [Site.hasStarted, Site.tally_endDispose named rfl]
    · cases at_stage : x.stage <;> simp_all [Job.Stage.leaving?, Job.Stage.coming?]
    · simp [Job.holds]
    · intro task
      refine h.closed hx task fun fresh => ?_
      simp [fresh, Job.Stage.leaving?] at stage
    · intro _ queued
      simp [queued, Job.Stage.leaving?] at stage
  | @quit o provider live leaving coming start closed empty =>
    refine h.still hx (job?_at rfl hx _) rfl rfl (fun _ => rfl) (fun _ => id) coming rfl rfl ?_ id
      ?_ .inl ?_
    · simp [Job.holds]
    · intro task
      by_cases fresh : x.stage = .fresh
      · exact closed task fresh
      · exact h.closed hx task fresh
    · exact fun task queued => empty task (by simp [queued])

end

end Manager

end LanguageBroker
