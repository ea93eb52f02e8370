import LanguageBroker.Proofs.ManagerPhases
import LanguageBroker.Proofs.ServerAccounts

/-!
Managers that share a site. Each has at most one server, and one step of a job makes that server,
or calls its disposal, or leaves all servers as they are. What belongs to other managers is not
touched.
-/

namespace LanguageBroker

/-- Is it a first start that has not come for the slot yet? -/
def Job.isEarly (x : Job) : Bool :=
  match x.stage with
  | .fresh | .binding _ => x.isStart
  | _ => false

theorem Job.isStart_of_isEarly {x : Job} (early : x.isEarly) : x.isStart := by
  unfold Job.isEarly at early
  split at early
  · exact early
  · exact early
  · simp at early

namespace Site

/-- Servers keep their places and names, and what has come up stays so. -/
structure Grows (s t : Site) : Prop where
  name : ∀ {b x}, s.backend? b = some x → ∃ y, t.backend? b = some y ∧ y.name = x.name
  started : s.Named → ∀ {b}, s.hasStarted b → t.hasStarted b
  named : s.Named → t.Named

namespace Grows

variable {s t u : Site}

theorem refl (s : Site) : s.Grows s := ⟨fun h => ⟨_, h, rfl⟩, fun _ _ => id, id⟩

theorem trans (h : s.Grows t) (h' : t.Grows u) : s.Grows u where
  name found := by
    obtain ⟨y, hy, same⟩ := h.name found
    obtain ⟨z, hz, also⟩ := h'.name hy
    exact ⟨z, hz, also.trans same⟩
  started named _ up := h'.started (h.named named) (h.started named up)
  named := h'.named ∘ h.named

theorem of_calm (calm : s.Calm t) : s.Grows t where
  name {b x} found := by
    have names := calm.names b
    rw [found, Option.map_some] at names
    exact Option.map_eq_some_iff.mp names
  started _ _ up := (calm.hasStarted _).mpr up
  named := calm.named

theorem noteBackend (s : Site) (b : BackendId) (e : BackendEvent) :
    s.Grows (s.noteBackend b e) where
  name found := ⟨_, (backend?_noteBackend ..).trans found, rfl⟩
  started named c up := by
    by_cases made : b < s.backends.length
    · rw [hasStarted, tally_noteBackend named made]
      exact Nat.lt_of_lt_of_le up (Nat.le_add_right _ _)
    · have missing : s.backend? b = none := List.getElem?_eq_none (Nat.le_of_not_lt made)
      simpa [Site.noteBackend, missing] using up
  named named := named_noteBackend named b e

theorem beginDispose (s : Site) (b : BackendId) : s.Grows (s.beginDispose b).1 :=
  (of_calm (.modifyMiddleware s b _)).trans (noteBackend _ b .dispose)

theorem endDispose (s : Site) (b : BackendId) : s.Grows (s.endDispose b) := by
  unfold Site.endDispose
  split
  · split
    · exact refl s
    · exact noteBackend s b .disposed
  · exact refl s

theorem endStart (s : Site) (b : BackendId) (options : Options) :
    s.Grows (s.endStart b options).1 := by
  rcases endStart_cases s b options with ⟨_, same⟩ | ⟨e, same⟩ | ⟨f, same⟩ <;> rw [same]
  · exact refl s
  · exact noteBackend s b .failed
  · exact (noteBackend s b .started).trans (of_calm (.modifyMiddleware _ b f))

theorem create (s : Site) (variant : Variant) (scope : Scope) :
    s.Grows (s.create variant scope).1 where
  name {b x} found := by
    refine ⟨x, ?_, rfl⟩
    have inside := lt_of_backend? found
    rcases create_cases s variant scope with ⟨e, _, same⟩ | ⟨y, _, _, more⟩
    · simpa [backend?, same] using found
    · simpa [backend?, more, List.getElem?_append_left inside] using found
  started named b up := by
    rwa [hasStarted, tally_create named _ _ rfl]
  named named := named_create named variant scope

end Grows

theorem disposals_endStart_beginDispose {s : Site} (named : s.Named) {b : BackendId}
    (made : b < s.backends.length) (options : Options) (c : BackendId) :
    ((s.endStart b options).1.beginDispose b).1.disposals c =
      s.disposals c + if c = b then 1 else 0 := by
  rw [disposals_beginDispose (named_endStart named b options) (by simpa using made), disposals,
    tally_endStart named made _ rfl rfl]
  rfl

/-- The server that has just been made. -/
theorem backend?_of_create {s t : Site} {variant : Variant} {scope : Scope} {b : BackendId}
    (made : s.create variant scope = (t, .ok b)) :
    ∃ x, t.backend? b = some x ∧ x.name = s.nextName variant scope.key := by
  rcases create_cases s variant scope with ⟨e, out, _⟩ | ⟨x, name, out, more⟩
  · simp [made] at out
  · simp only [made, Except.ok.injEq] at out more
    subst out
    exact ⟨x, by simp [backend?, more], name⟩

/-- Nothing has happened to a server before its start. -/
theorem eventsOf_beginStart {s t : Site} (named : s.Named) {variant : Variant} {scope : Scope}
    {b : BackendId} {x : Backend} (made : s.create variant scope = (t, .ok b))
    (found : t.backend? b = some x) (name : x.name = s.nextName variant scope.key)
    (options : Options) :
    (t.beginStart b options).1.eventsOf x.name = [.create, .start options] := by
  have events := eventsOf_create s variant scope x.name
  rw [made, name, eventsOf_nextName named] at events
  rw [beginStart_site, eventsOf_noteBackend found, if_pos rfl, name, events]
  simp

end Site

namespace Manager

variable {m n : Manager} {s t : Site} {x : Job} {stage : Job.Stage}

theorem JobStep.head (step : JobStep m s x n t) {i : JobId} (other : i ≠ x.id)
    (head : m.line.head? = some i) : n.line.head? = some i := by
  cases step with
  | come | close | bound =>
    obtain ⟨rest, line⟩ := List.head?_eq_some_iff.mp head
    simp [put, enqueue, silence, line]
  | withdraw | uncreated | settle | part | quit => exact Lined.head?_leave head other
  | _ => exact head

theorem JobStep.variant (step : JobStep m s x n t) : n.variant = m.variant := by
  cases step <;> rfl

/-! One server at a time. -/

/-- Whoever has the slot finds it empty. -/
def Alone (m : Manager) : Prop := ∀ {j x}, m.job? j = some x → x.holds → m.slot = none

/-- Whoever has the slot finds it empty, and a first start comes for it before everybody else. -/
structure Clear (m : Manager) : Prop where
  alone : m.Alone
  early : ∀ {j x}, m.job? j = some x → x.isEarly →
    m.restarter = none ∧ m.slot = none ∧ ∀ {i y}, m.job? i = some y → i = j
  next : ∀ {j x}, m.job? j = some x → x.isStart → x.stage = .queued →
    m.slot = none ∧ m.line.head? = some j
  closed : ∀ {j x}, m.job? j = some x → x.task = .dispose → x.stage ≠ .fresh → m.disposed
  aimed : ∀ {j x scope}, m.job? j = some x → x.aim? = some scope → m.scope = some scope

/-- No first start is on its way or has just ended. -/
def Begun (m : Manager) : Prop := ∀ {i x}, m.job? i = some x → x.isStart = false

namespace Clear

private theorem advance (h : m.Clear) (lined : m.Lined) (hx : m.job? x.id = some x)
    (step : JobStep m s x n t)
    (jobs : ∀ i, n.job? i = if i = x.id then some { x with stage } else m.job? i)
    (holds : Job.holds { x with stage } → n.slot = none)
    (early : Job.isEarly { x with stage } →
      x.isEarly ∧ n.restarter = m.restarter ∧ n.slot = m.slot)
    (next : x.isStart → stage = .queued → n.slot = none ∧ n.line.head? = some x.id) :
    n.Clear where
  alone {j y} hy has := by
    rw [jobs] at hy
    split at hy
    · exact holds (Option.some.inj hy ▸ has)
    · next other =>
      have empty := h.alone hy has
      rcases step.slot with same | none | up
      · exact same.trans empty
      · exact none
      · cases coming : x.stage.coming? with
        | none => exact up.trans coming
        | some b => exact absurd (lined.holder_unique hx hy (Job.holds_of_coming coming) has) other
  early {j y} hy first := by
    rw [jobs] at hy
    split at hy
    · next here =>
      obtain rfl := Option.some.inj hy
      obtain ⟨before, restarter, slot⟩ := early first
      obtain ⟨idle, empty, only⟩ := h.early hx before
      refine ⟨restarter.trans idle, slot.trans empty, fun {i z} hz => ?_⟩
      rw [jobs] at hz
      split at hz
      · next also => exact also.trans here.symm
      · exact here ▸ only hz
    · next other => exact absurd ((h.early hy first).2.2 hx).symm other
  next {j y} hy start queued := by
    rw [jobs] at hy
    split at hy
    · next here =>
      obtain rfl := Option.some.inj hy
      exact here ▸ next start queued
    · next other =>
      obtain ⟨empty, head⟩ := h.next hy start queued
      refine ⟨?_, step.head other head⟩
      rcases step.slot with same | none | up
      · exact same.trans empty
      · exact none
      · cases coming : x.stage.coming? with
        | none => exact up.trans coming
        | some b =>
          have waits : ¬ y.holds := by simp [Job.holds, queued]
          exact absurd (Job.holds_of_coming coming) (lined.not_holds hy head waits hx)
  closed {j y} hy task begun := by
    rw [jobs] at hy
    split at hy
    · obtain rfl := Option.some.inj hy
      by_cases fresh : x.stage = .fresh
      · exact step.disposed_of_dispose task fresh
      · exact step.disposed (h.closed hx task fresh)
    · exact step.disposed (h.closed hy task begun)
  aimed {j y scope} hy aim := by
    obtain ⟨_, advance⟩ := step.advance
    rw [job?_of_jobs hx advance.jobs] at hy
    split at hy
    · obtain rfl := Option.some.inj hy
      rcases advance.aims scope aim with before | bound
      · rcases step.scope with same | ⟨_, _, _, fresh⟩
        · exact same.trans (h.aimed hx before)
        · simp [Job.aim?, fresh] at before
      · exact bound
    · next other =>
      rcases step.scope with same | ⟨_, _, task, fresh⟩
      · exact same.trans (h.aimed hy aim)
      · have early : x.isEarly := by simp [Job.isEarly, Job.isStart, fresh, task]
        exact absurd ((h.early hx early).2.2 hy) other

/-- Nobody is in line before a first start. -/
private theorem line_of_isEarly (h : m.Clear) (lined : m.Lined) (hx : m.job? x.id = some x)
    (early : x.isEarly) (out : ¬ x.inLine) : m.line = [] := by
  rw [List.eq_nil_iff_forall_not_mem]
  intro i inside
  obtain ⟨y, hy, waits⟩ := (lined.mem_line i).mp inside
  obtain rfl := (h.early hx early).2.2 hy
  obtain rfl := Option.some.inj (hx.symm.trans hy)
  exact out waits

theorem jobStep (h : m.Clear) (lined : m.Lined) (hx : m.job? x.id = some x)
    (step : JobStep m s x n t) : n.Clear := by
  have fits := lined.fits hx
  have alone : x.holds → m.slot = none := h.alone hx
  have unheld (o : Job.Outcome) : ¬ Job.holds { x with stage := .done o } := by simp [Job.holds]
  have whole := step
  cases step with
  | @bind scope stage task live first =>
    refine h.advance lined hx whole (job?_at rfl hx _) ?_ ?_ (by simp)
    · simp [Job.holds]
    · exact fun _ => ⟨by simp [Job.isEarly, Job.isStart, stage, task], rfl, rfl⟩
  | come stage task =>
    refine h.advance lined hx whole (job?_at rfl hx _) ?_ ?_ ?_
    · simp [Job.holds]
    · simp [Job.isEarly]
    · intro start
      rcases task with task | task <;> simp [Job.isStart, task] at start
  | close stage task live =>
    refine h.advance lined hx whole (job?_at rfl hx _) ?_ ?_ ?_
    · simp [Job.holds]
    · simp [Job.isEarly]
    · simp [Job.isStart, task]
  | bound stage =>
    refine h.advance lined hx whole (job?_at rfl hx _) ?_ ?_ fun start _ => ?_
    · simp [Job.holds]
    · simp [Job.isEarly]
    · have early : x.isEarly := by simpa [Job.isEarly, stage] using start
      have line := h.line_of_isEarly lined hx early (by simp [Job.inLine, Job.holds, stage])
      exact ⟨(h.early hx early).2.1, by simp [put, enqueue, line]⟩
  | launch stage head task =>
    refine h.advance lined hx whole (job?_at rfl hx _) (fun _ => ?_) ?_
      (by simp)
    · rcases task with task | ⟨_, _, _, empty⟩
      · exact (h.next hx (by simp [Job.isStart, task]) stage).1
      · exact empty
    · simp [Job.isEarly]
  | retire stage head task live slot =>
    exact h.advance lined hx whole (job?_at rfl hx _)
      (fun _ => rfl) (by simp [Job.isEarly]) (by simp)
  | withdraw stage head task slot =>
    exact h.advance lined hx whole (job?_at rfl hx _)
      (fun _ => rfl) (by simp [Job.isEarly]) (by simp)
  | relaunch stage bound =>
    exact h.advance lined hx whole (job?_at rfl hx _)
      (fun _ => alone (by simp [Job.holds, stage])) (by simp [Job.isEarly]) (by simp)
  | create stage made =>
    exact h.advance lined hx whole (job?_at rfl hx _)
      (fun _ => alone (by simp [Job.holds, stage])) (by simp [Job.isEarly]) (by simp)
  | discard stage failed =>
    exact h.advance lined hx whole (job?_at rfl hx _)
      (fun _ => alone (by simp [Job.holds, stage])) (by simp [Job.isEarly]) (by simp)
  | retract stage up disposed =>
    exact h.advance lined hx whole (job?_at rfl hx _)
      (fun _ => alone (by simp [Job.holds, stage])) (by simp [Job.isEarly]) (by simp)
  | uncreated stage made =>
    exact h.advance lined hx whole (job?_at rfl hx _)
      (absurd · (unheld _)) (by simp [Job.isEarly]) (by simp)
  | settle stage up live =>
    exact h.advance lined hx whole (job?_at rfl hx _)
      (absurd · (unheld _)) (by simp [Job.isEarly]) (by simp)
  | part stage start =>
    exact h.advance lined hx whole (job?_at rfl hx _)
      (absurd · (unheld _)) (by simp [Job.isEarly]) (by simp)
  | quit live leaving coming start closed empty =>
    exact h.advance lined hx whole (job?_at rfl hx _)
      (absurd · (unheld _)) (by simp [Job.isEarly]) (by simp)

theorem aside (h : m.Clear) (lined : m.Lined) (aside : Aside m.renews m n) : n.Clear where
  alone {j x} hx holds := by
    rw [aside.slot]
    rcases aside.old hx with old | ⟨fresh, _⟩
    · exact h.alone old holds
    · simp [Job.holds, fresh] at holds
  early {j x} hx early := by
    rcases aside.old hx with old | ⟨_, _, task, _⟩
    · obtain ⟨idle, empty, only⟩ := h.early old early
      refine ⟨aside.unready idle, aside.slot.trans empty, fun {i y} hy => ?_⟩
      rcases aside.old hy with also | ⟨_, _, _, ready⟩
      · exact only also
      · exact absurd idle ready
    · exact absurd (Job.isStart_of_isEarly early) (by simp [Job.isStart, task])
  next {j x} hx start queued := by
    rw [aside.slot, aside.line lined]
    rcases aside.old hx with old | ⟨fresh, _⟩
    · exact h.next old start queued
    · simp [fresh] at queued
  closed {j x} hx task begun := by
    rw [aside.disposed]
    rcases aside.old hx with old | ⟨fresh, _⟩
    · exact h.closed old task begun
    · exact absurd fresh begun
  aimed {j x scope} hx aim := by
    rw [aside.scope]
    rcases aside.old hx with old | ⟨fresh, _⟩
    · exact h.aimed old aim
    · simp [Job.aim?, fresh] at aim

theorem forget (h : m.Clear) (j : JobId) : (m.forget j).Clear where
  alone hx holds := h.alone (job?_of_forget hx) holds
  early hx early := by
    obtain ⟨idle, empty, only⟩ := h.early (job?_of_forget hx) early
    exact ⟨idle, empty, fun hy => only (job?_of_forget hy)⟩
  next {i x} hx start queued := by
    have other : i ≠ j := by
      rintro rfl
      simp [job?_forget] at hx
    obtain ⟨empty, head⟩ := h.next (job?_of_forget hx) start queued
    exact ⟨empty, Lined.head?_leave head other⟩
  closed hx task begun := h.closed (job?_of_forget hx) task begun
  aimed hx aim := h.aimed (job?_of_forget hx) aim

/-- Somebody asks a manager whose first start is over. -/
theorem ask (h : m.Clear) (lined : m.Lined) (begun : m.Begun) {task : Job.Task}
    (other : ∀ scope, task ≠ .start scope) : (m.ask task).1.Clear := by
  have jobs {i : JobId} {x : Job} (hx : (m.ask task).1.job? i = some x) :
      x.isStart = false ∧ (m.job? i = some x ∨ x.stage = .fresh) := by
    rw [job?_ask lined.free] at hx
    split at hx
    · obtain rfl := Option.some.inj hx
      refine ⟨?_, .inr rfl⟩
      cases task <;> simp_all [Job.isStart]
    · exact ⟨begun hx, .inl hx⟩
  refine ⟨fun hx holds => ?_, fun hx early => ?_, fun hx start => ?_, fun hx task late => ?_,
    fun hx aim => ?_⟩
  · rcases (jobs hx).2 with old | fresh
    · exact h.alone old holds
    · simp [Job.holds, fresh] at holds
  · exact absurd (Job.isStart_of_isEarly early) (by simp [(jobs hx).1])
  · simp [(jobs hx).1] at start
  · rcases (jobs hx).2 with old | fresh
    · exact h.closed old task late
    · exact absurd fresh late
  · rcases (jobs hx).2 with old | fresh
    · exact h.aimed old aim
    · simp [Job.aim?, fresh] at aim

end Clear

/-! What a step does to the servers. -/

theorem JobStep.grows (step : JobStep m s x n t) : s.Grows t := by
  cases step with
  | bind | come | close | bound | launch | quit => exact .refl s
  | retire | withdraw => exact .beginDispose ..
  | relaunch | part => exact .endDispose ..
  | create stage made =>
    obtain rfl : _ = _ := congrArg Prod.fst made
    exact (Site.Grows.create ..).trans (.noteBackend ..)
  | uncreated stage made =>
    obtain rfl : _ = t := congrArg Prod.fst made
    exact .create ..
  | discard stage failed =>
    obtain rfl : _ = _ := congrArg Prod.fst failed
    exact (Site.Grows.endStart ..).trans (.beginDispose ..)
  | retract stage up disposed =>
    obtain rfl : _ = _ := congrArg Prod.fst up
    exact (Site.Grows.endStart ..).trans (.beginDispose ..)
  | settle stage up live =>
    obtain rfl : _ = t := congrArg Prod.fst up
    exact .endStart ..

/-- Only a server that has come up gets into the slot. -/
theorem JobStep.started (step : JobStep m s x n t) (named : s.Named)
    (hx : m.job? x.id = some x) (made : ∀ {b}, m.Has b → b < s.backends.length) {b : BackendId}
    (inside : n.slot = some b) : m.slot = some b ∨ t.hasStarted b := by
  cases step with
  | @settle c due options t' stage up live =>
    obtain rfl : c = b := Option.some.inj inside
    have coming : m.Has c := .inr ⟨x.id, x, hx, by simp [stage, Job.Stage.coming?]⟩
    exact .inr (Site.hasStarted_endStart named (made coming) up)
  | retire | withdraw => simp [put, leave] at inside
  | _ => exact .inl inside

inductive Keeping (m n : Manager) (s t : Site) (x : Job) : Prop
  | still (length : t.backends.length = s.backends.length)
      (disposals : ∀ c, t.disposals c = s.disposals c) (has : ∀ c, n.Has c ↔ m.Has c) :
      Keeping m n s t x
  | made {b : BackendId} {y : Backend} {scope : Scope} (stage : x.stage = .launching scope)
      (new : b = s.backends.length) (length : t.backends.length = s.backends.length + 1)
      (disposals : ∀ c, t.disposals c = s.disposals c) (found : t.backend? b = some y)
      (variant : y.name.variant = m.variant) (key : y.name.key = scope.key)
      (before : ∀ c, ¬ m.Has c) (has : ∀ c, n.Has c ↔ c = b)
      (built : ∃ own options inputs, m.provider.scope = some own ∧
        Options.make s.host m.provider.variant own = .ok (options, inputs) ∧
        n.provider = { m.provider with seen := inputs } ∧
        t.eventsOf y.name = [.create, .start options]) : Keeping m n s t x
  | shut {b : BackendId} (had : m.Has b) (length : t.backends.length = s.backends.length)
      (disposals : ∀ c, t.disposals c = s.disposals c + if c = b then 1 else 0)
      (after : ∀ c, ¬ n.Has c) : Keeping m n s t x

/-- A job that has to do with no server goes on, and the slot stays as it is. -/
private theorem has_of_jobs (hx : m.job? x.id = some x) (idle : x.stage.coming? = none)
    (jobs : ∀ i, n.job? i = if i = x.id then some { x with stage } else m.job? i)
    (slot : n.slot = m.slot) (coming : stage.coming? = none) (c : BackendId) :
    n.Has c ↔ m.Has c := by
  unfold Has
  rw [slot]
  refine or_congr_right ⟨?_, ?_⟩
  · rintro ⟨i, y, hy, up⟩
    rw [jobs] at hy
    split at hy
    · obtain rfl := Option.some.inj hy
      simp [coming] at up
    · exact ⟨i, y, hy, up⟩
  · rintro ⟨i, y, hy, up⟩
    have other : i ≠ x.id := by
      rintro rfl
      obtain rfl := Option.some.inj (hx.symm.trans hy)
      simp [idle] at up
    exact ⟨i, y, by rw [jobs, if_neg other, hy], up⟩

namespace Alone

/-- Whoever has the slot is the only one who can have a server. -/
theorem has_iff (h : m.Alone) (lined : m.Lined) (hx : m.job? x.id = some x) (holds : x.holds)
    (c : BackendId) : m.Has c ↔ x.stage.coming? = some c := by
  constructor
  · rintro (inside | ⟨i, y, hy, coming⟩)
    · simp [h hx holds] at inside
    · obtain rfl := lined.holder_unique hx hy holds (Job.holds_of_coming coming)
      obtain rfl := Option.some.inj (hx.symm.trans hy)
      exact coming
  · exact fun coming => .inr ⟨x.id, x, hx, coming⟩

/-- A manager has one server at most. -/
theorem has_unique (h : m.Alone) (lined : m.Lined) {b c : BackendId} (one : m.Has b)
    (two : m.Has c) : b = c := by
  have only {d : BackendId} {i : JobId} {y : Job} (hy : m.job? i = some y)
      (coming : y.stage.coming? = some d) {e : BackendId} (has : m.Has e) : d = e := by
    obtain rfl := job?_id hy
    have also := (h.has_iff lined hy (Job.holds_of_coming coming) e).mp has
    exact Option.some.inj (coming.symm.trans also)
  rcases one with one | ⟨i, y, hy, coming⟩
  · rcases two with two | ⟨i, y, hy, coming⟩
    · exact Option.some.inj (one.symm.trans two)
    · exact (only hy coming (.inl one)).symm
  · exact only hy coming two

private theorem has_of_slot (h : m.Alone) {b : BackendId}
    (inside : m.slot = some b) {i : JobId} {y : Job} (hy : m.job? i = some y) :
    y.stage.coming? = none := by
  by_contra coming
  obtain ⟨c, coming⟩ := Option.ne_none_iff_exists'.mp coming
  simp [h hy (Job.holds_of_coming coming)] at inside

/-- The others bring no server up. -/
private theorem has_of_put
    (jobs : ∀ i, n.job? i = if i = x.id then some { x with stage } else m.job? i)
    (others : ∀ {i y}, i ≠ x.id → m.job? i = some y → y.stage.coming? = none) (c : BackendId) :
    n.Has c ↔ n.slot = some c ∨ stage.coming? = some c := by
  refine or_congr_right ⟨?_, fun coming => ⟨x.id, _, by rw [jobs, if_pos rfl], coming⟩⟩
  rintro ⟨i, y, hy, up⟩
  rw [jobs] at hy
  split at hy
  · obtain rfl := Option.some.inj hy
    exact up
  · next other => simp [others other hy] at up

private theorem not_has
    (jobs : ∀ i, n.job? i = if i = x.id then some { x with stage } else m.job? i)
    (slot : n.slot = none) (coming : stage.coming? = none)
    (others : ∀ {i y}, i ≠ x.id → m.job? i = some y → y.stage.coming? = none) (c : BackendId) :
    ¬ n.Has c := by
  simp [has_of_put jobs others, slot, coming]

theorem keeping (h : m.Alone) (lined : m.Lined) (named : s.Named) (hx : m.job? x.id = some x)
    (made : ∀ {b}, m.Has b → b < s.backends.length) (step : JobStep m s x n t) :
    Keeping m n s t x := by
  -- the others do not hold the slot while this job does
  have others (holds : x.holds) {i : JobId} {y : Job} (other : i ≠ x.id)
      (hy : m.job? i = some y) : y.stage.coming? = none := by
    by_contra coming
    obtain ⟨c, coming⟩ := Option.ne_none_iff_exists'.mp coming
    exact other (lined.holder_unique hx hy holds (Job.holds_of_coming coming))
  cases step with
  | bind stage | come stage | close stage | bound stage | launch stage =>
    exact .still rfl (fun _ => rfl) (has_of_jobs hx (by simp [stage, Job.Stage.coming?])
      (job?_at rfl hx _) rfl rfl)
  | quit live leaving coming =>
    exact .still rfl (fun _ => rfl) (has_of_jobs hx coming (job?_at rfl hx _) rfl rfl)
  | retire stage head task live slot =>
    exact .shut (.inl slot) (by simp) (Site.disposals_beginDispose named (made (.inl slot)))
      (not_has (job?_at rfl hx _) rfl rfl fun _ hy => h.has_of_slot slot hy)
  | withdraw stage head task slot =>
    exact .shut (.inl slot) (by simp) (Site.disposals_beginDispose named (made (.inl slot)))
      (not_has (job?_at rfl hx _) rfl rfl fun _ hy => h.has_of_slot slot hy)
  | relaunch stage bound =>
    exact .still (by simp) (Site.tally_endDispose named rfl)
      (has_of_jobs hx (by simp [stage, Job.Stage.coming?]) (job?_at rfl hx _) rfl rfl)
  | @part b o stage start =>
    refine .still (by simp) (Site.tally_endDispose named rfl)
      (has_of_jobs hx ?_ (job?_at rfl hx _) rfl rfl)
    cases at_stage : x.stage <;> simp_all [Job.Stage.leaving?, Job.Stage.coming?]
  | @uncreated scope provider options e t' stage failed =>
    have length := congrArg List.length (Site.create_error failed)
    obtain rfl : _ = t := congrArg Prod.fst failed
    exact .still length (Site.tally_create named _ _ rfl)
      (has_of_jobs hx (by simp [stage, Job.Stage.coming?]) (job?_at rfl hx _) rfl rfl)
  | @create scope provider options b t' stage new read =>
    have holds : x.holds := by simp [Job.holds, stage]
    have empty := h hx holds
    obtain ⟨last, length⟩ := Site.create_ok new
    obtain ⟨y, found, name⟩ := Site.backend?_of_create new
    obtain ⟨own, inputs, bound, worked, seen⟩ := Provider.options_ok read
    have events := Site.eventsOf_beginStart named new found name options
    obtain rfl : _ = t' := congrArg Prod.fst new
    refine .made stage last ?_ (fun c => ?_) ((Site.backend?_noteBackend ..).trans found)
      (congrArg BackendName.variant name) (congrArg BackendName.key name) (fun c has => ?_)
      (fun c => ?_) ⟨own, options, inputs, bound, worked, seen, events⟩
    · rw [Site.beginStart_site, Site.backends_noteBackend, length]
    · have inside : b < (s.create m.variant scope).1.backends.length := by
        rw [length, last]
        exact Nat.lt_succ_self _
      rw [Site.disposals, Site.beginStart_site,
        Site.tally_noteBackend (Site.named_create named _ _) inside,
        Site.tally_create named _ _ rfl]
      simp [Site.disposals, BackendEvent.isDispose]
    · simp [h.has_iff lined hx holds, stage, Job.Stage.coming?] at has
    · refine (has_of_put (job?_at rfl hx _) (fun other hy => others holds other hy) c).trans ?_
      simp [put, empty, Job.Stage.coming?, eq_comm]
  | @discard b due options e t' stage failed =>
    have holds : x.holds := by simp [Job.holds, stage]
    have had : m.Has b := .inr ⟨x.id, x, hx, by simp [stage, Job.Stage.coming?]⟩
    obtain rfl : _ = t' := congrArg Prod.fst failed
    exact .shut had (by simp) (Site.disposals_endStart_beginDispose named (made had) options)
      (not_has (job?_at rfl hx _) (h hx holds) rfl fun other hy => others holds other hy)
  | @retract b due options t' stage up disposed =>
    have holds : x.holds := by simp [Job.holds, stage]
    have had : m.Has b := .inr ⟨x.id, x, hx, by simp [stage, Job.Stage.coming?]⟩
    obtain rfl : _ = t' := congrArg Prod.fst up
    exact .shut had (by simp) (Site.disposals_endStart_beginDispose named (made had) options)
      (not_has (job?_at rfl hx _) (h hx holds) rfl fun other hy => others holds other hy)
  | @settle b due options t' stage up live =>
    have coming : x.stage.coming? = some b := by simp [stage, Job.Stage.coming?]
    have holds := Job.holds_of_coming coming
    have had : m.Has b := .inr ⟨x.id, x, hx, coming⟩
    obtain rfl : _ = t := congrArg Prod.fst up
    refine .still (by simp) (Site.tally_endStart named (made had) _ rfl rfl) fun c => ?_
    have jobs (i : JobId) : ({ m with slot := some b }.finish x.id .finished).job? i =
        if i = x.id then some { x with stage := .done .finished } else m.job? i :=
      job?_at rfl hx _ i
    rw [h.has_iff lined hx holds, coming,
      has_of_put jobs fun other hy => others holds other hy]
    simp [finish, put, leave, Job.Stage.coming?]

end Alone

theorem Clear.has_unique (h : m.Clear) (lined : m.Lined) {b c : BackendId} (one : m.Has b)
    (two : m.Has c) : b = c :=
  Alone.has_unique h.alone lined one two

theorem Clear.keeping (h : m.Clear) (lined : m.Lined) (named : s.Named)
    (hx : m.job? x.id = some x) (made : ∀ {b}, m.Has b → b < s.backends.length)
    (step : JobStep m s x n t) : Keeping m n s t x :=
  Alone.keeping h.alone lined named hx made step

end Manager

end LanguageBroker
