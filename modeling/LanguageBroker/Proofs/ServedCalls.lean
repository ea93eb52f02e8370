import LanguageBroker.Proofs.JobProgress
import LanguageBroker.Proofs.OneServer

/-!
What a call finds that has waited for the slot. The server in the slot has come up, its disposal
was not called and its gate is open. Who looks for a server gets what is in the slot when the turn
for it comes, and a restart that has the slot gives it back with a new server in it or has failed.
-/

namespace LanguageBroker

/-- An entry of a list that has become longer is an old one or a new one. -/
theorem split_append {α : Type} {old new before after : List α} {e : α}
    (split : old ++ new = before ++ e :: after) :
    (∃ more, old = before ++ e :: more) ∨
      ∃ more, before = old ++ more ∧ new = more ++ e :: after := by
  rcases List.append_eq_append_iff.1 split with ⟨more, earlier, later⟩ | ⟨more, earlier, later⟩
  · exact .inr ⟨more, earlier, later⟩
  · cases more with
    | nil => exact .inr ⟨[], by simpa using earlier.symm, by simpa using later.symm⟩
    | cons f more =>
      obtain ⟨rfl, -⟩ := List.cons.inj later
      exact .inl ⟨more, earlier⟩

namespace Site

/-- Every call is at a server that has come up and whose disposal was not called before. -/
def Served (s : Site) : Prop :=
  ∀ before time name method params after,
    s.journal = before ++ (time, .backend name (.call method params)) :: after →
      (∃ then', (then', Happening.backend name .started) ∈ before) ∧
        ∀ then', (then', Happening.backend name .dispose) ∉ before

/-- Things have happened, but no server was called. -/
def Quiet (s t : Site) : Prop :=
  ∃ news, t.journal = s.journal ++ news ∧
    ∀ time name method params, (time, Happening.backend name (.call method params)) ∉ news

/-- The gate of the server is open. -/
def isOpen (s : Site) (b : BackendId) : Bool := (s.backend? b).any (·.middleware.connected)

variable {s t u : Site}

namespace Quiet

theorem of_journal (same : t.journal = s.journal) : s.Quiet t := ⟨[], by simp [same], by simp⟩

theorem trans (h : s.Quiet t) (h' : t.Quiet u) : s.Quiet u := by
  obtain ⟨news, journal, none⟩ := h
  obtain ⟨more, journal', none'⟩ := h'
  refine ⟨news ++ more, by simp [journal', journal], fun time name method params called => ?_⟩
  rcases List.mem_append.1 called with called | called
  · exact none _ _ _ _ called
  · exact none' _ _ _ _ called

theorem noteBackend (s : Site) (b : BackendId) {e : BackendEvent} (other : e.isCall = false) :
    s.Quiet (s.noteBackend b e) := by
  unfold Site.noteBackend
  split
  · next x found =>
    refine ⟨[(s.clock.now, .backend x.name e)], rfl, fun time name method params called => ?_⟩
    simp only [List.mem_singleton, Prod.mk.injEq, Happening.backend.injEq] at called
    simp [← called.2.2, BackendEvent.isCall] at other
  · exact of_journal rfl

theorem beginDispose (s : Site) (b : BackendId) : s.Quiet (s.beginDispose b).1 :=
  (of_journal (t := s.modifyMiddleware b _) rfl).trans (noteBackend _ b rfl)

theorem endDispose (s : Site) (b : BackendId) : s.Quiet (s.endDispose b) := by
  unfold Site.endDispose
  split
  · split
    · exact of_journal rfl
    · exact noteBackend s b rfl
  · exact of_journal rfl

theorem endStart (s : Site) (b : BackendId) (options : Options) :
    s.Quiet (s.endStart b options).1 := by
  rcases endStart_cases s b options with ⟨_, same⟩ | ⟨e, same⟩ | ⟨f, same⟩ <;> rw [same]
  · exact of_journal rfl
  · exact noteBackend s b rfl
  · exact (noteBackend s b (e := .started) rfl).trans (of_journal rfl)

theorem create (s : Site) (variant : Variant) (scope : Scope) :
    s.Quiet (s.create variant scope).1 :=
  ⟨[(s.clock.now, .backend (s.nextName variant scope.key) .create)],
    create_journal s variant scope, by simp⟩

end Quiet

theorem Served.quiet (h : s.Served) (quiet : s.Quiet t) : t.Served := by
  obtain ⟨news, journal, none⟩ := quiet
  intro before time name method params after split
  rcases split_append (journal ▸ split) with ⟨more, old⟩ | ⟨more, -, new⟩
  · exact h before time name method params more old
  · exact absurd (new ▸ List.mem_append_right more List.mem_cons_self)
      (none time name method params)

/-- What is written about a server is what its tally counts. -/
theorem mem_of_tally {b : BackendId} {x : Backend} (found : s.backend? b = some x)
    {p : BackendEvent → Bool} (seen : 0 < s.tally p b) :
    ∃ time e, (time, Happening.backend x.name e) ∈ s.journal ∧ p e := by
  simp only [tally, found, List.countP_pos_iff, eventsOf, List.mem_filterMap] at seen
  obtain ⟨e, ⟨⟨time, h⟩, mem, about⟩, holds⟩ := seen
  cases h with
  | asked variant key => simp [Happening.about?] at about
  | backend name f =>
    simp only [Happening.about?] at about
    split at about
    · next same =>
      obtain rfl := Option.some.inj about
      exact ⟨time, f, same ▸ mem, holds⟩
    · simp at about

theorem tally_pos {b : BackendId} {x : Backend} (found : s.backend? b = some x)
    {p : BackendEvent → Bool} {time : Time} {e : BackendEvent}
    (mem : (time, Happening.backend x.name e) ∈ s.journal) (holds : p e) : 0 < s.tally p b := by
  simp only [tally, found, List.countP_pos_iff, eventsOf, List.mem_filterMap]
  exact ⟨e, ⟨_, mem, by simp [Happening.about?]⟩, holds⟩

/-- A server that has come up and whose disposal was not called may be called. -/
theorem Served.call (h : s.Served) {b : BackendId} (up : s.hasStarted b) (live : s.disposals b = 0)
    (method : Method) (params : Json) : (s.noteBackend b (.call method params)).Served := by
  cases found : s.backend? b with
  | none => simpa [noteBackend, found] using h
  | some x =>
    intro before time name m p after split
    simp only [noteBackend, found, note] at split
    rcases split_append split with ⟨more, old⟩ | ⟨more, rfl, new⟩
    · exact h before time name m p more old
    · obtain ⟨rfl, last⟩ := List.append_eq_singleton_iff.1 new.symm |>.resolve_right (by simp)
      obtain ⟨⟨-, rfl, -⟩, -⟩ : (_ ∧ x.name = name ∧ _) ∧ _ := by simpa using last.symm
      rw [List.append_nil]
      constructor
      · obtain ⟨then', e, mem, started⟩ := mem_of_tally found up
        cases e with
        | started => exact ⟨then', mem⟩
        | _ => simp [BackendEvent.isStarted] at started
      · intro then' mem
        have called := tally_pos found (p := BackendEvent.isDispose) mem rfl
        rw [disposals] at live
        omega

theorem isOpen_noteBackend (s : Site) (c : BackendId) (e : BackendEvent) (b : BackendId) :
    (s.noteBackend c e).isOpen b = s.isOpen b := by
  rw [isOpen, backend?_noteBackend, isOpen]

/-- A change of another server's middleware, or one that does not close the gate, keeps it open. -/
theorem isOpen_modifyMiddleware {b c : BackendId} {f : Middleware → Middleware}
    (open' : s.isOpen b) (keeps : b = c → ∀ w : Middleware, w.connected → (f w).connected) :
    (s.modifyMiddleware c f).isOpen b := by
  simp only [isOpen, Option.any_eq_true] at open' ⊢
  obtain ⟨x, found, connected⟩ := open'
  rw [backend?_modifyMiddleware, found]
  by_cases same : b = c
  · exact ⟨_, rfl, by simpa [same] using keeps same _ connected⟩
  · exact ⟨x, by simp [same], connected⟩

theorem isOpen_endStart {b : BackendId} {options : Options} (made : b < s.backends.length)
    (up : s.endStart b options = (t, .ok ())) : t.isOpen b := by
  obtain ⟨x, found⟩ := exists_backend made
  simp only [endStart, found] at up
  split at up
  · simp at up
  · obtain rfl := (Prod.mk.inj up).1
    simp [isOpen, backend?_modifyMiddleware, found]

end Site

namespace Manager

variable {m n : Manager} {s t : Site} {x : Job}

/-- No step of a job calls a server. -/
theorem JobStep.quiet (step : JobStep m s x n t) : s.Quiet t := by
  cases step with
  | bind | come | close | bound | launch | quit => exact .of_journal rfl
  | retire | withdraw => exact .beginDispose s _
  | relaunch | part => exact .endDispose s _
  | @create scope provider options b t' stage made =>
    obtain rfl : _ = t' := congrArg Prod.fst made
    exact (Site.Quiet.create s _ _).trans (.noteBackend _ _ rfl)
  | uncreated stage made =>
    obtain rfl : _ = t := congrArg Prod.fst made
    exact .create s _ _
  | @discard b due options e t' stage failed =>
    obtain rfl : _ = t' := congrArg Prod.fst failed
    exact (Site.Quiet.endStart s _ _).trans (.beginDispose _ _)
  | @retract b due options t' stage up disposed =>
    obtain rfl : _ = t' := congrArg Prod.fst up
    exact (Site.Quiet.endStart s _ _).trans (.beginDispose _ _)
  | settle stage up live =>
    obtain rfl : _ = t := congrArg Prod.fst up
    exact .endStart s _ _

/-- Calls change no account. -/
theorem Accounts.calm (h : m.Accounts s) (calm : s.Calm t) : m.Accounts t where
  slot inside := by
    obtain ⟨made, live, up⟩ := h.slot inside
    exact ⟨calm.length ▸ made, (calm.disposals _).trans live, (calm.hasStarted _).2 up⟩
  coming hy server := by
    obtain ⟨made, live⟩ := h.coming hy server
    exact ⟨calm.length ▸ made, (calm.disposals _).trans live⟩
  leaving hy server := calm.length ▸ h.leaving hy server
  kept made live := h.kept (calm.length ▸ made) ((calm.disposals _).symm.trans live)
  once b := (calm.disposals b).trans_le (h.once b)
  alone := h.alone
  closed := h.closed
  parting := h.parting
  emptied := h.emptied

/-- The server in the slot is one whose gate is open. -/
def Wired (m : Manager) (s : Site) : Prop := ∀ b, m.slot = some b → s.isOpen b

theorem Wired.jobStep (h : m.Wired s) (accounts : m.Accounts s) (hx : m.job? x.id = some x)
    (step : JobStep m s x n t) : n.Wired t := by
  have empty (holds : x.holds) : m.slot = none := accounts.alone hx holds
  cases step with
  | bind | come | close | bound | launch | quit => exact h
  | retire | withdraw => exact fun b inside => by simp [put, leave] at inside
  | relaunch stage | create stage | uncreated stage | discard stage | retract stage =>
    have none := empty (by simp [Job.holds, stage])
    exact fun b inside => by simp [put, finish, leave, none] at inside
  | @settle b due options t' stage up live =>
    intro c inside
    obtain rfl : b = c := by simpa [put, finish, leave] using inside
    exact Site.isOpen_endStart (accounts.coming hx (by simp [stage, Job.Stage.coming?])).1 up
  | @part b o stage start =>
    intro c inside
    have still : s.isOpen c := h c inside
    unfold Site.endDispose
    split
    · split
      · exact still
      · rwa [Site.isOpen_noteBackend]
    · exact still

/-- A manager that a first start has begun for has its scope. -/
def Bound (m : Manager) : Prop := m.started → m.scope ≠ none

theorem Bound.jobStep (h : m.Bound) (step : JobStep m s x n t) : n.Bound := by
  cases step with
  | bind => exact fun _ => by simp [put]
  | _ => exact h

/-- How a job stands after a step, if it is one that looks for the server. -/
theorem stepJob_lookUp (found : m.job? x.id = some x) (task : x.task = .lookUp) (fits : x.fits)
    (steps : m.canStep s.clock x) :
    (m.stepJob s x).2 = s ∧ (m.stepJob s x).1.slot = m.slot ∧
      ((m.stepJob s x).1.job? x.id = some { x with stage := .queued } ∨
        x.stage = .queued ∧ m.line.head? = some x.id ∧
          (m.stepJob s x).1.job? x.id = some { x with stage := .done (.found m.slot) }) := by
  cases stage : x.stage with
  | fresh =>
    refine ⟨by simp [stepJob, stage, beginJob, task], by simp [stepJob, stage, beginJob, task,
      put, enqueue], .inl ?_⟩
    simpa [stepJob, stage, beginJob, task] using job?_put_self (m := m.enqueue x.id) found .queued
  | queued =>
    refine ⟨by simp [stepJob, stage, enter, task], by simp [stepJob, stage, enter, task, finish,
      put, leave], .inr ⟨rfl, by simpa [canStep, stage] using steps, ?_⟩⟩
    simpa [stepJob, stage, enter, task, finish] using
      job?_put_self (m := m.leave x.id) found (.done (.found m.slot))
  | done o => simp [canStep, stage] at steps
  | _ => simp [Job.fits, stage, task] at fits

/-- A restart that has the slot keeps it, puts a server into it, or has failed. -/
theorem stepJob_of_restart (found : m.job? x.id = some x) (task : x.task = .restart)
    (holds : x.holds) (bound : m.scope ≠ none) :
    (∃ stage, (m.stepJob s x).1.job? x.id = some { x with stage } ∧
        Job.holds { x with stage } ∧ (m.stepJob s x).1.slot = m.slot) ∨
      (∃ b, x.stage.coming? = some b ∧ (m.stepJob s x).1.slot = some b) ∨
      ∃ cause, (m.stepJob s x).1.outcome? x.id = some (.failed cause) ∧
        (m.stepJob s x).1.slot = m.slot := by
  have failed (k : Manager) (jobs : k.jobs = m.jobs) (cause : ManagerError) :
      (k.finish x.id (.failed cause)).outcome? x.id = some (.failed cause) := by
    have here : (k.leave x.id).job? x.id = some x := by simpa [job?, leave, jobs] using found
    simp [finish, outcome?, job?_put_self here]
  cases stage : x.stage with
  | retiring b due =>
    obtain ⟨scope, given⟩ := Option.ne_none_iff_exists'.1 bound
    refine .inl ⟨.launching scope, ?_, by simp [Job.holds], by simp [stepJob, stage, given, put]⟩
    simp only [stepJob, stage, given]
    exact job?_put_self found _
  | launching scope =>
    simp only [stepJob, stage, launch]
    split
    · exact .inr (.inr ⟨_, failed _ rfl _, rfl⟩)
    · split
      · exact .inr (.inr ⟨_, failed _ rfl _, rfl⟩)
      · exact .inl
          ⟨_, job?_put_self (m := { m with provider := _ }) found _, by simp [Job.holds], rfl⟩
  | starting b due options =>
    simp only [stepJob, stage, arrive]
    split
    · exact .inl ⟨_, job?_put_self found _, by simp [Job.holds], rfl⟩
    · split
      · exact .inl ⟨_, job?_put_self found _, by simp [Job.holds, task], rfl⟩
      · exact .inr (.inl ⟨b, rfl, rfl⟩)
  | discarding b due cause =>
    simp only [stepJob, stage]
    exact .inr (.inr ⟨cause, failed _ rfl _, rfl⟩)
  | withdrawing b due =>
    simp only [stepJob, stage, withdrawn, task]
    exact .inr (.inr ⟨_, failed _ rfl _, rfl⟩)
  | _ => simp [Job.holds, stage] at holds

namespace Moment

variable {w : Moment}

/-- A job that is not over stays where it is until it is taken a step further in its turn. -/
theorem move_job (lined : w.manager.Lined) (found : w.manager.job? x.id = some x)
    (live : ¬ x.isDone) (next : Move) :
    (w.move next).manager.job? x.id = some x ∨
      (w.turn.bind Duty.job? = some x.id ∧ w.manager.canStep w.site.clock x ∧
        (w.move next).manager =
          (w.manager.stepJob { w.site with clock := w.site.clock.tick } x).1 ∧
        (w.move next).site =
          (w.manager.stepJob { w.site with clock := w.site.clock.tick } x).2) := by
  by_cases mine : w.turn.bind Duty.job? = some x.id
  · obtain ⟨duty, turn, job⟩ := Option.bind_eq_some_iff.1 mine
    by_cases goes : next = .go ∧ w.isReady duty
    · obtain ⟨rfl, ready⟩ := goes
      obtain ⟨steps, acts⟩ := act_of_job job found live ready
      have moved : w.move .go = w.act duty := by simp [move, turn, inside, ready]
      exact .inr ⟨mine, steps, by simp [moved, act, acts], by simp [moved, act, acts]⟩
    · left
      cases next with
      | go =>
        have stuck : w.isReady duty = false := by simpa using goes
        simpa [move, turn, inside, stuck] using found
      | yield =>
        simp only [move, turn, inside]
        split <;> exact found
      | _ => simpa [move, turn, inside] using found
  · left
    have course := course_move lined next
    generalize w.move next = v at course
    cases course with
    | @step _ duty y turn job found' step same =>
      obtain ⟨stage, advance⟩ := step.advance
      have other : x.id ≠ y.id := fun same => mine (by simp [turn, job, same])
      rw [job?_of_jobs found' advance.jobs, if_neg other]
      exact found
    | aside manager site turn => exact manager.kept found live
    | ended turn free => exact found

/-- Who looks for the server waits on, or finds what is in the slot when its turn has come. -/
theorem move_lookUp (lined : w.manager.Lined) (found : w.manager.job? x.id = some x)
    (task : x.task = .lookUp) (live : ¬ x.isDone) (next : Move) :
    ∃ y, (w.move next).manager.job? x.id = some y ∧ y.task = .lookUp ∧
      (¬ y.isDone ∨ y.stage = .done (.found w.manager.slot) ∧
        w.turn.bind Duty.job? = some x.id ∧ w.manager.line.head? = some x.id ∧
        (w.move next).manager.slot = w.manager.slot ∧
        (w.move next).site = { w.site with clock := w.site.clock.tick }) := by
  rcases move_job lined found live next with same | ⟨turn, steps, manager, site⟩
  · exact ⟨x, same, task, .inl live⟩
  · obtain ⟨still, slot, queued | ⟨-, head, done⟩⟩ :=
      stepJob_lookUp (s := { w.site with clock := w.site.clock.tick }) found task
        (lined.fits found) steps
    · rw [← manager] at queued
      exact ⟨_, queued, task, .inl (by simp [Job.isDone])⟩
    · rw [← manager] at done slot
      exact ⟨_, done, task, .inr ⟨rfl, turn, head, slot, site.trans still⟩⟩

/-- A restart that has the slot keeps it, puts a server into it, or has failed. -/
theorem move_restart (sound : w.Sound) (bound : w.manager.Bound)
    (found : w.manager.job? x.id = some x) (task : x.task = .restart) (holds : x.holds)
    (next : Move) :
    (∃ y, (w.move next).manager.job? x.id = some y ∧ y.task = .restart ∧ y.holds) ∨
      (w.move next).manager.slot ≠ none ∨
      ∃ cause, (w.move next).manager.outcome? x.id = some (.failed cause) ∧
        (w.move next).manager.slot = none := by
  have live : ¬ x.isDone := by cases stage : x.stage <;> simp_all [Job.isDone, Job.holds]
  have empty := sound.accounts.alone found holds
  have scope : w.manager.scope ≠ none := by
    refine bound ?_
    by_contra unstarted
    rcases sound.opening.stage_of_unstarted (by simpa using unstarted) found with
      fresh | done | comes
    · simp [Job.holds, fresh] at holds
    · exact live done
    · cases stage : x.stage <;> simp_all [Job.comes, Job.holds]
  rcases move_job sound.lined found live next with same | ⟨-, -, manager, -⟩
  · exact .inl ⟨x, same, task, holds⟩
  · rw [manager]
    rcases stepJob_of_restart (s := { w.site with clock := w.site.clock.tick }) found task holds
      scope with ⟨stage, here, holds, -⟩ | ⟨b, -, slot⟩ | ⟨cause, failed, slot⟩
    · exact .inl ⟨_, here, task, holds⟩
    · exact .inr (.inl (by simp [slot]))
    · exact .inr (.inr ⟨cause, failed, slot.trans empty⟩)

/-- When the server is taken out of the slot, a restart has it or the manager is disposed of. -/
theorem move_slot (sound : w.Sound) (filled : w.manager.slot ≠ none) (next : Move) :
    (w.move next).manager.slot ≠ none ∨ (w.move next).manager.disposed ∨
      ∃ y, (w.move next).manager.job? y.id = some y ∧ y.task = .restart ∧ y.holds := by
  have course := course_move sound.lined next
  generalize w.move next = v at course
  cases course with
  | @step _ duty x turn job found step same =>
    have empty (holds : x.holds) : w.manager.slot = none := sound.accounts.alone found holds
    generalize v.manager = n, v.site = t at step
    cases step with
    | bind | come | close | bound | launch | quit => exact .inl filled
    | @retire b stage head task live slot =>
      let due := (Site.beginDispose { w.site with clock := w.site.clock.tick } b).2
      have here := job?_put_self (m := { w.manager with slot := none }) found (.retiring b due)
      exact .inr (.inr ⟨{ x with stage := .retiring b due }, here, task, rfl⟩)
    | @withdraw b stage head task slot =>
      exact .inr (.inl (sound.accounts.closed found task (by simp [stage])))
    | relaunch stage | create stage | uncreated stage | discard stage | retract stage
    | settle stage => exact absurd (empty (by simp [Job.holds, stage])) filled
    | part => exact .inl (by simpa [finish, leave, put] using filled)
  | aside manager site turn => exact .inl (manager.slot ▸ filled)
  | ended turn free => exact .inl filled

theorem move_disposed (lined : w.manager.Lined) (disposed : w.manager.disposed) (next : Move) :
    (w.move next).manager.disposed := by
  have course := course_move lined next
  generalize w.move next = v at course
  cases course with
  | step turn job found step same => exact step.disposed disposed
  | aside manager site turn => exact manager.disposed ▸ disposed
  | ended turn free => exact disposed

/-- Calls may come between. -/
theorem Sound.calm (h : w.Sound) {t : Site} (calm : w.site.Calm t) :
    Sound { w with site := t } where
  lined := h.lined
  named := calm.named h.named
  accounts := h.accounts.calm calm
  opening :=
    { given := h.opening.given
      begun := h.opening.begun
      early := fun open' => by
        obtain ⟨none, rest⟩ := h.opening.early open'
        have length := calm.length
        simp only [none, List.length_nil, List.length_eq_zero_iff] at length
        exact ⟨length, rest⟩ }

/-- A job that is over is forgotten. -/
theorem aside_forget {j : JobId} {m : Manager} (ended : (m.outcome? j).isSome) :
    Aside (fun _ => True) m (m.forget j) := by
  obtain ⟨x, found, done⟩ := isDone_of_outcome? ended
  exact .of_forget found done rfl rfl rfl rfl rfl rfl rfl rfl id

end Moment

end Manager

end LanguageBroker
