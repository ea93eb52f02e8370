import LanguageBroker.Proofs.GatheredChanges

/-!
Restarts come of changes, and of each burst of changes comes one. A look at inputs that are still
those last seen gives no notice, and a manager at rest that gets no notice begins no restart. The
servers follow from the restarts: each job that is still to ask for a server does so once, and
nothing but such a job makes one.
-/

namespace LanguageBroker

/-- Is the job still to make a server, as long as nothing fails? -/
def Job.owes (x : Job) : Bool :=
  match x.stage, x.task with
  | .fresh, .restart | .queued, .restart | .queued, .start _ => true
  | .binding _, _ | .retiring .., _ | .launching _, _ => true
  | _, _ => false

theorem Job.not_owes_of_isDone {x : Job} (done : x.isDone) : x.owes = false := by
  cases stage : x.stage <;> simp_all [isDone, owes]

namespace Manager

/-- How many servers the jobs are still to make. -/
def owed (m : Manager) : Nat := m.jobs.countP Job.owes

variable {m n : Manager} {s t : Site} {x : Job} {stage : Job.Stage}

/-- Only the job that goes to another stage counts anew. -/
theorem Lined.countP_put (h : m.Lined) (hx : m.job? x.id = some x)
    (jobs : n.jobs = (m.put x.id stage).jobs) (p : Job → Bool) :
    n.jobs.countP p + (if p x then 1 else 0) =
      m.jobs.countP p + if p { x with stage } then 1 else 0 := by
  obtain ⟨before, after, split⟩ := List.append_of_mem (mem_of_job? hx)
  have ids := h.ids
  simp only [split, List.map_append, List.map_cons, List.nodup_append, List.nodup_cons,
    List.mem_cons, List.mem_map] at ids
  obtain ⟨-, ⟨apart, -⟩, others⟩ := ids
  have same {l : List Job} (other : ∀ y ∈ l, y.id ≠ x.id) :
      l.map (fun y => if y.id = x.id then { y with stage } else y) = l := by
    conv_rhs => rw [← List.map_id l]
    refine List.map_congr_left fun y mem => ?_
    simp [other y mem]
  have split' : n.jobs = before ++ { x with stage } :: after := by
    rw [jobs, Manager.put, split, List.map_append, List.map_cons, if_pos rfl, same, same]
    · exact fun y mem here => apart ⟨y, mem, here⟩
    · exact fun y mem here => others y.id ⟨y, mem, rfl⟩ x.id (.inl rfl) here
  rw [split', split, List.countP_append, List.countP_append, List.countP_cons, List.countP_cons]
  omega

/-- A job makes what it owes, and no more. -/
theorem JobStep.owed_le (step : JobStep m s x n t) (lined : m.Lined) (hx : m.job? x.id = some x)
    (begun : m.started) : t.backends.length + n.owed ≤ s.backends.length + m.owed := by
  have still {n : Manager} {stage : Job.Stage} (jobs : n.jobs = (m.put x.id stage).jobs)
      (mono : Job.owes { x with stage } → x.owes) : n.owed ≤ m.owed := by
    have count := lined.countP_put hx jobs Job.owes
    unfold owed
    by_cases after : Job.owes { x with stage }
    · rw [if_pos after, if_pos (mono after)] at count
      omega
    · rw [if_neg after] at count
      omega
  cases step with
  | bind stage task live first => simp [begun] at first
  | come stage task =>
    refine Nat.add_le_add_left (still rfl fun _ => ?_) _
    rcases task with task | task
    · simp [Job.owes, stage, task]
    · simp_all [Job.owes]
  | close stage task => exact Nat.add_le_add_left (still rfl (by simp [Job.owes, task])) _
  | bound stage => exact Nat.add_le_add_left (still rfl (by simp [Job.owes, stage])) _
  | launch stage head task =>
    refine Nat.add_le_add_left (still rfl fun _ => ?_) _
    rcases task with task | ⟨task, _⟩ <;> simp [Job.owes, stage, task]
  | retire stage head task =>
    exact Nat.add_le_add (by simp) (still rfl fun _ => by simp [Job.owes, stage, task])
  | withdraw stage => exact Nat.add_le_add (by simp) (still rfl (by simp [Job.owes]))
  | relaunch stage => exact Nat.add_le_add (by simp) (still rfl (by simp [Job.owes, stage]))
  | @create scope provider options b t' stage made =>
    obtain ⟨_, length⟩ := Site.create_ok made
    rw [Site.beginStart_site, Site.backends_noteBackend, length]
    have count := lined.countP_put hx
      (rfl : ({ m with provider }.put x.id
        (.starting b (t'.beginStart b options).2 options)).jobs = _) Job.owes
    rw [if_pos (by simp [Job.owes, stage]), if_neg (by simp [Job.owes])] at count
    unfold owed
    omega
  | uncreated stage made =>
    have length := congrArg List.length (Site.create_error made)
    exact Nat.add_le_add (Nat.le_of_eq length) (still rfl (by simp [Job.owes]))
  | discard stage failed =>
    obtain rfl : _ = _ := congrArg Prod.fst failed
    exact Nat.add_le_add (by simp) (still rfl (by simp [Job.owes]))
  | retract stage up =>
    obtain rfl : _ = _ := congrArg Prod.fst up
    exact Nat.add_le_add (by simp) (still rfl (by simp [Job.owes]))
  | settle stage up =>
    obtain rfl : _ = t := congrArg Prod.fst up
    exact Nat.add_le_add (by simp) (still rfl (by simp [Job.owes]))
  | part stage => exact Nat.add_le_add (by simp) (still rfl (by simp [Job.owes]))
  | quit => exact Nat.add_le_add_left (still rfl (by simp [Job.owes])) _

/-- A job that owes a server goes on owing it, or makes it, as long as nothing fails. -/
theorem stepJob_owes {scope : Scope} (owes : x.owes) (live : m.disposed = false)
    (bound : m.scope = some scope) (own : m.provider.scope = some scope)
    (binds : ∀ {aim}, x.stage = .binding aim → x.task = .start aim ∧ aim = scope)
    (read : ∃ modules, s.host.modules scope.resource = .ok modules)
    (makes : ∀ name, (s.plan name).createFailure = none) :
    (∃ stage, (m.stepJob s x).1.jobs = (m.put x.id stage).jobs ∧ Job.owes { x with stage }) ∨
      s.backends.length < (m.stepJob s x).2.backends.length := by
  obtain ⟨modules, read⟩ := read
  unfold Job.owes at owes
  split at owes
  · next stage task => exact .inl ⟨.queued, by simp [stepJob, stage, beginJob, task, enqueue, put],
      by simp [Job.owes, task]⟩
  · next stage task =>
    cases slot : m.slot with
    | none =>
      refine .inl ⟨.launching scope, ?_, by simp [Job.owes]⟩
      rw [stepJob_restart task stage live bound slot]
    | some b =>
      refine .inl ⟨.retiring b (s.beginDispose b).2, ?_, by simp [Job.owes]⟩
      rw [stepJob_restart_of_slot task stage live bound slot]
      rfl
  · next aim stage task =>
    exact .inl ⟨.launching aim, by simp [stepJob, stage, enter, task], by simp [Job.owes]⟩
  · next aim stage =>
    obtain ⟨task, rfl⟩ := binds stage
    refine .inl ⟨.queued, ?_, by simp [Job.owes, task]⟩
    simp [stepJob, stage, bindOptions, Provider.bindScope, read, enqueue, put]
  · next b due stage =>
    exact .inl ⟨.launching scope, by simp [stepJob, stage, bound], by simp [Job.owes]⟩
  · next aim stage =>
    refine .inr ?_
    obtain ⟨options, inputs, made⟩ : ∃ options inputs,
        Options.make s.host m.provider.variant scope = .ok (options, inputs) := by
      simp [Options.make, read]
    rcases Site.create_cases s m.variant aim with ⟨e, out, _⟩ | ⟨y, _, out, more⟩
    · simp [Site.create, makes] at out
    · have split : s.create m.variant aim =
          ((s.create m.variant aim).1, .ok s.backends.length) := Prod.ext rfl out
      have launched : (m.stepJob s x).2.backends = (s.create m.variant aim).1.backends := by
        simp only [stepJob, stage, launch, Provider.options, own, made]
        rw [split]
        simp [Site.beginStart_site]
      rw [launched, more]
      simp
  · simp at owes

/-- A job that owes no server leaves the one in the slot there, unless it is a disposal. -/
theorem JobStep.slot_stays (step : JobStep m s x n t) (free : x.owes = false)
    (closed : x.task = .dispose → x.stage ≠ .fresh → m.disposed) (alone : x.holds → m.slot = none)
    (live : n.disposed = false) {b : BackendId} (inside : m.slot = some b) : n.slot = some b := by
  cases step with
  | retire stage head task => simp [Job.owes, stage, task] at free
  | withdraw stage head task =>
    have disposed := closed task (by simp [stage])
    have same : m.disposed = false := live
    simp [disposed] at same
  | settle stage =>
    have empty := alone (by simp [Job.holds, stage])
    simp [empty] at inside
  | _ => exact inside

end Manager

/-- Every server that was made has been started once. -/
def Site.startedOnce (s : Site) : Prop := ∀ b < s.backends.length, s.starts b = 1

namespace Manager

variable {m n : Manager} {s t : Site} {x : Job}

/-- A server is started when it is made, and never again. -/
theorem JobStep.startedOnce (step : JobStep m s x n t) (named : s.Named)
    (hx : m.job? x.id = some x) (made : ∀ {b}, m.Has b → b < s.backends.length)
    (once : s.startedOnce) : t.startedOnce := by
  have same {t : Site} (length : t.backends.length = s.backends.length)
      (starts : ∀ b, t.starts b = s.starts b) : t.startedOnce := fun b there =>
    (starts b).trans (once b (length ▸ there))
  have disposed {t : Site} {b : BackendId} (length : t.backends.length = s.backends.length)
      (starts : ∀ b, t.starts b = s.starts b) (named : t.Named) (inside : b < t.backends.length) :
      (t.beginDispose b).1.startedOnce := by
    refine same (by simpa using length) fun c => ?_
    rw [Site.starts, Site.tally_beginDispose named inside]
    simp only [BackendEvent.isStart, Bool.false_eq_true, and_false, if_false, Nat.add_zero]
    exact starts c
  cases step with
  | bind | come | close | bound | launch | quit => exact once
  | retire stage head task live slot => exact disposed rfl (fun _ => rfl) named (made (.inl slot))
  | withdraw stage head task slot => exact disposed rfl (fun _ => rfl) named (made (.inl slot))
  | relaunch | part => exact same (by simp) (Site.tally_endDispose named rfl)
  | uncreated stage failed =>
    have length := congrArg List.length (Site.create_error failed)
    obtain rfl : _ = t := congrArg Prod.fst failed
    exact same length (Site.tally_create named _ _ rfl)
  | @create scope provider options b t' stage new =>
    obtain ⟨rfl, length⟩ := Site.create_ok new
    obtain rfl : _ = t' := congrArg Prod.fst new
    intro c there
    rw [Site.beginStart_site, Site.backends_noteBackend, length] at there
    have inside : s.backends.length < (s.create m.variant scope).1.backends.length := by
      rw [length]
      exact Nat.lt_succ_self _
    rw [Site.starts, Site.beginStart_site,
      Site.tally_noteBackend (Site.named_create named _ _) inside, Site.tally_create named _ _ rfl]
    by_cases old : c < s.backends.length
    · rw [if_neg fun last => Nat.ne_of_lt old last.1]
      exact once c old
    · have last : c = s.backends.length :=
        Nat.le_antisymm (Nat.le_of_lt_succ there) (Nat.le_of_not_lt old)
      rw [Site.tally_of_ge (Nat.le_of_not_lt old), if_pos ⟨last, rfl⟩]
  | @discard b due options e t' stage failed =>
    have had := made (b := b) (.inr ⟨x.id, x, hx, by simp [stage, Job.Stage.coming?]⟩)
    obtain rfl : _ = t' := congrArg Prod.fst failed
    exact disposed (by simp) (Site.tally_endStart named had _ rfl rfl)
      (Site.named_endStart named ..) (by simpa using had)
  | @retract b due options t' stage up =>
    have had := made (b := b) (.inr ⟨x.id, x, hx, by simp [stage, Job.Stage.coming?]⟩)
    obtain rfl : _ = t' := congrArg Prod.fst up
    exact disposed (by simp) (Site.tally_endStart named had _ rfl rfl)
      (Site.named_endStart named ..) (by simpa using had)
  | @settle b due options t' stage up =>
    have had := made (b := b) (.inr ⟨x.id, x, hx, by simp [stage, Job.Stage.coming?]⟩)
    obtain rfl : _ = t := congrArg Prod.fst up
    exact same (by simp) (Site.tally_endStart named had _ rfl rfl)

/-- Does the move call for a restart after a time of rest, whatever the inputs are? -/
def Move.callsForRestart : Move → Bool
  | .restart | .hear .interpreter => true
  | _ => false

/-- Is it a restart that somebody asks for at once? -/
def Move.asksRestart : Move → Bool
  | .ask .restart => true
  | _ => false

namespace Moment

variable {w v : Moment} {next : Move} {moves : List Move}

theorem Sound.startedOnce_move (h : w.Sound) (once : w.site.startedOnce) (next : Move) :
    (w.move next).site.startedOnce := by
  have course := course_move h.lined next
  generalize w.move next = v at course
  have tick : w.site.SameServers { w.site with clock := w.site.clock.tick } := ⟨rfl, rfl, rfl⟩
  have same {t : Site} (servers : w.site.SameServers t) : t.startedOnce := fun b there =>
    (servers.tally _ b).trans (once b (servers.backends ▸ there))
  cases course with
  | step turn job found step =>
    exact step.startedOnce (tick.named h.named) found h.lt_of_has (same tick)
  | aside manager site => exact same site
  | ended => exact once

theorem Sound.startedOnce_run (h : w.Sound) (once : w.site.startedOnce) (moves : List Move) :
    (w.run moves).site.startedOnce := by
  induction moves generalizing w with
  | nil => exact once
  | cons next moves ih => exact ih (h.move next) (h.startedOnce_move once next)

/-! What is made and what is owed. -/

/-- What is owed changes by the restart that begins. -/
theorem Feed.owed (feed : Feed w next v) (lined : w.manager.Lined) (reached : w.move next = v)
    (other : next.asksRestart = false) :
    v.manager.owed = w.manager.owed + (w.begins next).toNat := by
  have same (jobs : v.manager.jobs = w.manager.jobs) :
      v.manager.owed = w.manager.owed + (w.begins next).toNat := by
    have still : w.begins next = false := begins_eq_false (by simp [reached, job?, jobs])
    simp [Manager.owed, jobs, still]
  -- a job that is over owes nothing
  have forgets {j : JobId} {x : Job} (found : w.manager.job? j = some x) (done : x.isDone) :
      (w.manager.jobs.filter fun y => y.id ≠ j).countP Job.owes = w.manager.owed := by
    rw [List.countP_filter, Manager.owed]
    refine List.countP_congr fun y mem => ?_
    simp only [Bool.and_eq_true, decide_eq_true_eq, and_iff_left_iff_imp]
    rintro owes rfl
    obtain rfl := Option.some.inj (found.symm.trans (lined.job?_of_mem mem))
    simp [Job.not_owes_of_isDone done] at owes
  cases feed with
  | begin turn idle gathers due =>
    have now := job?_add (n := w.manager.begun) idle rfl restartJob
    have begins : w.begins .go := by simp [begins, idle, reached, now]
    simp [begins, Manager.owed, begun, List.countP_append, Job.owes]
  | putAway turn found done =>
    have still : w.begins .go = false := begins_eq_false (by simp [found])
    rw [still]
    exact forgets found done
  | @collect j x found done apart =>
    have still : w.begins (.collect j) = false := begins_eq_false (by
      rw [reached, job?_forget, if_neg apart.symm]
      exact id)
    rw [still]
    exact forgets found done
  | ask task =>
    have old : restartJob ≠ w.manager.nextJob := Nat.ne_of_lt lined.positive
    have still : w.begins (.ask task) = false := begins_eq_false (by
      rw [reached, job?_ask lined.free, if_neg old]
      exact id)
    rw [still]
    cases task <;> simp_all [Manager.owed, Manager.ask, Job.owes, Move.asksRestart]
  | look | forward | restart | hear | change | wait | turned => exact same rfl

/-- Nothing but what is owed is made. -/
theorem Sound.made_le (h : w.Sound) (begun : w.manager.started) (other : next.asksRestart = false) :
    (w.move next).site.backends.length + (w.move next).manager.owed ≤
      w.site.backends.length + w.manager.owed + (w.begins next).toNat := by
  have stir := stir_move h.lined next
  generalize reached : w.move next = v at stir
  cases stir with
  | step go turn job found ready step =>
    exact Nat.le_add_right_of_le (step.owed_le h.lined found begun)
  | feed feed =>
    rw [feed.owed h.lined reached other, ← (feed.aside h.lined).2.backends]
    omega

theorem Sound.started_move (h : w.Sound) (begun : w.manager.started) (next : Move) :
    (w.move next).manager.started := by
  have course := course_move h.lined next
  generalize w.move next = v at course
  cases course with
  | step turn job found step => exact step.started_mono begun
  | aside manager => exact manager.started.trans begun
  | ended => exact begun

theorem Sound.made_le_run (h : w.Sound) (begun : w.manager.started)
    (others : ∀ next ∈ moves, next.asksRestart = false) :
    (w.run moves).site.backends.length + (w.run moves).manager.owed ≤
      w.site.backends.length + w.manager.owed + w.restarts moves := by
  induction moves generalizing w with
  | nil => exact Nat.le_refl _
  | cons next moves ih =>
    have first := h.made_le begun (others next (by simp))
    have rest := ih (h.move next) (h.started_move begun next)
      fun next mem => others next (by simp [mem])
    simp only [run_cons, restarts]
    omega

/-- Can everything be had that a server for the scope is made of? -/
def CanMake (scope : Scope) (w : Moment) : Prop :=
  w.CanRead scope ∧ ∀ name, (w.site.plan name).createFailure = none

/-- What is owed is made, as long as nothing fails. -/
theorem Attended.le_made {scope : Scope} {window : Nat} (h : w.Attended)
    (live : w.manager.disposed = false) (waits : w.Waits window)
    (bound : w.manager.scope = some scope) (makes : w.CanMake scope)
    (other : next.asksRestart = false) :
    w.site.backends.length + w.manager.owed + (w.begins next).toNat ≤
      (w.move next).site.backends.length + (w.move next).manager.owed := by
  have stir := stir_move h.lined next
  generalize reached : w.move next = v at stir
  cases stir with
  | @step duty x go turn job found ready step options acts =>
    have still : w.begins next = false := begins_of_jobStep found (reached.symm ▸ step)
    obtain ⟨stage, advance⟩ := step.advance
    have count := h.lined.countP_put found advance.jobs Job.owes
    have length : w.site.backends.length ≤ v.site.backends.length := step.grows.length_le
    by_cases owes : x.owes
    · have watched : w.manager.provider.watch.isSome := by
        obtain ⟨d, gathers, _⟩ := waits
        rw [← h.gathering.restarter, gathers]
        rfl
      have own : w.manager.provider.scope = some scope :=
        (h.own.scope.resolve_left (h.gathering.bound watched)).trans bound
      have binds {aim : Scope} (binding : x.stage = .binding aim) :
          x.task = .start aim ∧ aim = scope := by
        have task := h.own.binds found binding
        have aims : x.aim? = some aim := by simp [Job.aim?, binding, task]
        have aimed := h.own.aimed found aims
        exact ⟨task, Option.some.inj (aimed.symm.trans bound)⟩
      have pays := stepJob_owes (s := w.ticked) owes live bound own binds makes.1 makes.2
      rw [acts] at pays
      rcases pays with ⟨after, jobs, goesOn⟩ | more
      · have same := h.lined.countP_put found jobs Job.owes
        rw [if_pos owes, if_pos goesOn] at same
        rw [still, show v.manager.owed = w.manager.owed from Nat.add_right_cancel same]
        exact Nat.add_le_add_right length _
      · have more : w.site.backends.length < v.site.backends.length := more
        rw [if_pos owes] at count
        simp only [still, Manager.owed, Bool.toNat_false]
        omega
    · rw [if_neg owes] at count
      simp only [still, Manager.owed, Bool.toNat_false]
      omega
  | feed feed =>
    rw [feed.owed h.lined reached other, ← (feed.aside h.lined).2.backends]
    omega

theorem Attended.made_run {scope : Scope} {window : Nat} (h : w.Attended) (waits : w.Waits window)
    (bound : w.manager.scope = some scope) (makes : w.Throughout (CanMake scope) moves)
    (others : ∀ next ∈ moves, next.asksRestart = false)
    (live : (w.run moves).manager.disposed = false) :
    w.site.backends.length + w.manager.owed + w.restarts moves ≤
      (w.run moves).site.backends.length + (w.run moves).manager.owed := by
  induction moves generalizing w with
  | nil => exact Nat.le_refl _
  | cons next moves ih =>
    have goesOn := (h.move next).toSound.live_of_run live
    have first := h.le_made (h.toSound.live_of_move goesOn) waits bound makes.first
      (others next (by simp))
    have rest := ih (h.move next) ((gatherStep_move h next).waits goesOn waits)
      (h.toSound.scope_stays bound next) makes.2 (fun next mem => others next (by simp [mem])) live
    simp only [run_cons, restarts]
    omega

theorem owed_of_idle (idle : w.isIdle) : w.manager.owed = 0 := by
  refine List.countP_eq_zero.mpr fun x mem owes => ?_
  simp [Job.not_owes_of_isDone (idle x mem)] at owes

/-- Without a job that owes a server, a server in the slot stays there until the disposal. -/
theorem Sound.slot_stays (h : w.Sound) (none : w.manager.owed = 0)
    (live : (w.move next).manager.disposed = false) {b : BackendId}
    (inside : w.manager.slot = some b) : (w.move next).manager.slot = some b := by
  have course := course_move h.lined next
  generalize w.move next = v at course live
  cases course with
  | @step _ duty x turn job found step =>
    have free : x.owes = false := by
      simpa using List.countP_eq_zero.mp none x (mem_of_job? found)
    exact step.slot_stays free (h.accounts.closed found) (h.accounts.alone found) live inside
  | aside manager => exact manager.slot.trans inside
  | ended => exact inside

/-! Inputs that stay as they are. -/

/-- What the manager watches is what it last saw, as far as it can be read. -/
def Unchanged (w : Moment) : Prop :=
  w.manager.provider.watch.isSome →
    w.manager.provider.knows w.site.host .settings ∧
      ∀ modules, w.site.host.modules w.manager.provider.resource = .ok modules →
        w.manager.provider.seen.modules = modules

/-- No change of the interpreters is announced that was not read. -/
def Heedless (w : Moment) : Prop :=
  ∀ k, w.manager.provider.watch = some k → k.interpreter.isEmpty

/-- Whoever looks at inputs that are those last seen has nothing to announce. -/
theorem Unchanged.silent (unchanged : w.Unchanged) (heedless : w.Heedless)
    (other : next.callsForRestart = false) : w.notifies next = false := by
  unfold notifies
  split
  · next duty turn =>
    rw [Bool.and_eq_false_imp]
    intro ready
    rw [decide_eq_false_iff_not, Nat.not_lt, Nat.le_zero]
    have watched := Provider.isSome_of_isReady ready
    obtain ⟨settings, environment⟩ := unchanged watched
    cases duty with
    | listen =>
      obtain ⟨k, watch⟩ := Option.isSome_iff_exists.mp watched
      have empty := heedless k watch
      simp only [Inbox.isEmpty, Bool.and_eq_true, List.isEmpty_iff, beq_iff_eq] at empty
      simp [Provider.act_listen watch, Inbox.receipts, empty]
    | checkSettings =>
      have same := congrArg
        (fun i : Inputs => { i with modules := w.manager.provider.seen.modules }) settings
      rw [Provider.act_checkSettings]
      exact if_neg fun differs => differs same
    | checkEnvironment =>
      cases read : w.site.host.modules w.manager.provider.resource with
      | error => rw [Provider.act_checkEnvironment_error read]
      | ok modules =>
        rw [Provider.act_checkEnvironment read]
        exact if_neg fun differs => differs (environment modules read)
  · simp [Move.callsForRestart] at other
  · rfl

theorem Attended.heedless_move (h : w.Attended) (heedless : w.Heedless)
    (other : next.callsForRestart = false) : (w.move next).Heedless := by
  have stir := stir_move h.lined next
  generalize w.move next = v at stir
  have same (watch : v.manager.provider.watch = w.manager.provider.watch) : v.Heedless := by
    intro k there
    exact heedless k (watch ▸ there)
  cases stir with
  | step go turn job found ready step options =>
    cases options with
    | aside _ _ provider | unread _ _ provider => exact same (by rw [provider])
    | unbound _ _ provider | asked _ _ _ provider => exact same (by rw [provider])
    | closed _ _ _ provider =>
      intro k there
      simp [provider, Provider.dispose] at there
    | bound _ _ provider =>
      intro k there
      obtain rfl : freshWatch w.ticked.host = k := by simpa [provider] using there
      rfl
  | feed feed =>
    cases feed with
    | look =>
      intro k there
      obtain ⟨before, watch, became⟩ := Provider.watch_act there
      split at became
      · subst became
        rfl
      · subst became
        exact heedless before watch
      · subst became
        exact heedless before watch
    | hear event =>
      intro k there
      obtain ⟨before, watch, rfl⟩ := Option.map_eq_some_iff.mp there
      cases event with
      | interpreter => simp [Move.callsForRestart] at other
      | settings | environment => exact heedless before watch
    | forward | begin | putAway | ask | restart | change | wait | collect | turned => exact same rfl

theorem Attended.notices_of_unchanged (h : w.Attended) (heedless : w.Heedless)
    (unchanged : w.Throughout Unchanged moves)
    (others : ∀ next ∈ moves, next.callsForRestart = false) : w.notices moves = [] := by
  induction moves generalizing w with
  | nil => rfl
  | cons next moves ih =>
    have other := others next (by simp)
    have silent := Unchanged.silent unchanged.first heedless other
    have rest := ih (h.move next) (h.heedless_move heedless other) unchanged.2
      fun next mem => others next (by simp [mem])
    simp [notices, silent, rest]

theorem Attended.slot_run (h : w.Attended) (begun : w.manager.started) (rests : w.manager.Rests)
    (silent : w.notices moves = []) (none : w.manager.owed = 0)
    (others : ∀ next ∈ moves, next.asksRestart = false)
    (live : (w.run moves).manager.disposed = false) {b : BackendId}
    (inside : w.manager.slot = some b) : (w.run moves).manager.slot = some b := by
  induction moves generalizing w with
  | nil => exact inside
  | cons next moves ih =>
    obtain ⟨first, rest⟩ := List.append_eq_nil_iff.mp silent
    have quiet : w.notifies next = false := by simpa using first
    obtain ⟨after, still⟩ := (gatherStep_move h next).rests quiet rests
    have other := others next (by simp)
    have goesOn := (h.move next).toSound.live_of_run live
    have less := h.made_le begun other
    have more := h.length_le next
    rw [still, none] at less
    exact ih (h.move next) (h.started_move begun next) after rest (by simp at less; omega)
      (fun next mem => others next (by simp [mem])) live (h.slot_stays none goesOn inside)

/-- Restarts come of changes. As long as the inputs are those last seen, no announcement about
settings or the environment is a notice of a change: no restart begins but those gathered before,
and a manager at rest makes no server and keeps the one in its slot. A burst of notices leads a
manager at rest to one restart when it is over, also if a restart is running when they come: every
server that was there before is disposed of once, and one is made for that restart, besides those
that were owed already. -/
theorem one_restart_for_each_burst (variant : Variant) (host : Host)
    (plan : BackendName → Plan) (clock : Clock) (before moves : List Move) :
    let w := (opening variant host plan clock).run before
    let v := w.run moves
    (w.Heedless → (∀ next ∈ moves, next.callsForRestart = false) → w.Throughout Unchanged moves →
      w.notices moves = [] ∧ w.restarts moves ≤ w.manager.gathered ∧
      (w.manager.Rests → w.manager.started → w.manager.owed = 0 →
        (∀ next ∈ moves, next.asksRestart = false) →
        v.site.backends.length = w.site.backends.length ∧
        ∀ b, w.manager.slot = some b → v.manager.disposed = false → v.manager.slot = some b)) ∧
    (∀ window, w.manager.Rests → w.Waits window → IsBurst window (w.notices moves) →
      w.isPrompt moves → v.manager.disposed = false → v.isSettled →
      (w.restarts moves = if w.notices moves = [] then 0 else 1) ∧
      (w.notices moves ≠ [] → ∀ b < w.site.backends.length, v.site.disposals b = 1) ∧
      (∀ scope, w.manager.scope = some scope → w.Throughout (CanMake scope) moves →
        (∀ next ∈ moves, next.asksRestart = false) →
        v.site.backends.length = w.site.backends.length + w.manager.owed + w.restarts moves) ∧
      ∀ b < v.site.backends.length, v.site.starts b = 1) := by
  intro w v
  have attended : w.Attended := (attended_opening variant host plan clock).run before
  have once : v.site.startedOnce := by
    have opening := (attended_opening variant host plan clock).toSound
    have none : (Moment.opening variant host plan clock).site.startedOnce := by
      intro b there
      simp [Moment.opening] at there
    exact attended.startedOnce_run (opening.startedOnce_run none before) moves
  refine ⟨fun heedless others unchanged => ?_,
    fun window rests waits burst prompt live settled => ?_⟩
  · have silent := attended.notices_of_unchanged heedless unchanged others
    refine ⟨silent, attended.restarts_le silent, fun rests begun none asks => ⟨?_, ?_⟩⟩
    · have less := attended.made_le_run begun asks
      have more : w.site.backends.length ≤ v.site.backends.length := attended.length_le_run moves
      rw [none, attended.restarts_of_rests rests silent] at less
      exact Nat.le_antisymm (Nat.le_of_add_right_le less) more
    · exact fun b inside live => attended.slot_run begun rests silent none asks live inside
  · have ended : v.Attended := attended.run moves
    refine ⟨attended.restarts_of_burst rests waits burst prompt live settled,
      fun notices b made => ?_, fun scope bound makes asks => ?_, once⟩
    · refine ended.disposals_of_not_has (Nat.lt_of_lt_of_le made (attended.length_le_run moves)) ?_
      exact attended.gone_of_notices waits notices live settled made
    · have begun : w.manager.started := attended.opening.given (by simp [bound])
      have less := attended.made_le_run begun asks
      have more := attended.made_run waits bound makes asks live
      rw [owed_of_idle settled.1] at less more
      exact Nat.le_antisymm less more

/-- A manager has its first server. -/
def firstServer : List Move := firstStart ++ [.wait 5, .take (.job 1), .go, .yield]

/-- Announcements that there are changes, where nothing has changed, and looks at both sources. -/
def idleLooks : List Move :=
  [.hear (.settings ⟨["python.analysis"]⟩), .hear .environment, .take (.options .listen), .go,
    .yield, .wait 1000, .take (.options .checkSettings), .go, .yield,
    .take (.options .checkEnvironment), .go, .yield]

/-- Two notices that come one after the other, and the restart that they lead to. -/
def twoNotices : List Move :=
  [.hear .interpreter, .take (.options .listen), .go, .yield, .take .forward, .go, .yield,
    .wait 900, .hear .interpreter, .take (.options .listen), .go, .yield,
    .take .forward, .go, .yield, .wait 1000, .take .restart, .go, .go, .go, .go, .go, .yield,
    .wait 5, .take .restart, .go, .go, .yield]

theorem one_restart_for_two_notices :
    ((opening .simple plainHost slowPlan {}).run firstServer).notices idleLooks = [] ∧
    ((opening .simple plainHost slowPlan {}).run firstServer).restarts twoNotices = 1 ∧
    (((opening .simple plainHost slowPlan {}).run firstServer).run
      twoNotices).site.disposals 0 = 1 ∧
    (((opening .simple plainHost slowPlan {}).run firstServer).run
      twoNotices).site.backends.length = 2 := by
  have rests : ((opening .simple plainHost slowPlan {}).run firstServer).manager.Rests :=
    rests_iff.mpr (by decide)
  have heedless : ((opening .simple plainHost slowPlan {}).run firstServer).Heedless := by
    have empty : ((opening .simple plainHost slowPlan {}).run
        firstServer).manager.provider.watch.all (·.interpreter.isEmpty) := by decide
    intro k there
    generalize (opening .simple plainHost slowPlan {}).run firstServer = w at empty there
    simpa [there] using empty
  have unchanged : ((opening .simple plainHost slowPlan {}).run firstServer).Throughout Unchanged
      idleLooks := by
    refine ⟨?_, ?_, ?_, ?_, ?_, ?_, ?_, ?_, ?_, ?_, ?_, ?_, ?_⟩ <;>
      exact fun _ => ⟨rfl, fun _ read => Except.ok.inj read⟩
  have first := one_restart_for_each_burst .simple plainHost slowPlan {} firstServer idleLooks
  have second := one_restart_for_each_burst .simple plainHost slowPlan {} firstServer twoNotices
  have waits : ((opening .simple plainHost slowPlan {}).run firstServer).Waits 1000 :=
    ⟨⟨1000, .idle⟩, by decide, rfl⟩
  have times : ((opening .simple plainHost slowPlan {}).run firstServer).notices twoNotices =
      [5, 905] := by decide
  have burst : IsBurst 1000 (((opening .simple plainHost slowPlan {}).run firstServer).notices
      twoNotices) := by
    rw [times]
    exact List.isChain_cons_cons.mpr ⟨by decide, .singleton _⟩
  have settled :
      (((opening .simple plainHost slowPlan {}).run firstServer).run twoNotices).isSettled := by
    have idle : (((opening .simple plainHost slowPlan {}).run firstServer).run
        twoNotices).manager.jobs.all Job.isDone := by decide
    exact ⟨fun x mem => List.all_eq_true.mp idle x mem, by decide⟩
  have makes : ((opening .simple plainHost slowPlan {}).run firstServer).Throughout
      (CanMake looseScope) twoNotices := by
    have steady : ∀ next ∈ twoNotices, next.isSteady := by decide
    have lined := lined_run (w := opening .simple plainHost slowPlan {}) (lined_new .simple)
      firstServer
    refine throughout_of_changes (P := fun host plan => (∃ modules,
      host.modules looseScope.resource = .ok modules) ∧
        ∀ name, (plan name).createFailure = none) lined
      ⟨⟨"", rfl⟩, fun _ => rfl⟩ fun host plan mem => ?_
    have changes := steady _ mem
    simp [Move.isSteady] at changes
  obtain ⟨none, -⟩ := first.1 heedless (by decide) unchanged
  obtain ⟨one, gone, made, -⟩ := second.2 1000 rests waits burst (by decide) (by decide) settled
  rw [times, if_neg (by simp)] at one
  refine ⟨none, one, gone (by simp [times]) 0 (by decide), ?_⟩
  rw [made looseScope (by decide) makes (by decide), one]
  decide

end Moment

end Manager

end LanguageBroker
