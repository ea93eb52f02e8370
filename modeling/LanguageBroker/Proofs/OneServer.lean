import LanguageBroker.Proofs.FirstStart

/-!
A manager has one server at a time, whatever happens in whatever order. The next one is made when
the disposal of the last one is over, no server is disposed of twice, and none is forgotten.
-/

namespace LanguageBroker.Manager

/-- Two servers whose disposals were not called are one. -/
theorem Accounts.unique {m : Manager} {s : Site} (h : m.Accounts s) (lined : m.Lined)
    {b c : BackendId} (b_made : b < s.backends.length) (c_made : c < s.backends.length)
    (b_live : s.disposals b = 0) (c_live : s.disposals c = 0) : b = c := by
  rcases h.kept b_made b_live with inside | ⟨j, x, hx, coming⟩
  · exact (h.only_slot inside c_made c_live).symm
  · obtain rfl := job?_id hx
    have also := h.only_coming lined hx (Job.holds_of_coming coming) c_made c_live
    exact Option.some.inj (coming.symm.trans also)

/-- Only a job that has the slot and no other server to care for makes one. -/
theorem launching_of_made {m n : Manager} {s t : Site} {x : Job} (step : JobStep m s x n t)
    (more : s.backends.length < t.backends.length) :
    x.holds ∧ x.stage.coming? = none ∧ x.stage.leaving? = none := by
  have same {t : Site} (length : t.backends.length = s.backends.length)
      (more : s.backends.length < t.backends.length) : False :=
    absurd length (Nat.ne_of_gt more)
  cases step with
  | bind | come | close | bound | launch | quit => exact absurd more (Nat.lt_irrefl _)
  | retire | withdraw => exact (same (by simp) more).elim
  | relaunch | part => exact (same (by simp) more).elim
  | create stage made => simp [Job.holds, Job.Stage.coming?, Job.Stage.leaving?, stage]
  | uncreated stage made =>
    exact (same (congrArg List.length (Site.create_error made)) more).elim
  | discard stage failed =>
    obtain rfl : _ = _ := congrArg Prod.fst failed
    exact (same (by simp) more).elim
  | retract stage up disposed =>
    obtain rfl : _ = _ := congrArg Prod.fst up
    exact (same (by simp) more).elim
  | settle stage up live =>
    obtain rfl : _ = t := congrArg Prod.fst up
    exact (same (by simp) more).elim

namespace Moment

/-- All that every run keeps. -/
structure Sound (w : Moment) : Prop where
  lined : w.manager.Lined
  named : w.site.Named
  accounts : w.manager.Accounts w.site
  opening : Opening w.turn w.manager w.site

theorem sound_opening (variant : Variant) (host : Host) (plan : BackendName → Plan)
    (clock : Clock) : (opening variant host plan clock).Sound where
  lined := lined_new variant
  named :=
    { unique := by simp [opening, Site.backend?]
      counted := by simp [opening, Site.backend?]
      noted := by simp [opening] }
  accounts :=
    { slot := by simp [opening, new]
      coming := by simp [opening, new, job?]
      leaving := by simp [opening, new, job?]
      kept := by simp [opening]
      once := by simp [opening, Site.disposals, Site.tally, Site.backend?]
      alone := by simp [opening, new, job?]
      closed := by simp [opening, new, job?]
      parting := by simp [opening, new, job?]
      emptied := by simp [opening, new] }
  opening := opening_new variant none _ rfl

theorem Sound.course {w v : Moment} (h : w.Sound) (course : Course w v) : v.Sound := by
  cases course with
  | @step _ duty x turn job found step same =>
    have tick : w.site.SameServers { w.site with clock := w.site.clock.tick } := ⟨rfl, rfl, rfl⟩
    have still : Aside (fun _ => True) w.manager w.manager :=
      .of_jobs rfl rfl rfl rfl rfl rfl rfl rfl id
    have named := tick.named h.named
    have accounts := h.accounts.aside still tick
    have opening := turn ▸ h.opening.aside still tick
    -- the way of a first start and the accounts need each other: the slot is empty when it comes
    refine ⟨h.lined.jobStep found step, named_jobStep named step, ?_, ?_⟩
    · refine accounts_jobStep accounts h.lined named found (fun start queued => ?_) step
      exact opening.empty found (by simp [Job.opens, queued, start])
    · rw [same]
      exact opening.jobStep job found step
  | aside manager site turn =>
    refine ⟨manager.lined h.lined, site.named h.named, h.accounts.aside manager site, ?_⟩
    have opening := h.opening.aside manager site
    rcases turn with same | free
    · exact same ▸ opening
    · exact (free ▸ opening).anyTurn _
  | ended turn free =>
    exact ⟨h.lined, h.named, h.accounts, (turn ▸ h.opening).yield h.lined free⟩

theorem Sound.move {w : Moment} (h : w.Sound) (next : Move) : (w.move next).Sound :=
  h.course (course_move h.lined next)

theorem Sound.run {w : Moment} (h : w.Sound) (moves : List Move) : (w.run moves).Sound :=
  run_induction (fun _ next sound => sound.move next) h moves

/-- When a server is made, the disposals of all others are over. -/
theorem Sound.replaced {w : Moment} (h : w.Sound) {next : Move}
    (more : w.site.backends.length < (w.move next).site.backends.length) {b : BackendId}
    (made : b < w.site.backends.length) : w.site.disposals b = 1 ∧ ¬ w.isLeaving b := by
  have course := course_move h.lined next
  generalize w.move next = v at more course
  cases course with
  | @step _ duty x turn job found step same =>
    obtain ⟨holds, coming, leaving⟩ := launching_of_made step more
    constructor
    · have once := h.accounts.once b
      by_contra other
      have live : w.site.disposals b = 0 := by omega
      have server := h.accounts.only_coming h.lined found holds made live
      simp [coming] at server
    · rintro ⟨y, mem, going⟩
      have hy := h.lined.job?_of_mem mem
      -- only disposals shut down without the slot, and none does while somebody launches
      by_cases task : y.task = .dispose
      · simp [h.accounts.no_parting found holds hy task] at going
      · have also : y.holds := by
          cases stage : y.stage <;> simp_all [Job.Stage.leaving?, Job.holds]
        have same := h.lined.holder_unique found hy holds also
        rw [same] at hy
        obtain rfl : x = y := Option.some.inj (found.symm.trans hy)
        simp [leaving] at going
  | aside manager site turn => simp [site.backends] at more
  | ended turn free => simp at more

/-- When every job is over, a server is in the slot or its disposal was called. -/
theorem Sound.settled {w : Moment} (h : w.Sound) (idle : w.isIdle) {b : BackendId}
    (made : b < w.site.backends.length) :
    w.manager.slot = some b ∧ w.site.hasStarted b ∧ w.site.disposals b = 0 ∨
      w.site.disposals b = 1 := by
  by_cases live : w.site.disposals b = 0
  · left
    rcases h.accounts.kept made live with inside | ⟨j, x, hx, coming⟩
    · exact ⟨inside, (h.accounts.slot inside).2.2, live⟩
    · have done := idle x (mem_of_job? hx)
      cases stage : x.stage <;> simp_all [Job.isDone, Job.Stage.coming?]
  · right
    have once := h.accounts.once b
    omega

end Moment

end LanguageBroker.Manager
