import LanguageBroker.Proofs.JobProgress
import LanguageBroker.Proofs.OneServer

/-!
What the disposal of a manager means for everything that was on its way when it was called, and for
all that comes later. First starts that are not over fail, the servers that are still coming up are
disposed of by the jobs that made them, and once all jobs are over there is no server any more.
-/

namespace LanguageBroker.Manager.Moment

/-- Was the disposal called? -/
def isDisposing (w : Moment) : Bool :=
  w.manager.jobs.any fun x => decide (x.task = .dispose) && decide (x.stage.rank < 7)

variable {w v : Moment}

theorem Sound.disposed (h : w.Sound) (called : w.isDisposing) : w.manager.disposed := by
  simp only [isDisposing, List.any_eq_true, Bool.and_eq_true, decide_eq_true_eq] at called
  obtain ⟨x, mem, task, begun⟩ := called
  refine h.accounts.closed (h.lined.job?_of_mem mem) task fun fresh => ?_
  simp [fresh, Job.Stage.rank] at begun

/-- First starts that were not over at `w` and are over at `v` have failed. -/
structure Refuses (w v : Moment) : Prop where
  disposed : v.manager.disposed
  failed : ∀ {j x o}, v.manager.job? j = some x → x.isStart → w.manager.outcome? j = none →
    x.stage = .done o → o.isFailure

theorem refuses_self (disposed : w.manager.disposed) : Refuses w w where
  disposed := disposed
  failed {j x o} hx _ open' ended := by
    obtain ⟨id, task, stage⟩ := x
    obtain rfl : stage = .done o := ended
    simp [outcome?, hx] at open'

theorem Refuses.course {u : Moment} (h : Refuses w v) (course : Course v u) : Refuses w u := by
  cases course with
  | @step _ duty x turn job found step same =>
    obtain ⟨stage, advance⟩ := step.advance
    refine ⟨step.disposed h.disposed, fun {j y o} hy start open' ended => ?_⟩
    rw [job?_of_jobs found advance.jobs] at hy
    split at hy
    · obtain rfl := Option.some.inj hy
      exact advance.refused h.disposed start o ended
    · exact h.failed hy start open' ended
  | aside manager site turn =>
    refine ⟨by rw [manager.disposed]; exact h.disposed, fun {j y o} hy start open' ended => ?_⟩
    rcases manager.old hy with old | ⟨fresh, _⟩
    · exact h.failed old start open' ended
    · simp [fresh] at ended
  | ended turn free => exact ⟨h.disposed, h.failed⟩

theorem refuses_run (lined : w.manager.Lined) (disposed : w.manager.disposed)
    (moves : List Move) : Refuses w (w.run moves) := by
  have keeps (v : Moment) (next : Move) (h : v.manager.Lined ∧ Refuses w v) :
      (v.move next).manager.Lined ∧ Refuses w (v.move next) :=
    ⟨lined_move h.1 next, h.2.course (course_move h.1 next)⟩
  exact (run_induction keeps ⟨lined, refuses_self disposed⟩ moves).2

theorem Refuses.outcome (h : Refuses w v) {x : Job} (found : v.manager.job? x.id = some x)
    (start : x.isStart) (open' : w.manager.outcome? x.id = none) {o : Job.Outcome}
    (ended : v.manager.outcome? x.id = some o) : ∃ cause, o = .failed cause := by
  obtain ⟨id, task, stage⟩ := x
  cases stage with
  | done o' =>
    obtain rfl : o' = o := by simpa [outcome?, found] using ended
    have failure := h.failed found start open' rfl
    cases o' with
    | failed cause => exact ⟨cause, rfl⟩
    | _ => simp [Job.Outcome.isFailure] at failure
  | _ => simp [outcome?, found] at ended

/-- A manager that is disposed of and at rest: no server is left, and no job can make one. -/
structure Gone (w : Moment) : Prop where
  disposed : w.manager.disposed
  empty : w.manager.slot = none
  waits : ∀ {j x}, w.manager.job? j = some x →
    x.stage = .fresh ∨ x.isDone ∨ x.stage = .queued ∧ ¬ x.isStart
  parted : ∀ b < w.site.backends.length, w.site.disposals b = 1

theorem Gone.course (h : Gone w) (course : Course w v) : Gone v := by
  cases course with
  | @step _ duty x turn job found step same =>
    have waits : x.stage = .fresh ∨ x.stage = .queued ∧ ¬ x.isStart := by
      rcases h.waits found with fresh | done | queued
      · exact .inl fresh
      · obtain ⟨stage, advance⟩ := step.advance
        have nearer := advance.nearer
        cases ended : x.stage <;> simp_all [Job.isDone, Job.Stage.rank]
      · exact .inr queued
    obtain ⟨tick, empty, stage, jobs, rest⟩ := step.after_disposal h.disposed h.empty waits
    have jobs := job?_of_jobs found jobs
    have site : w.site.SameServers v.site := tick ▸ ⟨rfl, rfl, rfl⟩
    refine ⟨step.disposed h.disposed, empty, fun {i y} hy => ?_, fun b made => ?_⟩
    · rw [jobs] at hy
      split at hy
      · obtain rfl := Option.some.inj hy
        exact .inr rest
      · exact h.waits hy
    · rw [Site.disposals, site.tally]
      exact h.parted b (site.backends ▸ made)
  | aside manager site turn =>
    refine ⟨by rw [manager.disposed]; exact h.disposed, by rw [manager.slot]; exact h.empty,
      fun hx => ?_, fun b made => ?_⟩
    · rcases manager.old hx with old | ⟨fresh, _⟩
      · exact h.waits old
      · exact .inl fresh
    · rw [Site.disposals, site.tally]
      exact h.parted b (site.backends ▸ made)
  | ended turn free => exact ⟨h.disposed, h.empty, h.waits, h.parted⟩

theorem Gone.run (h : Gone w) (lined : w.manager.Lined) (moves : List Move) :
    Gone (w.run moves) := by
  have keeps (w : Moment) (next : Move) (h : w.manager.Lined ∧ Gone w) :
      (w.move next).manager.Lined ∧ Gone (w.move next) :=
    ⟨lined_move h.1 next, h.2.course (course_move h.1 next)⟩
  exact (run_induction keeps ⟨lined, h⟩ moves).2

theorem Gone.not_isLive (h : Gone w) (b : BackendId) : ¬ w.site.isLive b := by
  rintro ⟨started, live⟩
  by_cases made : b < w.site.backends.length
  · simp [h.parted b made] at live
  · have none : w.site.starts b = 0 := Site.tally_of_ge (Nat.le_of_not_lt made) _
    simp [none] at started

/-- Once all jobs of a manager that is disposed of are over, nothing is left. -/
theorem Sound.gone (h : w.Sound) (disposed : w.manager.disposed) (idle : w.isIdle) : Gone w where
  disposed := disposed
  empty := by
    rcases h.accounts.emptied disposed with empty | ⟨j, x, hx, task, queued⟩
    · exact empty
    · have done := idle x (mem_of_job? hx)
      simp [Job.isDone, queued] at done
  waits hx := .inr (.inl (idle _ (mem_of_job? hx)))
  parted b made := by
    rcases h.settled idle made with ⟨inside, _, _⟩ | parted
    · rcases h.accounts.emptied disposed with empty | ⟨j, x, hx, task, queued⟩
      · simp [empty] at inside
      · have done := idle x (mem_of_job? hx)
        simp [Job.isDone, queued] at done
    · exact parted

theorem outcome?_of_idle (lined : w.manager.Lined) (idle : w.isIdle) {x : Job}
    (mem : x ∈ w.manager.jobs) : (w.manager.outcome? x.id).isSome := by
  have found := lined.job?_of_mem mem
  have done := idle x mem
  obtain ⟨id, task, stage⟩ := x
  cases stage <;> simp_all [Job.isDone, outcome?]

/-- Surroundings in which everything is there and nothing is set. -/
def plainHost : Host where
  folders := []
  settings _ := {}
  environment _ := .ok []
  interpreter _ := .ok none
  isSupported _ := true
  prefersSimple := false
  install _ _ := .ok ()
  serverFolder _ := none
  isRegistered _ := true
  quietTime := Host.usualQuietTime

/-- Servers take five milliseconds to come up. -/
def slowPlan (_ : BackendName) : Plan := { startDelay := 5 }

/-- A first start has its server coming up when the disposal is called. -/
def disposalDuringStart : List Move :=
  [.ask (.start ⟨none, none, ⟨"/usr/bin/python", none⟩⟩), .take (.job 1), .go, .go, .go, .go,
    .yield, .ask .dispose, .take (.job 2), .go]

/-- The server comes up and is disposed of, and the disposal finds the slot empty. -/
def lateArrival : List Move :=
  [.go, .yield, .wait 5, .take (.job 1), .go, .go, .yield, .take (.job 2), .go, .yield]

end LanguageBroker.Manager.Moment
