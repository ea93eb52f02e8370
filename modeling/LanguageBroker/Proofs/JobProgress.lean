import LanguageBroker.Proofs.ManagerMoves
import Mathlib.Algebra.GroupWithZero.Nat
import Mathlib.Algebra.Order.BigOperators.Group.List
import Mathlib.Algebra.Order.Group.Nat

/-!
Every job comes to an end. Each step brings a job nearer to it, and as long as a job is not over,
some job can take a step, at once or when a server is ready: whoever has the slot waits for a
server at most, and whoever waits for the slot, waits for those before it.
-/

namespace LanguageBroker.Manager

/-- How many steps all jobs together may take. -/
def work (m : Manager) : Nat := (m.jobs.map fun x => x.stage.rank).sum

namespace Lined

variable {m n : Manager} {x : Job}

theorem work_lt (h : m.Lined) (hx : m.job? x.id = some x) {stage : Job.Stage}
    (nearer : stage.rank < x.stage.rank) (jobs : n.jobs = (m.put x.id stage).jobs) :
    n.work < m.work := by
  have same : (n.jobs.map fun y => y.stage.rank) =
      m.jobs.map fun y => if y.id = x.id then stage.rank else y.stage.rank := by
    simp only [jobs, Manager.put, List.map_map]
    congr 1
    funext y
    by_cases here : y.id = x.id <;> simp [here]
  simp only [work, same]
  refine List.sum_lt_sum _ _ (fun y hy => ?_) ⟨x, mem_of_job? hx, by simpa using nearer⟩
  split
  · next here =>
    have found := h.job?_of_mem hy
    rw [here] at found
    obtain rfl : x = y := Option.some.inj (hx.symm.trans found)
    exact Nat.le_of_lt nearer
  · exact Nat.le_refl _

/-- As long as a job is not over, some job can go on, at least when enough time has passed. -/
theorem exists_canStep (h : m.Lined) {y : Job} (hy : m.job? y.id = some y) (busy : ¬ y.isDone) :
    ∃ x, m.job? x.id = some x ∧ ∃ time, ∀ clock : Clock, time ≤ clock.now → m.canStep clock x := by
  have waits {x : Job} {due : Deadline} (hx : m.job? x.id = some x)
      (deadline : x.stage.deadline = some due) :
      ∃ x, m.job? x.id = some x ∧
        ∃ time, ∀ clock : Clock, time ≤ clock.now → m.canStep clock x := by
    refine ⟨x, hx, due.time, fun clock late => ?_⟩
    cases stage : x.stage <;> simp_all [Job.Stage.deadline, canStep, Clock.reached]
  by_cases inside : y.inLine
  · -- whoever stands at the head can go on
    have mem := (h.mem_line y.id).mpr ⟨y, hy, inside⟩
    cases line : m.line with
    | nil => simp [line] at mem
    | cons i rest =>
      obtain ⟨x, hx, has⟩ := (h.mem_line i).mp (by simp [line])
      obtain rfl := job?_id hx
      cases stage : x.stage with
      | queued => exact ⟨x, hx, 0, fun clock _ => by simp [canStep, stage, line]⟩
      | launching scope => exact ⟨x, hx, 0, fun clock _ => by simp [canStep, stage]⟩
      | retiring | starting | discarding | withdrawing =>
        exact waits hx (by rw [stage]; rfl)
      | _ => simp [Job.inLine, Job.holds, stage] at has
  · cases stage : y.stage with
    | fresh => exact ⟨y, hy, 0, fun clock _ => by simp [canStep, stage]⟩
    | binding scope => exact ⟨y, hy, 0, fun clock _ => by simp [canStep, stage]⟩
    | withdrawing => exact waits hy (by rw [stage]; rfl)
    | done => simp [Job.isDone, stage] at busy
    | _ => simp [Job.inLine, Job.holds, stage] at inside

end Lined

/-- Is it a move of the manager's own, or the passing of time? -/
def Move.isOwn : Move → Bool
  | .take _ | .go | .yield | .wait _ => true
  | _ => false

/-- Whoever has a turn for a job that is not over, takes it further. -/
theorem act_of_job {m : Manager} {clock : Clock} {duty : Duty} {x : Job}
    (job : duty.job? = some x.id) (found : m.job? x.id = some x) (live : ¬ x.isDone)
    (ready : m.isReady clock duty) :
    m.canStep clock x ∧ ∀ s, m.act s duty = m.stepJob s x := by
  cases duty with
  | job j =>
    obtain rfl : j = x.id := by simpa [Duty.job?] using job
    exact ⟨by simpa [isReady, isMoving, found] using ready, fun s => by simp [act, found]⟩
  | restart =>
    obtain same : restartJob = x.id := by simpa [Duty.job?] using job
    rw [← same] at found
    constructor
    · simp only [isReady, found, Bool.or_eq_true] at ready
      rcases ready with steps | ended
      · exact steps
      · obtain ⟨y, hy, done⟩ := isDone_of_outcome? ended
        obtain rfl : x = y := Option.some.inj (found.symm.trans hy)
        exact absurd done live
    · intro s
      cases stage : x.stage <;> simp_all [act, stepRestart, Job.isDone]
  | _ => simp [Duty.job?] at job

namespace Moment

variable {w : Moment}

theorem lined_move (lined : w.manager.Lined) (next : Move) : (w.move next).manager.Lined := by
  have course := course_move lined next
  generalize w.move next = v at course
  cases course with
  | step turn job found step same => exact lined.jobStep found step
  | aside manager site turn => exact manager.lined lined
  | ended turn free => exact lined

theorem lined_run (lined : w.manager.Lined) (moves : List Move) : (w.run moves).manager.Lined :=
  run_induction (P := fun w => w.manager.Lined) (fun _ next lined => lined_move lined next) lined
    moves

/-- A turn takes a job that can go on nearer to its end. -/
theorem go_advances (lined : w.manager.Lined) {duty : Duty} {x : Job} (turn : w.turn = some duty)
    (found : w.manager.job? x.id = some x) (steps : w.manager.canStep w.site.clock x)
    (acts : ∀ s, w.manager.act s duty = w.manager.stepJob s x) (ready : w.isReady duty) :
    (w.move .go).manager.work < w.manager.work ∧
      (w.move .go).manager.jobs.map (·.id) = w.manager.jobs.map (·.id) := by
  have gone : (w.move .go).manager =
      (w.manager.stepJob { w.site with clock := w.site.clock.tick } x).1 := by
    simp [move, turn, inside, ready, act, acts]
  have ticks : w.manager.canStep { w.site with clock := w.site.clock.tick }.clock x := steps
  obtain ⟨stage, advance⟩ := (jobStep_stepJob (lined.fits found) ticks).advance
  rw [gone]
  refine ⟨lined.work_lt found advance.nearer advance.jobs, ?_⟩
  rw [advance.jobs]
  exact ids_put _ _ _

/-- A job that can go on comes nearer to its end when it has its turn. -/
theorem take_advances (lined : w.manager.Lined) (free : w.turn = none) {x : Job}
    (found : w.manager.job? x.id = some x) (steps : w.manager.canStep w.site.clock x) :
    (w.run [.take (.job x.id), .go]).manager.work < w.manager.work ∧
      (w.run [.take (.job x.id), .go]).manager.jobs.map (·.id) =
        w.manager.jobs.map (·.id) := by
  have ready : w.isReady (.job x.id) := by
    simpa [Moment.isReady, Manager.isReady, isMoving, found] using steps
  have taken : w.move (.take (.job x.id)) = { w with turn := some (.job x.id) } := by
    simp [move, free, outside, ready]
  simp only [run_cons, run_nil, taken]
  exact go_advances (w := { w with turn := some (.job x.id) }) lined rfl found steps
    (fun s => by simp [Manager.act, found]) ready

/-- Between turns there is always a job to take further, until all are over. -/
theorem exists_advance_free (lined : w.manager.Lined) (free : w.turn = none)
    (busy : ¬ w.isIdle) :
    ∃ moves : List Move, (∀ next ∈ moves, next.isOwn) ∧
      (w.run moves).manager.work < w.manager.work ∧
      (w.run moves).manager.jobs.map (·.id) = w.manager.jobs.map (·.id) := by
  simp only [isIdle, not_forall] at busy
  obtain ⟨y, mem, undone⟩ := busy
  obtain ⟨x, found, time, steps⟩ := lined.exists_canStep (lined.job?_of_mem mem) undone
  have waited : w.move (.wait time) =
      { w with site := { w.site with clock := w.site.clock.set (w.site.clock.now + time) } } := by
    simp [move, free, outside]
  refine ⟨[.wait time, .take (.job x.id), .go], by simp [Move.isOwn], ?_⟩
  rw [run_cons, waited]
  exact take_advances
    (w := { w with site := { w.site with clock := w.site.clock.set (w.site.clock.now + time) } })
    lined free found (steps _ (Nat.le_add_left _ _))

/-- Whoever has the turn, there are moves that take a job further. -/
theorem exists_advance (lined : w.manager.Lined) (busy : ¬ w.isIdle) :
    ∃ moves : List Move, (∀ next ∈ moves, next.isOwn) ∧
      (w.run moves).manager.work < w.manager.work ∧
      (w.run moves).manager.jobs.map (·.id) = w.manager.jobs.map (·.id) := by
  cases turn : w.turn with
  | none => exact exists_advance_free lined turn busy
  | some duty =>
    by_cases on : w.manager.goesOn w.site.clock duty
    · -- a job on its way to the slot has to go on
      refine ⟨[.go], by simp [Move.isOwn], ?_⟩
      simp only [goesOn, Bool.and_eq_true, Option.any_eq_true] at on
      obtain ⟨⟨_, ready⟩, x, found, comes⟩ := on
      obtain ⟨j, job, found⟩ := Option.bind_eq_some_iff.mp found
      obtain rfl := job?_id found
      have live : ¬ x.isDone := by
        cases stage : x.stage <;> simp_all [Job.isDone, Job.comes]
      obtain ⟨steps, acts⟩ := act_of_job job found live ready
      exact go_advances lined turn found steps acts ready
    · obtain ⟨moves, own, less, ids⟩ :=
        exists_advance_free (w := { w with turn := none }) lined rfl busy
      have ended : w.move .yield = { w with turn := none } := by simp [move, turn, inside, on]
      refine ⟨.yield :: moves, by simpa [Move.isOwn] using own, ?_⟩
      rw [run_cons, ended]
      exact ⟨less, ids⟩

/-- From every moment on, the manager can bring all its jobs to their ends. -/
theorem exists_idle (lined : w.manager.Lined) :
    ∃ moves : List Move, (∀ next ∈ moves, next.isOwn) ∧ (w.run moves).isIdle ∧
      (w.run moves).manager.jobs.map (·.id) = w.manager.jobs.map (·.id) := by
  -- on the work that is left, of which every advance leaves less
  induction work : w.manager.work using Nat.strong_induction_on generalizing w with
  | _ k ih =>
    by_cases idle : w.isIdle
    · exact ⟨[], by simp, idle, rfl⟩
    · obtain ⟨first, own, less, ids⟩ := exists_advance lined idle
      obtain ⟨rest, also, idle, same⟩ :=
        ih _ (work ▸ less) (lined_run lined first) rfl
      refine ⟨first ++ rest, ?_, ?_, ?_⟩
      · simpa [or_imp, forall_and] using ⟨own, also⟩
      · rwa [run_append]
      · rw [run_append, same, ids]

end Moment

end LanguageBroker.Manager
