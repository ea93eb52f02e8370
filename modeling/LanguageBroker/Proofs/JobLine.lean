import LanguageBroker.Manager
import Mathlib.Data.List.Nodup
import Mathlib.Tactic.Common

/-!
The jobs of a manager and the line before its slot. A job stands in line from the moment it comes
for the slot until it lets go of it, and whoever has the slot is at the head. Disposals give the
slot back as soon as they have emptied it, so they shut their server down without it.
-/

namespace LanguageBroker

/-- Does the job have the slot to itself? -/
def Job.holds (x : Job) : Bool :=
  match x.stage, x.task with
  | .withdrawing .., .dispose => false
  | .retiring .., _ | .launching _, _ | .starting .., _ | .discarding .., _ | .withdrawing .., _ =>
    true
  | _, _ => false

/-- Does the job wait for the slot or have it? -/
def Job.inLine (x : Job) : Bool :=
  match x.stage with
  | .queued => true
  | _ => x.holds

/-- Is it a first start? -/
def Job.isStart (x : Job) : Bool :=
  match x.task with
  | .start _ => true
  | _ => false

/-- Does the task neither make a first server nor dispose of one? -/
def Job.Task.isMild : Job.Task → Bool
  | .restart | .lookUp => true
  | .start _ | .dispose => false

def Job.isDone (x : Job) : Bool :=
  match x.stage with
  | .done _ => true
  | _ => false

/-- Can a job with that task come to that stage at all? -/
def Job.fits (x : Job) : Bool :=
  match x.stage, x.task with
  | .binding _, .start _ => true
  | .retiring .., .restart => true
  | .launching _, .start _ | .starting .., .start _ | .discarding .., .start _ => true
  | .launching _, .restart | .starting .., .restart | .discarding .., .restart => true
  | .withdrawing .., .lookUp => false
  | .fresh, _ | .queued, _ | .withdrawing .., _ | .done _, _ => true
  | _, _ => false

theorem Job.inLine_of_holds {x : Job} (h : x.holds) : x.inLine := by
  unfold Job.inLine
  split <;> simp_all [Job.holds]

theorem Job.not_inLine_of_isDone {x : Job} (done : x.isDone) : ¬ x.inLine := by
  unfold Job.isDone at done
  split at done
  · next stage => simp [Job.inLine, Job.holds, stage]
  · simp at done

namespace Manager

theorem job?_id {m : Manager} {j : JobId} {x : Job} (h : m.job? j = some x) : x.id = j := by
  simpa using List.find?_some h

theorem mem_of_job? {m : Manager} {j : JobId} {x : Job} (h : m.job? j = some x) : x ∈ m.jobs :=
  List.mem_of_find?_eq_some h

theorem job?_eq_none {m : Manager} {j : JobId} : m.job? j = none ↔ ∀ x ∈ m.jobs, x.id ≠ j := by
  simp [job?]

/-! What each operation on the list of jobs does to single jobs. -/

theorem job?_put (m : Manager) (j i : JobId) (stage : Job.Stage) :
    (m.put j stage).job? i =
      if i = j then (m.job? i).map fun x => { x with stage } else m.job? i := by
  have ids : ((fun x : Job => decide (x.id = i)) ∘
      fun x => if x.id = j then { x with stage } else x) = fun x => decide (x.id = i) := by
    funext x
    by_cases h : x.id = j <;> simp [h]
  simp only [put, job?, List.find?_map, ids]
  cases found : m.jobs.find? fun x => x.id = i with
  | none => simp
  | some x =>
    have hx : x.id = i := job?_id found
    by_cases h : i = j <;> simp [hx, h]

@[simp] theorem job?_put_self {m : Manager} {j : JobId} {x : Job} (h : m.job? j = some x)
    (stage : Job.Stage) : (m.put j stage).job? j = some { x with stage } := by
  simp [job?_put, h]

@[simp] theorem job?_put_of_ne {m : Manager} {j i : JobId} (h : i ≠ j) (stage : Job.Stage) :
    (m.put j stage).job? i = m.job? i := by
  simp [job?_put, h]

/-- A job goes to a stage, and all others stay where they are. -/
theorem job?_at {m k : Manager} {x : Job} (same : k.jobs = m.jobs) (hx : m.job? x.id = some x)
    (stage : Job.Stage) (i : JobId) :
    (k.put x.id stage).job? i = if i = x.id then some { x with stage } else m.job? i := by
  have found (i : JobId) : k.job? i = m.job? i := by simp [job?, same]
  split
  · next here =>
    subst here
    exact job?_put_self ((found _).trans hx) stage
  · next other => exact (job?_put_of_ne other stage).trans (found i)

theorem job?_of_jobs {m n : Manager} {x : Job} {stage : Job.Stage} (hx : m.job? x.id = some x)
    (jobs : n.jobs = (m.put x.id stage).jobs) (i : JobId) :
    n.job? i = if i = x.id then some { x with stage } else m.job? i := by
  have found : n.job? i = (m.put x.id stage).job? i := by simp [job?, jobs]
  rw [found, job?_at rfl hx]

theorem ids_put (m : Manager) (j : JobId) (stage : Job.Stage) :
    (m.put j stage).jobs.map (·.id) = m.jobs.map (·.id) := by
  simp only [put, List.map_map]
  congr 1
  funext x
  by_cases h : x.id = j <;> simp [h]

theorem job?_forget (m : Manager) (j i : JobId) :
    (m.forget j).job? i = if i = j then none else m.job? i := by
  simp only [forget, leave, job?, List.find?_filter]
  split
  · next h =>
    subst h
    rw [List.find?_eq_none]
    intro x _
    simp
  · next h =>
    congr 1
    funext x
    by_cases hx : x.id = i
    · simp [hx, h]
    · simp [hx]

theorem job?_of_forget {m : Manager} {j i : JobId} {x : Job} (hx : (m.forget j).job? i = some x) :
    m.job? i = some x := by
  rw [job?_forget] at hx
  split at hx
  · simp at hx
  · exact hx

/-- A job with a new number comes to the others. -/
theorem job?_add {m n : Manager} {j : JobId} {task : Job.Task} (free : m.job? j = none)
    (jobs : n.jobs = m.jobs ++ [{ id := j, task }]) (i : JobId) :
    n.job? i = if i = j then some { id := j, task } else m.job? i := by
  simp only [job?, jobs, List.find?_append, List.find?_singleton]
  by_cases h : i = j
  · subst h
    have absent : (m.jobs.find? fun x => x.id = i) = none := free
    simp [absent]
  · simp [h, Ne.symm h]

theorem job?_ask {m : Manager} (free : m.job? m.nextJob = none) (task : Job.Task) (i : JobId) :
    (m.ask task).1.job? i =
      if i = m.nextJob then some { id := m.nextJob, task } else m.job? i :=
  job?_add free rfl i

@[simp] theorem job?_enqueue (m : Manager) (j i : JobId) : (m.enqueue j).job? i = m.job? i := rfl

@[simp] theorem job?_leave (m : Manager) (j i : JobId) : (m.leave j).job? i = m.job? i := rfl

@[simp] theorem put_line (m : Manager) (j : JobId) (stage : Job.Stage) :
    (m.put j stage).line = m.line := rfl

@[simp] theorem enqueue_line (m : Manager) (j : JobId) : (m.enqueue j).line = m.line ++ [j] := rfl

@[simp] theorem leave_line (m : Manager) (j : JobId) :
    (m.leave j).line = m.line.filter (· ≠ j) := rfl

@[simp] theorem forget_line (m : Manager) (j : JobId) :
    (m.forget j).line = m.line.filter (· ≠ j) := rfl

@[simp] theorem ask_line (m : Manager) (task : Job.Task) : (m.ask task).1.line = m.line := rfl

/-- The jobs and the line are in order. -/
structure Lined (m : Manager) : Prop where
  ids : (m.jobs.map (·.id)).Nodup
  next : ∀ x ∈ m.jobs, x.id < m.nextJob
  positive : 0 < m.nextJob
  nodup : m.line.Nodup
  mem_line : ∀ j, j ∈ m.line ↔ ∃ x, m.job? j = some x ∧ x.inLine
  first : ∀ {j x}, m.job? j = some x → x.holds → m.line.head? = some j
  fits : ∀ {j x}, m.job? j = some x → x.fits

namespace Lined

variable {m : Manager} {j : JobId} {x : Job}

theorem job?_of_mem (h : m.Lined) (hx : x ∈ m.jobs) : m.job? x.id = some x := by
  cases found : m.job? x.id with
  | none => exact absurd rfl (job?_eq_none.mp found x hx)
  | some y =>
    have same := List.inj_on_of_nodup_map h.ids (mem_of_job? found) hx (job?_id found)
    rw [same]

theorem free (h : m.Lined) : m.job? m.nextJob = none :=
  job?_eq_none.mpr fun x hx => Nat.ne_of_lt (h.next x hx)

/-- Two jobs cannot both have the slot. -/
theorem holder_unique (h : m.Lined) {i : JobId} {y : Job} (hx : m.job? j = some x)
    (hy : m.job? i = some y) (x_holds : x.holds) (y_holds : y.holds) : i = j := by
  have first := h.first hx x_holds
  rw [h.first hy y_holds] at first
  exact Option.some.inj first

/-- Nobody has the slot while a job that has not got it stands at the head of the line. -/
theorem not_holds (h : m.Lined) {i : JobId} {y : Job} (hx : m.job? j = some x)
    (head : m.line.head? = some j) (waits : ¬ x.holds) (hy : m.job? i = some y) : ¬ y.holds := by
  intro y_holds
  have same : some i = some j := (h.first hy y_holds).symm.trans head
  obtain rfl := Option.some.inj same
  rw [hx] at hy
  exact waits (Option.some.inj hy ▸ y_holds)

/-- The order says nothing about flags, the slot, the scope and what gathers changes. -/
theorem congr (h : m.Lined) {n : Manager} (jobs : n.jobs = m.jobs) (line : n.line = m.line)
    (next : n.nextJob = m.nextJob) : n.Lined := by
  have found : ∀ i, n.job? i = m.job? i := fun i => by simp [job?, jobs]
  exact
    { ids := by rw [jobs]; exact h.ids
      next := by rw [jobs, next]; exact h.next
      positive := by rw [next]; exact h.positive
      nodup := by rw [line]; exact h.nodup
      mem_line := fun i => by simpa only [line, found] using h.mem_line i
      first := fun hy holds => by rw [line]; exact h.first (found _ ▸ hy) holds
      fits := fun hy => h.fits (found _ ▸ hy) }

private theorem next_put (h : m.Lined) (stage : Job.Stage) :
    ∀ y ∈ (m.put j stage).jobs, y.id < m.nextJob := by
  intro y hy
  have mem : y.id ∈ (m.put j stage).jobs.map (·.id) := List.mem_map_of_mem hy
  rw [ids_put] at mem
  obtain ⟨x, hx, same⟩ := List.mem_map.mp mem
  exact same ▸ h.next x hx

/-- A job goes on to a stage that has the same place in line. -/
theorem put (h : m.Lined) (hx : m.job? j = some x) {stage : Job.Stage}
    (fits : Job.fits { x with stage }) (same : Job.inLine { x with stage } = x.inLine)
    (head : Job.holds { x with stage } → m.line.head? = some j) : (m.put j stage).Lined where
  ids := by rw [ids_put]; exact h.ids
  next := h.next_put stage
  positive := h.positive
  nodup := h.nodup
  mem_line i := by
    have before := h.mem_line i
    by_cases hi : i = j
    · subst hi
      simpa [hx, same] using before
    · simpa [hi] using before
  first {i y} hy holds := by
    by_cases hi : i = j
    · subst hi
      rw [job?_put_self hx] at hy
      exact head (Option.some.inj hy ▸ holds)
    · rw [job?_put_of_ne hi] at hy
      exact h.first hy holds
  fits {i y} hy := by
    by_cases hi : i = j
    · subst hi
      rw [job?_put_self hx] at hy
      exact Option.some.inj hy ▸ fits
    · rw [job?_put_of_ne hi] at hy
      exact h.fits hy

/-- A job comes for the slot. -/
theorem join (h : m.Lined) (hx : m.job? j = some x) (out : ¬ x.inLine) :
    ((m.enqueue j).put j .queued).Lined where
  ids := by rw [ids_put]; exact h.ids
  next := h.next_put .queued
  positive := h.positive
  nodup := by
    have absent : j ∉ m.line := fun mem => by
      obtain ⟨y, hy, inside⟩ := (h.mem_line j).mp mem
      rw [hx] at hy
      exact out (Option.some.inj hy ▸ inside)
    have apart : ∀ i ∈ m.line, i ≠ j := fun i hi same => absent (same ▸ hi)
    simpa [List.nodup_append] using ⟨h.nodup, apart⟩
  mem_line i := by
    have before := h.mem_line i
    by_cases hi : i = j
    · subst hi
      have found : (m.enqueue i).job? i = some x := hx
      simp [job?_put_self found, Job.inLine]
    · simpa [hi] using before
  first {i y} hy holds := by
    by_cases hi : i = j
    · subst hi
      have found : (m.enqueue i).job? i = some x := hx
      rw [job?_put_self found] at hy
      obtain rfl := Option.some.inj hy
      simp [Job.holds] at holds
    · rw [job?_put_of_ne hi] at hy
      have head := h.first hy holds
      simp [head]
  fits {i y} hy := by
    by_cases hi : i = j
    · subst hi
      have found : (m.enqueue i).job? i = some x := hx
      rw [job?_put_self found] at hy
      obtain rfl := Option.some.inj hy
      simp [Job.fits]
    · rw [job?_put_of_ne hi] at hy
      exact h.fits hy

theorem head?_leave {line : List JobId} {i : JobId} (head : line.head? = some i)
    (other : i ≠ j) : (line.filter (· ≠ j)).head? = some i := by
  obtain ⟨rest, rfl⟩ := List.head?_eq_some_iff.mp head
  simp [other]

/-- A job gives the slot back, or its place in line. -/
theorem depart (h : m.Lined) (hx : m.job? j = some x) {stage : Job.Stage}
    (fits : Job.fits { x with stage }) (out : ¬ Job.inLine { x with stage }) :
    ((m.leave j).put j stage).Lined where
  ids := by rw [ids_put]; exact h.ids
  next := h.next_put stage
  positive := h.positive
  nodup := h.nodup.filter _
  mem_line i := by
    have before := h.mem_line i
    by_cases hi : i = j
    · subst hi
      have found : (m.leave i).job? i = some x := hx
      simpa [job?_put_self found] using out
    · simpa [hi] using before
  first {i y} hy holds := by
    by_cases hi : i = j
    · subst hi
      have found : (m.leave i).job? i = some x := hx
      rw [job?_put_self found] at hy
      obtain rfl := Option.some.inj hy
      exact absurd (Job.inLine_of_holds holds) out
    · rw [job?_put_of_ne hi] at hy
      exact head?_leave (h.first hy holds) hi
  fits {i y} hy := by
    by_cases hi : i = j
    · subst hi
      have found : (m.leave i).job? i = some x := hx
      rw [job?_put_self found] at hy
      exact Option.some.inj hy ▸ fits
    · rw [job?_put_of_ne hi] at hy
      exact h.fits hy

theorem finish (h : m.Lined) (hx : m.job? j = some x) (o : Job.Outcome) : (m.finish j o).Lined :=
  h.depart hx (by simp [Job.fits]) (by simp [Job.inLine, Job.holds])

/-- A job with a new number comes to the others. -/
theorem add (h : m.Lined) {n : Manager} {task : Job.Task} (free : m.job? j = none)
    (jobs : n.jobs = m.jobs ++ [{ id := j, task }]) (line : n.line = m.line)
    (above : j < n.nextJob) (next : m.nextJob ≤ n.nextJob) : n.Lined where
  ids := by
    have apart : ∀ x ∈ m.jobs, x.id ≠ j := job?_eq_none.mp free
    simpa [jobs, List.nodup_append] using ⟨h.ids, apart⟩
  next y hy := by
    have cases : y ∈ m.jobs ∨ y = { id := j, task } := by simpa [jobs] using hy
    rcases cases with old | rfl
    · exact Nat.lt_of_lt_of_le (h.next y old) next
    · exact above
  positive := Nat.lt_of_lt_of_le h.positive next
  nodup := by
    rw [line]
    exact h.nodup
  mem_line i := by
    have before := h.mem_line i
    rw [job?_add free jobs, line]
    by_cases hi : i = j
    · subst hi
      simpa [free, Job.inLine, Job.holds] using before
    · simpa [hi] using before
  first {i y} hy holds := by
    rw [job?_add free jobs] at hy
    rw [line]
    by_cases hi : i = j
    · obtain rfl : _ = y := by simpa [hi] using hy
      simp [Job.holds] at holds
    · exact h.first (by simpa [hi] using hy) holds
  fits {i y} hy := by
    rw [job?_add free jobs] at hy
    by_cases hi : i = j
    · obtain rfl : _ = y := by simpa [hi] using hy
      simp [Job.fits]
    · exact h.fits (by simpa [hi] using hy)
/-- A job is taken on. -/
theorem ask (h : m.Lined) (task : Job.Task) : (m.ask task).1.Lined :=
  h.add h.free rfl rfl (Nat.lt_succ_self _) (Nat.le_succ _)

/-- A job is forgotten, at whatever stage it is. -/
theorem forget (h : m.Lined) (j : JobId) : (m.forget j).Lined where
  ids := (List.Sublist.map _ List.filter_sublist).nodup h.ids
  next y hy := h.next y (List.mem_of_mem_filter hy)
  positive := h.positive
  nodup := h.nodup.filter _
  mem_line i := by
    have before := h.mem_line i
    rw [job?_forget]
    by_cases hi : i = j
    · simp [hi]
    · simpa [hi] using before
  first {i y} hy holds := by
    rw [job?_forget] at hy
    by_cases hi : i = j
    · simp [hi] at hy
    · exact head?_leave (h.first (by simpa [hi] using hy) holds) hi
  fits {i y} hy := by
    rw [job?_forget] at hy
    by_cases hi : i = j
    · simp [hi] at hy
    · exact h.fits (by simpa [hi] using hy)
end Lined

theorem lined_new (variant : Variant) : (new variant).Lined where
  ids := by simp [new]
  next := by simp [new]
  positive := by simp [new]
  nodup := by simp [new]
  mem_line := by simp [new, job?]
  first := by simp [new, job?]
  fits := by simp [new, job?]

end Manager

end LanguageBroker
