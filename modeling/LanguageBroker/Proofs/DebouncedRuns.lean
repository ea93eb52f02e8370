import LanguageBroker.Debouncer
import Mathlib.Data.List.Induction

/-!
What becomes of the triggers of a debouncer. They come at any time, the action takes as long as it
takes, and its worker may come late. A run answers whatever is pending when it begins; what comes
while it goes on waits for the next one, whose window opens when the run ends. Whoever drops the
debouncer abandons what is pending, and leaves a run that has begun alone.
-/

namespace LanguageBroker.Debouncer

/-- A run of the action. -/
structure Run where
  began : Time
  /-- The triggers that it answers, by their numbers. -/
  covers : List Nat

/-- A run that is over. -/
structure PastRun extends Run where
  ended : Time

/-- A debouncer and what has become of its triggers. -/
structure Ledger where
  debouncer : Debouncer
  clock : Clock
  /-- When each trigger came. -/
  triggers : List Time := []
  pending : List Nat := []
  abandoned : List Nat := []
  past : List PastRun := []
  /-- The run that goes on. -/
  current : Option Run := none

inductive Ledger.Move
  | trigger
  /-- Time passes. -/
  | wait (ms : Nat)
  /-- The worker looks whether the action may begin. -/
  | turn
  /-- The running action ends. -/
  | finish
  | drop
  deriving DecidableEq

namespace Ledger

variable {w : Ledger} {window : Nat} {r : Run}

/-- Nobody can trigger a debouncer that was dropped. -/
def trigger (w : Ledger) : Ledger :=
  if w.debouncer.phase = .closed then w
  else
    { w with
      debouncer := w.debouncer.trigger w.clock
      triggers := w.triggers ++ [w.clock.now]
      pending := w.pending ++ [w.triggers.length] }

def turn (w : Ledger) : Ledger :=
  if w.debouncer.isDue w.clock then
    { w with
      debouncer := w.debouncer.startRun
      pending := []
      current := some ⟨w.clock.now, w.pending⟩ }
  else w

def finish (w : Ledger) : Ledger :=
  match w.current with
  | some r =>
    { w with
      debouncer := w.debouncer.finish w.clock
      past := w.past ++ [{ r with ended := w.clock.now }]
      current := none }
  | none => w

def drop (w : Ledger) : Ledger :=
  { w with
    debouncer := w.debouncer.close
    pending := []
    abandoned := w.abandoned ++ w.pending }

def move (w : Ledger) : Move → Ledger
  | .trigger => w.trigger
  | .wait ms => { w with clock := w.clock.set (w.clock.now + ms) }
  | .turn => w.turn
  | .finish => w.finish
  | .drop => w.drop

def run (w : Ledger) (moves : List Move) : Ledger := moves.foldl move w

theorem run_concat (w : Ledger) (moves : List Move) (m : Move) :
    w.run (moves ++ [m]) = (w.run moves).move m := by simp [run]

/-- Nothing has come yet. -/
def opening (window : Nat) (clock : Clock) : Ledger := { debouncer := { window }, clock }

/-- All runs, in the order in which they began. -/
def runs (w : Ledger) : List Run := w.past.map (·.toRun) ++ w.current.toList

@[simp] theorem runs_finish (w : Ledger) : w.finish.runs = w.runs := by
  cases current : w.current <;> simp [runs, finish, current]

/-- What a run owes to the triggers: it answers some, and each that came before it began did so a
whole window before. -/
structure Answers (window : Nat) (triggers : List Time) (r : Run) : Prop where
  some_covered : r.covers ≠ []
  covered : ∀ n ∈ r.covers, ∃ t ∈ triggers[n]?, t + window ≤ r.began
  quiet : ∀ t ∈ triggers, t + window ≤ r.began ∨ r.began ≤ t

theorem length_le_covers {rs : List Run} (some_covered : ∀ r ∈ rs, r.covers ≠ []) :
    rs.length ≤ (rs.flatMap (·.covers)).length := by
  induction rs with
  | nil => exact Nat.le_refl _
  | cons r rs ih =>
    have first := List.length_pos_iff.2 (some_covered r (by simp))
    have others := ih fun r mem => some_covered r (by simp [mem])
    simp only [List.flatMap_cons, List.length_append, List.length_cons]
    omega

/-- How the phase of the debouncer goes with what is pending and what runs. -/
inductive Stands (window : Nat) (w : Ledger) : Prop
  | idle (phase : w.debouncer.phase = .idle) (pending : w.pending = []) (current : w.current = none)
  | waiting {due : Deadline} (phase : w.debouncer.phase = .waiting due) (pending : w.pending ≠ [])
      (current : w.current = none) (triggers : ∀ t ∈ w.triggers, t + window ≤ due.time)
      (past : ∀ p ∈ w.past, p.ended + window ≤ due.time)
      (cause : (∃ t ∈ w.triggers, due.time = t + window) ∨
        ∃ p ∈ w.past, due.time = p.ended + window)
  | busy {again : Bool} (phase : w.debouncer.phase = .busy again) (pending : again ↔ w.pending ≠ [])
      (current : w.current ≠ none)
  | closed (phase : w.debouncer.phase = .closed) (pending : w.pending = [])

structure Sound (window : Nat) (w : Ledger) : Prop where
  keeps_window : w.debouncer.window = window
  stands : w.Stands window
  kept : w.debouncer.phase ≠ .closed → w.abandoned = []
  /-- Each trigger is in one place, and the runs answer them in order. -/
  accounted : w.runs.flatMap (·.covers) ++ w.pending ++ w.abandoned = List.range w.triggers.length
  came : ∀ t ∈ w.triggers, t ≤ w.clock.now
  ended : ∀ p ∈ w.past, p.began ≤ p.ended ∧ p.ended ≤ w.clock.now
  began : ∀ r ∈ w.current, r.began ≤ w.clock.now
  apart : w.past.Pairwise fun p later => p.ended + window ≤ later.began
  behind : ∀ r ∈ w.current, ∀ p ∈ w.past, p.ended + window ≤ r.began
  answers : ∀ r ∈ w.runs, Answers window w.triggers r

theorem sound_opening (window : Nat) (clock : Clock) : (opening window clock).Sound window where
  keeps_window := rfl
  stands := .idle rfl rfl rfl
  kept _ := rfl
  accounted := rfl
  came := by simp [opening]
  ended := by simp [opening]
  began := by simp [opening]
  apart := .nil
  behind := by simp [opening]
  answers := by simp [opening, runs]

theorem Answers.trigger {triggers : List Time} {t : Time} (h : Answers window triggers r)
    (later : r.began ≤ t) : Answers window (triggers ++ [t]) r where
  some_covered := h.some_covered
  covered n mem := by
    obtain ⟨came, at_n, before⟩ := h.covered n mem
    have old : n < triggers.length := (List.getElem?_eq_some_iff.1 at_n).1
    exact ⟨came, by rwa [List.getElem?_append_left old], before⟩
  quiet came mem := by
    rcases List.mem_append.1 mem with old | new
    · exact h.quiet came old
    · exact .inr (List.mem_singleton.1 new ▸ later)

/-- The window opens anew, at a trigger or at the end of a run. -/
theorem Stands.reopened (phase : w.debouncer.phase = .waiting (w.clock.after window))
    (pending : w.pending ≠ []) (current : w.current = none)
    (came : ∀ t ∈ w.triggers, t ≤ w.clock.now) (ended : ∀ p ∈ w.past, p.ended ≤ w.clock.now)
    (cause : w.clock.now ∈ w.triggers ∨ ∃ p ∈ w.past, p.ended = w.clock.now) :
    w.Stands window := by
  refine .waiting phase pending current (fun t mem => Nat.add_le_add_right (came t mem) window)
    (fun p mem => Nat.add_le_add_right (ended p mem) window) ?_
  rcases cause with triggered | ⟨p, mem, now⟩
  · exact .inl ⟨_, triggered, rfl⟩
  · exact .inr ⟨p, mem, by rw [now]; rfl⟩

namespace Sound

theorem began_le (h : w.Sound window) : ∀ r ∈ w.runs, r.began ≤ w.clock.now := by
  intro r mem
  rcases List.mem_append.1 mem with past | current
  · obtain ⟨p, there, rfl⟩ := List.mem_map.1 past
    exact Nat.le_trans (h.ended p there).1 (h.ended p there).2
  · exact h.began r (by simpa using current)

theorem trigger (h : w.Sound window) : w.trigger.Sound window := by
  unfold Ledger.trigger
  split
  · exact h
  · next opened =>
    have after : ∀ t ∈ w.triggers ++ [w.clock.now], t ≤ w.clock.now := by
      simpa [or_imp, forall_and] using h.came
    exact
      { keeps_window := by
          cases phase : w.debouncer.phase <;> simpa [Debouncer.trigger, phase] using h.keeps_window
        stands := by
          -- outside a run the window opens anew; within one, the trigger waits for its end
          have ended : ∀ p ∈ w.past, p.ended ≤ w.clock.now := fun p mem => (h.ended p mem).2
          cases h.stands with
          | idle phase _ current =>
            exact .reopened (by simp [Debouncer.trigger, phase, h.keeps_window]) (by simp) current
              after ended (by simp)
          | waiting phase _ current =>
            exact .reopened (by simp [Debouncer.trigger, phase, h.keeps_window]) (by simp) current
              after ended (by simp)
          | busy phase _ current =>
            exact .busy (show _ = Phase.busy true by simp [Debouncer.trigger, phase]) (by simp) current
          | closed phase => exact absurd phase opened
        kept := fun _ => h.kept opened
        accounted := by
          have accounted := h.accounted
          simp only [h.kept opened, List.append_nil] at accounted ⊢
          rw [List.length_append, List.length_singleton, List.range_succ, ← accounted,
            List.append_assoc]
          rfl
        came := after
        ended := h.ended
        began := h.began
        apart := h.apart
        behind := h.behind
        answers := fun r mem => (h.answers r mem).trigger (h.began_le r mem) }

theorem turn (h : w.Sound window) : w.turn.Sound window := by
  unfold Ledger.turn
  split
  case isFalse => exact h
  case isTrue due =>
    cases h.stands with
    | idle phase => simp [Debouncer.isDue, Debouncer.due?, phase] at due
    | busy phase => simp [Debouncer.isDue, Debouncer.due?, phase] at due
    | closed phase => simp [Debouncer.isDue, Debouncer.due?, phase] at due
    | waiting phase some_pending current triggers past =>
      simp only [Debouncer.isDue, Debouncer.due?, phase, Option.any_some, Clock.reached,
        decide_eq_true_eq] at due
      have kept := h.kept (by simp [phase])
      have accounted := h.accounted
      simp only [runs, current, Option.toList_none, List.append_nil, kept] at accounted
      exact
        { keeps_window := h.keeps_window
          stands := .busy (show _ = Phase.busy false from rfl) (by simp) (by simp)
          kept := fun _ => kept
          accounted := by simpa [runs, kept] using accounted
          came := h.came
          ended := h.ended
          began := by simp
          apart := h.apart
          behind := by
            rintro _ ⟨⟩ p mem
            exact Nat.le_trans (past p mem) due
          answers := by
            intro r mem
            rcases List.mem_append.1 mem with old | new
            · exact h.answers r (List.mem_append_left _ old)
            · obtain rfl : r = ⟨w.clock.now, w.pending⟩ := by simpa using new
              refine ⟨some_pending, fun n mem => ?_,
                fun t mem => .inl (Nat.le_trans (triggers t mem) due)⟩
              have known : n < w.triggers.length :=
                List.mem_range.1 (accounted ▸ List.mem_append_right _ mem)
              exact ⟨_, List.getElem?_eq_getElem known,
                Nat.le_trans (triggers _ (List.getElem_mem known)) due⟩ }

theorem finish (h : w.Sound window) : w.finish.Sound window := by
  cases current : w.current with
  | none => simpa [Ledger.finish, current] using h
  | some r =>
    have began := h.began r current
    have runs := w.runs_finish
    have ended : ∀ p ∈ w.past ++ [{ r with ended := w.clock.now }],
        p.began ≤ p.ended ∧ p.ended ≤ w.clock.now := by
      intro p mem
      rcases List.mem_append.1 mem with old | new
      · exact h.ended p old
      · obtain rfl := List.mem_singleton.1 new
        exact ⟨began, Nat.le_refl _⟩
    simp only [Ledger.finish, current] at runs ⊢
    exact
      { keeps_window := by
          rcases phase : w.debouncer.phase with _ | _ | again | _
          case busy => cases again <;> simpa [Debouncer.finish, phase] using h.keeps_window
          all_goals simpa [Debouncer.finish, phase] using h.keeps_window
        stands := by
          cases h.stands with
          | idle _ _ none => simp [current] at none
          | waiting _ _ none => simp [current] at none
          | closed phase pending => exact .closed (by simp [Debouncer.finish, phase]) pending
          | @busy again phase pending =>
            cases again with
            | false => exact .idle (by simp [Debouncer.finish, phase]) (by simpa using pending) rfl
            | true =>
              exact .reopened (by simp [Debouncer.finish, phase, h.keeps_window]) (pending.1 rfl)
                rfl h.came (fun p mem => (ended p mem).2) (.inr ⟨_, List.mem_concat_self, rfl⟩)
        kept := fun opened => h.kept fun closed => opened (by simp [Debouncer.finish, closed])
        accounted := by simpa only [runs] using h.accounted
        came := h.came
        ended := ended
        began := by simp
        apart := by
          refine List.pairwise_append.2 ⟨h.apart, List.pairwise_singleton _ _, ?_⟩
          intro p mem last new
          obtain rfl := List.mem_singleton.1 new
          exact h.behind r current p mem
        behind := by simp
        answers := by simpa only [runs] using h.answers }

theorem drop (h : w.Sound window) : w.drop.Sound window where
  keeps_window := h.keeps_window
  stands := .closed rfl rfl
  kept opened := absurd rfl opened
  accounted := by
    have accounted := h.accounted
    cases h.stands with
    | closed _ pending => simpa [Ledger.drop, runs, pending] using accounted
    | _ phase => simpa [Ledger.drop, runs, h.kept (by simp [phase])] using accounted
  came := h.came
  ended := h.ended
  began := h.began
  apart := h.apart
  behind := h.behind
  answers := h.answers

theorem wait (h : w.Sound window) (ms : Nat) : (w.move (.wait ms)).Sound window where
  keeps_window := h.keeps_window
  stands := by
    cases h.stands with
    | idle phase pending current => exact .idle phase pending current
    | waiting phase pending current triggers past cause =>
      exact .waiting phase pending current triggers past cause
    | busy phase pending current => exact .busy phase pending current
    | closed phase pending => exact .closed phase pending
  kept := h.kept
  accounted := h.accounted
  came t mem := Nat.le_trans (h.came t mem) (Nat.le_add_right _ _)
  ended p mem := ⟨(h.ended p mem).1, Nat.le_trans (h.ended p mem).2 (Nat.le_add_right _ _)⟩
  began r mem := Nat.le_trans (h.began r mem) (Nat.le_add_right _ _)
  apart := h.apart
  behind := h.behind
  answers := h.answers

theorem move (h : w.Sound window) (m : Move) : (w.move m).Sound window := by
  cases m with
  | trigger => exact h.trigger
  | wait ms => exact h.wait ms
  | turn => exact h.turn
  | finish => exact h.finish
  | drop => exact h.drop

theorem run (h : w.Sound window) (moves : List Move) : (w.run moves).Sound window := by
  induction moves using List.reverseRecOn with
  | nil => exact h
  | append_singleton moves m ih => exact w.run_concat moves m ▸ ih.move m

/-- There is a trigger for each run. -/
theorem length_runs_le (h : w.Sound window) : w.runs.length ≤ w.triggers.length := by
  have each := length_le_covers fun r mem => (h.answers r mem).some_covered
  have all := congrArg List.length h.accounted
  simp only [List.length_append, List.length_range] at all
  omega

/-- Once the last trigger and the end of the last run lie a whole window back, the worker's turn
leaves nothing pending. -/
theorem nothing_pending (h : w.Sound window) (still : w.current = none)
    (triggers : ∀ t ∈ w.triggers, t + window ≤ w.clock.now)
    (past : ∀ p ∈ w.past, p.ended + window ≤ w.clock.now) : w.turn.pending = [] := by
  unfold Ledger.turn
  split
  · rfl
  · next early =>
    cases h.stands with
    | idle _ pending => exact pending
    | closed _ pending => exact pending
    | busy _ _ current => exact absurd still current
    | waiting phase _ _ _ _ cause =>
      refine absurd ?_ early
      simp only [Debouncer.isDue, Debouncer.due?, phase, Option.any_some, Clock.reached,
        decide_eq_true_eq]
      rcases cause with ⟨t, mem, at_t⟩ | ⟨p, mem, at_end⟩
      · exact at_t ▸ triggers t mem
      · exact at_end ▸ past p mem

end Sound

/-- Has the debouncer been dropped? -/
def IsDropped (w : Ledger) : Prop := w.debouncer.phase = .closed

namespace IsDropped

theorem move (h : w.IsDropped) (m : Move) : (w.move m).IsDropped := by
  have closed : w.debouncer.phase = .closed := h
  cases m with
  | trigger => simp [Ledger.move, trigger, IsDropped, closed]
  | wait ms => exact h
  | turn => simp [Ledger.move, turn, Debouncer.isDue, Debouncer.due?, IsDropped, closed]
  | finish =>
    cases current : w.current <;>
      simp [Ledger.move, finish, current, IsDropped, Debouncer.finish, closed]
  | drop => rfl

/-- Only its own end changes a run, and none begins. -/
theorem still (h : w.IsDropped) {m : Move} (other : m ≠ .finish) :
    (w.move m).current = w.current ∧ (w.move m).past = w.past := by
  have closed : w.debouncer.phase = .closed := h
  cases m with
  | trigger => simp [Ledger.move, trigger, closed]
  | wait ms => exact ⟨rfl, rfl⟩
  | turn => simp [Ledger.move, turn, Debouncer.isDue, Debouncer.due?, closed]
  | finish => exact absurd rfl other
  | drop => exact ⟨rfl, rfl⟩

theorem run (h : w.IsDropped) (later : List Move) : (w.run later).IsDropped := by
  induction later using List.reverseRecOn with
  | nil => exact h
  | append_singleton later m ih => exact w.run_concat later m ▸ ih.move m

theorem runs_run (h : w.IsDropped) (later : List Move) : (w.run later).runs = w.runs := by
  induction later using List.reverseRecOn with
  | nil => rfl
  | append_singleton later m ih =>
    rw [run_concat, ← ih]
    by_cases ends : m = .finish
    · exact ends ▸ runs_finish _
    · simp only [runs, (h.run later).still ends]

/-- The run that goes on when the debouncer is dropped ends when its action ends. -/
theorem completes (h : w.IsDropped) (current : w.current = some r) (later : List Move) :
    (.finish ∉ later → (w.run later).current = some r) ∧
      (.finish ∈ later → ∃ e, (w.run later).past = w.past ++ [{ r with ended := e }]) := by
  suffices (.finish ∉ later → (w.run later).current = some r ∧ (w.run later).past = w.past) ∧
      (.finish ∈ later → (w.run later).current = none ∧
        ∃ e, (w.run later).past = w.past ++ [{ r with ended := e }]) from
    ⟨fun goes_on => (this.1 goes_on).1, fun ends => (this.2 ends).2⟩
  induction later using List.reverseRecOn with
  | nil => exact ⟨fun _ => ⟨current, rfl⟩, by simp⟩
  | append_singleton later m ih =>
    rw [run_concat]
    by_cases ends : m = .finish
    · subst ends
      refine ⟨by simp, fun _ => ?_⟩
      by_cases ended : .finish ∈ later
      · obtain ⟨none, e, past⟩ := ih.2 ended
        simpa [Ledger.move, finish, none] using ⟨e, past⟩
      · obtain ⟨goes_on, past⟩ := ih.1 ended
        simp [Ledger.move, finish, goes_on, past]
    · obtain ⟨same, past⟩ := (h.run later).still ends
      simpa [same, past, Ne.symm ends] using ih

end IsDropped

end Ledger

/-- Two triggers in one window are answered by one run, and two that come while it goes on by one
more, a window after its end. -/
example :
    ((Ledger.opening 100 {}).run [.trigger, .wait 60, .trigger, .wait 60, .turn, .wait 40, .turn,
      .wait 10, .trigger, .trigger, .wait 5, .finish, .wait 99, .turn, .wait 1, .turn]).runs =
    [⟨160, [0, 1]⟩, ⟨275, [2, 3]⟩] := rfl

end LanguageBroker.Debouncer
