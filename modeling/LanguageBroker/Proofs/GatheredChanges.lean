import LanguageBroker.Proofs.CurrentOptions

/-!
How many restarts come of the notices that there are changes of the options. A notice is passed on,
sets a time of rest, and when that time is over one restart begins. So two facts carry the count: a
manager at rest begins no restart by itself, and as long as each notice comes before the rest that
the last one has set is over, none of them finds that a restart has begun.
-/

namespace LanguageBroker

namespace Debouncer

variable {d : Debouncer} {clock : Clock}

/-- Is a run still to come, also if there is no trigger any more? -/
def isGathering (d : Debouncer) : Bool :=
  match d.phase with
  | .waiting _ | .busy true => true
  | _ => false

@[simp] theorem window_trigger (d : Debouncer) (clock : Clock) :
    (d.trigger clock).window = d.window := by
  unfold trigger
  split <;> rfl

@[simp] theorem window_finish (d : Debouncer) (clock : Clock) :
    (d.finish clock).window = d.window := by
  unfold finish
  split <;> rfl

/-- Whoever is triggered waits for the whole time of rest, or runs once more. -/
theorem trigger_cases (open' : d.phase ≠ .closed) (clock : Clock) :
    (d.trigger clock).phase = .waiting (clock.after d.window) ∨
      (∃ again, d.phase = .busy again) ∧ (d.trigger clock).phase = .busy true := by
  cases phase : d.phase <;> simp_all [trigger]

/-- Whoever has been triggered while it ran waits for the whole time of rest when it is over. -/
theorem finish_cases (d : Debouncer) (clock : Clock) :
    d.phase = .busy true ∧ (d.finish clock).phase = .waiting (clock.after d.window) ∨
      d.phase = .busy false ∧ (d.finish clock).phase = .idle ∨
      (∀ again, d.phase ≠ .busy again) ∧ d.finish clock = d := by
  cases phase : d.phase with
  | busy again => cases again <;> simp [finish, phase]
  | _ => simp [finish, phase]

theorem isGathering_of_isDue (due : d.isDue clock) : d.isGathering := by
  cases phase : d.phase <;> simp_all [isDue, due?, isGathering]

@[simp] theorem isGathering_startRun (d : Debouncer) : d.startRun.isGathering = false := rfl

@[simp] theorem isGathering_finish (d : Debouncer) (clock : Clock) :
    (d.finish clock).isGathering = d.isGathering := by
  cases phase : d.phase with
  | busy again => cases again <;> simp [finish, phase, isGathering]
  | _ => simp [finish, phase, isGathering]

end Debouncer

namespace Manager

/-- How many restarts may come of what has been noticed: one of the changes that wait to be passed
on, and one of those that were. -/
def gathered (m : Manager) : Nat :=
  (m.changes.any fun b => !b.isEmpty).toNat + (m.restarter.any (·.isGathering)).toNat

/-- No change waits to be passed on, and no restart is gathered. -/
structure Rests (m : Manager) : Prop where
  passed : ∀ {b}, m.changes = some b → b.isEmpty
  phase : ∀ {d}, m.restarter = some d → d.isGathering = false

theorem rests_iff {m : Manager} : m.Rests ↔ m.gathered = 0 := by
  unfold gathered
  constructor
  · rintro ⟨passed, phase⟩
    cases changes : m.changes <;> cases restarter : m.restarter <;>
      simp_all
  · intro none
    simp only [Nat.add_eq_zero_iff, Bool.toNat_eq_zero] at none
    refine ⟨fun there => ?_, fun there => ?_⟩
    · simpa [there] using none.1
    · simpa [there] using none.2

theorem announce_zero (m : Manager) : m.announce 0 = m := by
  simp [announce]

namespace Moment

/-- Does the restart that changes lead to begin? -/
def begins (w : Moment) (next : Move) : Bool :=
  (w.manager.job? restartJob).isNone && ((w.move next).manager.job? restartJob).isSome

/-- How many of those restarts begin in the run. -/
def restarts (w : Moment) : List Move → Nat
  | [] => 0
  | next :: moves => (w.begins next).toNat + restarts (w.move next) moves

/-- Is a change of the options announced, or a restart asked for that is to come after a time of
rest? -/
def notifies (w : Moment) (next : Move) : Bool :=
  match w.turn, next with
  | some (.options duty), .go => w.isReady (.options duty) &&
    decide (0 < (w.manager.provider.act w.site.host w.ticked.clock duty).2)
  | none, .restart => true
  | _, _ => false

/-- The times of the notices in the run. -/
def notices (w : Moment) : List Move → List Time
  | [] => []
  | next :: moves =>
    (if w.notifies next then [w.site.clock.now] else []) ++ notices (w.move next) moves

/-- Does time pass while a change waits to be passed on? -/
def delays (w : Moment) (next : Move) : Bool :=
  match next with
  | .wait _ => w.turn.isNone && w.isReady .forward
  | _ => false

/-- Is every change passed on before time passes? -/
def isPrompt (w : Moment) : List Move → Bool
  | [] => true
  | next :: moves => !w.delays next && isPrompt (w.move next) moves

/-- All that a move can be for the changes and for what gathers them. -/
inductive GatherStep (w : Moment) (next : Move) (v : Moment) : Prop
  /-- It has nothing to do with them. Time may pass. -/
  | same (silent : w.notifies next = false) (still : w.begins next = false)
      (changes : v.manager.changes = w.manager.changes)
      (restarter : v.manager.restarter = w.manager.restarter)
      (time : v.site.clock.now = w.site.clock.now ∨ w.site.clock.now ≤ v.site.clock.now ∧
        w.turn = none ∧ ∃ duration, next = .wait duration)
  /-- A change is announced. -/
  | noticed {b : Inbox Unit} (notifies : w.notifies next) (still : w.begins next = false)
      (changes : v.manager.changes = some b) (news : b.isEmpty = false)
      (restarter : v.manager.restarter = w.manager.restarter)
      (time : v.site.clock.now = w.site.clock.now)
  /-- A restart is asked for. -/
  | asked (notifies : w.notifies next) (still : w.begins next = false)
      (changes : v.manager.changes = w.manager.changes)
      (restarter : v.manager.restarter = w.manager.restarter.map (·.trigger w.site.clock))
      (time : v.site.clock.now = w.site.clock.now)
  /-- Changes are passed on. -/
  | forwarded {b : Inbox Unit} (silent : w.notifies next = false) (still : w.begins next = false)
      (before : w.manager.changes = some b) (news : b.isEmpty = false)
      (changes : v.manager.changes = some {})
      (restarter : v.manager.restarter = w.manager.restarter.map (·.trigger w.ticked.clock))
      (time : v.site.clock.now = w.site.clock.now)
  /-- The restart begins. -/
  | begun {d : Debouncer} (silent : w.notifies next = false) (begins : w.begins next)
      (gathers : w.manager.restarter = some d) (due : d.isDue w.site.clock)
      (changes : v.manager.changes = w.manager.changes)
      (restarter : v.manager.restarter = some d.startRun)
      (time : v.site.clock.now = w.site.clock.now)
  /-- The restart is over. -/
  | ended (silent : w.notifies next = false) (still : w.begins next = false)
      (changes : v.manager.changes = w.manager.changes)
      (restarter : v.manager.restarter = w.manager.restarter.map (·.finish w.ticked.clock))
      (time : v.site.clock.now = w.site.clock.now)
  /-- The manager begins to watch. -/
  | opened {quiet : Nat} (silent : w.notifies next = false) (still : w.begins next = false)
      (none : w.manager.restarter = none) (changes : v.manager.changes = some {})
      (restarter : v.manager.restarter = some ⟨quiet, .idle⟩)
  /-- The manager is disposed of. -/
  | closed (silent : w.notifies next = false) (still : w.begins next = false)
      (disposed : v.manager.disposed) (changes : v.manager.changes = none)
      (restarter : v.manager.restarter = none)

variable {w v : Moment} {next : Move}

/-- Nothing begins where the restart is there or not there as before. -/
theorem begins_eq_false (present : ((w.move next).manager.job? restartJob).isSome →
    (w.manager.job? restartJob).isSome) : w.begins next = false := by
  unfold begins
  cases found : w.manager.job? restartJob with
  | none =>
    cases after : (w.move next).manager.job? restartJob with
    | none => rfl
    | some => simp [found, after] at present
  | some => rfl

/-- No job begins the restart. -/
theorem begins_of_jobStep {s : Site} {x : Job} (found : w.manager.job? x.id = some x)
    (step : JobStep w.manager s x (w.move next).manager (w.move next).site) :
    w.begins next = false := by
  obtain ⟨stage, advance⟩ := step.advance
  refine begins_eq_false fun there => ?_
  rw [job?_of_jobs found advance.jobs] at there
  split at there
  · next here => simp [here, found]
  · exact there

private theorem gatherStep_notifies (h : w.Attended) (notifies : w.notifies next) :
    GatherStep w next (w.move next) := by
  have still (same : (w.move next).manager.jobs = w.manager.jobs) : w.begins next = false :=
    begins_eq_false (by simp [job?, same])
  have said := notifies
  unfold Moment.notifies at said
  split at said
  · next duty turn =>
    simp only [Bool.and_eq_true, decide_eq_true_eq] at said
    obtain ⟨ready, count⟩ := said
    obtain ⟨b, changes⟩ : ∃ b, w.manager.changes = some b := by
      rw [← Option.isSome_iff_exists, h.gathering.changes]
      exact Provider.isSome_of_isReady ready
    have moved : w.move .go = w.act (.options duty) := by simp [move, turn, inside, ready]
    refine .noticed notifies (still ?_) ?_ (isEmpty_announce (b := b) (.inr count)) ?_ ?_
    · rw [moved]; rfl
    · rw [moved]; simp [act, Manager.act, announce, changes, ticked]
    · rw [moved]; rfl
    · rw [moved]; rfl
  · next turn =>
    have moved : w.move .restart = { w with manager := w.manager.restart w.site.clock } := by
      simp [move, turn, outside]
    refine .asked notifies (still ?_) ?_ ?_ ?_ <;> rw [moved] <;> rfl
  · simp at said

theorem gatherStep_move (h : w.Attended) (next : Move) : GatherStep w next (w.move next) := by
  by_cases said : w.notifies next
  · exact gatherStep_notifies h said
  have silent : w.notifies next = false := by simpa using said
  have stir := stir_move h.lined next
  have stays (same : ((w.move next).manager.job? restartJob).isSome →
      (w.manager.job? restartJob).isSome) : w.begins next = false := begins_eq_false same
  generalize reached : w.move next = v at stir stays
  cases stir with
  | @step duty x go turn job found ready step options acts same =>
    have clock : v.site.clock = w.ticked.clock := options.clock
    have time : v.site.clock.now = w.site.clock.now := by
      rw [clock]
      rfl
    have still : w.begins next = false := begins_of_jobStep found (reached.symm ▸ step)
    cases options with
    | aside _ _ _ changes restarter | unread _ _ _ changes restarter
    | unbound _ _ _ changes restarter | asked _ _ _ _ changes restarter =>
      exact .same silent still changes restarter (.inl time)
    | closed _ _ disposed _ changes restarter =>
      exact .closed silent still disposed changes restarter
    | bound stage _ _ changes restarter =>
      have unwatched := (h.gathering.early (.inr ⟨_, _, _, found, stage⟩)).1
      have none : w.manager.restarter = none := by simpa [unwatched] using h.gathering.restarter
      exact .opened silent still none changes restarter
  | feed feed =>
    have same (jobs : v.manager.jobs = w.manager.jobs) : w.begins next = false :=
      stays (by simp [job?, jobs])
    cases feed with
    | @look duty turn ready =>
      have none : (w.manager.provider.act w.site.host w.ticked.clock duty).2 = 0 := by
        simpa [notifies, turn, Moment.isReady, Manager.isReady, ready] using silent
      refine .same silent (same rfl) ?_ rfl (.inl rfl)
      have acted : (w.act (.options duty)).manager.changes = (({ w.manager with
          provider := (w.manager.provider.act w.site.host w.ticked.clock duty).1 }).announce
            (w.manager.provider.act w.site.host w.ticked.clock duty).2).changes := rfl
      rw [acted, none, announce_zero]
    | forward turn changes news =>
      exact .forwarded silent (same rfl) changes news
        (by simp [act, Manager.act, changes]) rfl rfl
    | begin turn idle gathers due =>
      have now := job?_add (n := w.manager.begun) idle rfl restartJob
      rw [if_pos rfl] at now
      refine .begun silent ?_ gathers due rfl (by simp [begun, gathers]) rfl
      simp [begins, idle, reached, now]
    | putAway turn found done => exact .ended silent (stays (by simp [found])) rfl rfl rfl
    | restart free => simp [notifies, free] at silent
    | ask task =>
      refine .same silent (stays ?_) rfl rfl (.inl rfl)
      have old : restartJob ≠ w.manager.nextJob := Nat.ne_of_lt h.lined.positive
      rw [job?_ask h.lined.free, if_neg old]
      exact id
    | collect found done other =>
      refine .same silent (stays ?_) rfl rfl (.inl rfl)
      rw [job?_forget, if_neg other.symm]
      exact id
    | hear | change | turned => exact .same silent (same rfl) rfl rfl (.inl rfl)
    | wait duration free =>
      exact .same silent (same rfl) rfl rfl (.inr ⟨Nat.le_add_right .., free, duration, rfl⟩)

/-- Without a notice, a restart that begins is one that was gathered before. -/
theorem GatherStep.gathered_le (step : GatherStep w next v) (silent : w.notifies next = false) :
    v.manager.gathered + (w.begins next).toNat ≤ w.manager.gathered := by
  unfold gathered
  cases step with
  | same _ still changes restarter => simp [changes, restarter, still]
  | noticed notifies | asked notifies => simp [notifies] at silent
  | forwarded _ still before news changes restarter =>
    have one := Bool.toNat_le (v.manager.restarter.any (·.isGathering))
    have none : (v.manager.changes.any fun b => !b.isEmpty) = false := by rw [changes]; rfl
    have some : (w.manager.changes.any fun b => !b.isEmpty) = true := by simp [before, news]
    simp only [none, some, still, Bool.toNat_false, Bool.toNat_true]
    omega
  | begun _ begins gathers due changes restarter =>
    simp [changes, restarter, gathers, begins, Debouncer.isGathering_of_isDue due]
  | ended _ still changes restarter =>
    cases gathers : w.manager.restarter <;> simp [changes, restarter, gathers, still]
  | opened _ still _ changes restarter =>
    simp [changes, restarter, still, Inbox.isEmpty, Debouncer.isGathering]
  | closed _ still _ changes restarter => simp [changes, restarter, still]

/-- A manager at rest stays so as long as there is no notice. -/
theorem GatherStep.rests (step : GatherStep w next v) (silent : w.notifies next = false)
    (rests : w.manager.Rests) : v.manager.Rests ∧ w.begins next = false := by
  have less := step.gathered_le silent
  rw [rests_iff.mp rests] at less
  exact ⟨rests_iff.mpr (by omega), by simpa using Nat.le_zero.mp (Nat.le_of_add_left_le less)⟩

/-- Without notices, only those restarts begin that were gathered before. -/
theorem Attended.restarts_le (h : w.Attended) {moves : List Move} (silent : w.notices moves = []) :
    w.restarts moves ≤ w.manager.gathered := by
  induction moves generalizing w with
  | nil => exact Nat.zero_le _
  | cons next moves ih =>
    obtain ⟨first, rest⟩ := List.append_eq_nil_iff.mp silent
    have less := (gatherStep_move h next).gathered_le (by simpa using first)
    have others := ih (h.move next) rest
    simp only [restarts]
    omega

theorem Attended.restarts_of_rests (h : w.Attended) (rests : w.manager.Rests) {moves : List Move}
    (silent : w.notices moves = []) : w.restarts moves = 0 :=
  Nat.le_zero.mp (rests_iff.mp rests ▸ h.restarts_le silent)

/-! A burst of notices. -/

/-- The rest before a restart is set for so long. -/
def Waits (window : Nat) (w : Moment) : Prop :=
  ∃ d, w.manager.restarter = some d ∧ d.window = window

/-- A restart is to come, and not before the rest after the last notice is over. -/
inductive Expects (window : Nat) (last : Time) (w : Moment) : Prop
  /-- The notice waits to be passed on. -/
  | unpassed {b : Inbox Unit} {d : Debouncer} (changes : w.manager.changes = some b)
      (news : b.isEmpty = false) (now : w.site.clock.now = last)
      (gathers : w.manager.restarter = some d) (same : d.window = window)
      (early : ∀ {due}, d.phase = .waiting due → last < due.time)
      (follows : d.phase = .busy true → 0 < window)
  /-- The notice was passed on. -/
  | gathered {d : Debouncer} (passed : ∀ {b}, w.manager.changes = some b → b.isEmpty)
      (past : last ≤ w.site.clock.now) (gathers : w.manager.restarter = some d)
      (same : d.window = window)
      (phase : (∃ due, d.phase = .waiting due ∧ last + window ≤ due.time) ∨ d.phase = .busy true)

variable {window : Nat} {last : Time}

end Moment

end Manager

theorem Site.Grows.length_le {s t : Site} (h : s.Grows t) :
    s.backends.length ≤ t.backends.length := by
  by_contra less
  obtain ⟨x, found⟩ := Site.exists_backend (Nat.lt_of_not_le less)
  obtain ⟨y, there, _⟩ := h.name found
  exact absurd (Site.lt_of_backend? there) (Nat.lt_irrefl _)

namespace Manager.Moment

variable {w v : Moment} {next : Move} {window : Nat} {last : Time}

/-- A manager at rest that notices a change expects a restart. -/
theorem GatherStep.expects_of_rests (step : GatherStep w next v) (h : w.Attended)
    (notifies : w.notifies next) (rests : w.manager.Rests) (waits : w.Waits window) :
    v.Expects window w.site.clock.now ∧ w.begins next = false := by
  obtain ⟨d, gathers, same⟩ := waits
  have phase := rests.phase gathers
  cases step with
  | noticed _ still changes news restarter time =>
    refine ⟨.unpassed changes news time (restarter.trans gathers) same (fun waiting => ?_)
      (fun again => ?_), still⟩
    · simp [Debouncer.isGathering, waiting] at phase
    · simp [Debouncer.isGathering, again] at phase
  | asked _ still changes restarter time =>
    refine ⟨.gathered (changes ▸ rests.passed) (Nat.le_of_eq time.symm)
      (by simp [restarter, gathers]; rfl) (by simpa using same) ?_, still⟩
    rcases Debouncer.trigger_cases (h.gathering.busy gathers).1 w.site.clock with wait | ⟨_, busy⟩
    · exact .inl ⟨_, wait, by simp [Clock.after, same]⟩
    · exact .inr busy
  | same silent | forwarded silent | begun silent | ended silent | opened silent | closed silent =>
    simp [notifies] at silent

/-- One more notice while a restart is expected puts it off. -/
theorem GatherStep.expects_of_notifies (step : GatherStep w next v) (h : w.Attended)
    (notifies : w.notifies next) (expects : w.Expects window last)
    (soon : w.site.clock.now < last + window) :
    v.Expects window w.site.clock.now ∧ w.begins next = false := by
  cases step with
  | noticed _ still changes news restarter time =>
    refine ⟨?_, still⟩
    cases expects with
    | unpassed _ _ now gathers same early follows =>
      exact .unpassed changes news time (restarter.trans gathers) same (now ▸ early) follows
    | gathered _ past gathers same phase =>
      refine .unpassed changes news time (restarter.trans gathers) same (fun {due} waiting => ?_)
        fun _ => Nat.pos_of_lt_add_right (Nat.lt_of_le_of_lt past soon)
      rcases phase with ⟨due', waiting', late⟩ | busy
      · obtain rfl : due' = due := by simpa [waiting'] using waiting
        exact Nat.lt_of_lt_of_le soon late
      · simp [busy] at waiting
  | asked _ still changes restarter time =>
    refine ⟨?_, still⟩
    cases expects with
    | @unpassed b d before news now gathers same early follows =>
      have positive : 0 < window := Nat.pos_of_lt_add_right (now ▸ soon)
      refine .unpassed (changes.trans before) news time (by simp [restarter, gathers]; rfl)
        (by simpa using same) (fun {due} waiting => ?_) fun _ => positive
      rcases Debouncer.trigger_cases (h.gathering.busy gathers).1 w.site.clock with wait | ⟨_, busy⟩
      · obtain rfl : w.site.clock.after d.window = due := by simpa [wait] using waiting
        rw [Clock.after, same]
        exact Nat.lt_add_of_pos_right positive
      · simp [busy] at waiting
    | gathered passed past gathers same phase =>
      refine .gathered (changes ▸ passed) (Nat.le_of_eq time.symm)
        (by simp [restarter, gathers]; rfl) (by simpa using same) ?_
      rcases Debouncer.trigger_cases (h.gathering.busy gathers).1 w.site.clock with wait | ⟨_, busy⟩
      · exact .inl ⟨_, wait, by simp [Clock.after, same]⟩
      · exact .inr busy
  | same silent | forwarded silent | begun silent | ended silent | opened silent | closed silent =>
    simp [notifies] at silent

/-- A restart that is expected stays so, or it begins when the rest is over. -/
theorem GatherStep.expects (step : GatherStep w next v) (h : w.Attended)
    (silent : w.notifies next = false)
    (prompt : w.delays next = false)
    (live : v.manager.disposed = false) (expects : w.Expects window last) :
    v.Expects window last ∧ w.begins next = false ∨
      v.manager.Rests ∧ v.Waits window ∧ w.begins next ∧ last + window ≤ v.site.clock.now := by
  cases step with
  | noticed notifies | asked notifies => simp [silent] at notifies
  | closed _ _ disposed => simp [live] at disposed
  | opened _ _ none =>
    cases expects with
    | unpassed _ _ _ gathers | gathered _ _ gathers => simp [none] at gathers
  | same _ still changes restarter time =>
    refine .inl ⟨?_, still⟩
    cases expects with
    | unpassed before news now gathers same early follows =>
      refine .unpassed (changes.trans before) news ?_ (restarter.trans gathers) same early follows
      rcases time with time | ⟨_, free, duration, wait⟩
      · exact time.trans now
      · simp [delays, wait, free, Moment.isReady, Manager.isReady, before, news] at prompt
    | gathered passed past gathers same phase =>
      refine .gathered (changes ▸ passed) ?_ (restarter.trans gathers) same phase
      rcases time with time | ⟨later, _⟩
      · exact time.symm ▸ past
      · exact Nat.le_trans past later
  | forwarded _ still before news changes restarter time =>
    refine .inl ⟨?_, still⟩
    cases expects with
    | unpassed _ _ now gathers same =>
      refine .gathered (fun {b} there => ?_) (Nat.le_of_eq (time.trans now).symm)
        (by simp [restarter, gathers]; rfl) (by simpa using same) ?_
      · obtain rfl := Option.some.inj (changes.symm.trans there)
        rfl
      · rcases Debouncer.trigger_cases (h.gathering.busy gathers).1 w.ticked.clock with
          waiting | ⟨_, busy⟩
        · refine .inl ⟨_, waiting, ?_⟩
          simp [Clock.after, same, ticked, Clock.tick, now]
        · exact .inr busy
    | gathered passed => simp [passed before] at news
  | @begun d _ begins gathers due changes restarter time =>
    obtain ⟨at_last, phase, reached⟩ :
        ∃ due, d.phase = .waiting due ∧ due.time ≤ w.site.clock.now := by
      cases phase : d.phase <;>
        simp_all [Debouncer.isDue, Debouncer.due?, Clock.reached]
    cases expects with
    | unpassed _ _ now also _ early =>
      obtain rfl := Option.some.inj (also.symm.trans gathers)
      have later := Nat.lt_of_lt_of_le (early phase) reached
      exact absurd (now ▸ later) (Nat.lt_irrefl _)
    | gathered passed past also same waits =>
      obtain rfl := Option.some.inj (also.symm.trans gathers)
      refine .inr ⟨⟨changes ▸ passed, fun {d'} there => ?_⟩, ⟨_, restarter, same⟩, begins, ?_⟩
      · obtain rfl := Option.some.inj (restarter.symm.trans there)
        rfl
      · rcases waits with ⟨due', phase', late⟩ | busy
        · obtain rfl : due' = at_last := by simpa [phase'] using phase
          exact time ▸ Nat.le_trans late reached
        · simp [busy] at phase
  | ended _ still changes restarter time =>
    refine .inl ⟨?_, still⟩
    cases expects with
    | @unpassed b d before news now gathers same early follows =>
      refine .unpassed (changes.trans before) news (time.trans now)
        (by simp [restarter, gathers]; rfl) (by simpa using same) (fun {due} waiting => ?_)
        fun again => ?_
      · rcases d.finish_cases w.ticked.clock with ⟨busy, waits⟩ | ⟨_, idle⟩ | ⟨_, same⟩
        · obtain rfl : w.ticked.clock.after d.window = due := by simpa [waits] using waiting
          rw [Clock.after, same]
          exact now ▸ Nat.lt_add_of_pos_right (follows busy)
        · simp [idle] at waiting
        · exact early (same ▸ waiting)
      · rcases d.finish_cases w.ticked.clock with ⟨_, waits⟩ | ⟨_, idle⟩ | ⟨_, same⟩
        · simp [waits] at again
        · simp [idle] at again
        · exact follows (same ▸ again)
    | @gathered d passed past gathers same phase =>
      refine .gathered (changes ▸ passed) (time.symm ▸ past) (by simp [restarter, gathers]; rfl)
        (by simpa using same) ?_
      rcases d.finish_cases w.ticked.clock with ⟨_, waits⟩ | ⟨idle, _⟩ | ⟨_, same⟩
      · refine .inl ⟨_, waits, ?_⟩
        rw [Clock.after, same]
        exact Nat.add_le_add_right past _
      · simp [idle] at phase
      · rwa [same]

/-- The rest is set for the same time as long as the manager is not disposed of. -/
theorem GatherStep.waits (step : GatherStep w next v) (live : v.manager.disposed = false)
    (waits : w.Waits window) : v.Waits window := by
  obtain ⟨d, gathers, same⟩ := waits
  cases step with
  | same _ _ _ restarter | noticed _ _ _ _ restarter => exact ⟨d, restarter.trans gathers, same⟩
  | asked _ _ _ restarter | forwarded _ _ _ _ _ restarter | ended _ _ _ restarter =>
    exact ⟨_, by simp [restarter, gathers]; rfl, by simpa using same⟩
  | begun _ _ also _ _ restarter =>
    obtain rfl := Option.some.inj (also.symm.trans gathers)
    exact ⟨_, restarter, same⟩
  | opened _ _ none => simp [none] at gathers
  | closed _ _ disposed => simp [live] at disposed

theorem Expects.renewing (expects : w.Expects window last) : w.manager.isRenewing := by
  cases expects with
  | unpassed changes news => exact .inl ⟨_, changes, news⟩
  | gathered _ _ gathers _ phase =>
    refine .inr (.inl ⟨_, gathers, ?_⟩)
    exact phase.imp_left fun ⟨due, waiting, _⟩ => ⟨due, waiting⟩

/-- No time is turned back. -/
theorem GatherStep.now_le (step : GatherStep w next v) (waits : w.Waits window)
    (live : v.manager.disposed = false) :
    w.site.clock.now ≤ v.site.clock.now := by
  cases step with
  | same _ _ _ _ time => exact time.elim (Nat.le_of_eq ·.symm) (·.1)
  | noticed _ _ _ _ _ time | asked _ _ _ _ time | forwarded _ _ _ _ _ _ time
  | begun _ _ _ _ _ _ time | ended _ _ _ _ time => exact Nat.le_of_eq time.symm
  | opened _ _ none =>
    obtain ⟨d, gathers, _⟩ := waits
    simp [none] at gathers
  | closed _ _ disposed => simp [live] at disposed

theorem Sound.live_of_run (h : w.Sound) {moves : List Move}
    (live : (w.run moves).manager.disposed = false) : w.manager.disposed = false := by
  induction moves generalizing w with
  | nil => exact live
  | cons next moves ih => exact h.live_of_move (ih (h.move next) live)

/-- The notices of a burst come before the rest after the one before is over. -/
def IsBurst (window : Nat) (times : List Time) : Prop :=
  times.IsChain fun earlier later => later < earlier + window

/-- When the rest after the last notice is over, the burst is over. -/
theorem Attended.notices_of_late {moves : List Move} (h : w.Attended) (rests : w.manager.Rests)
    (waits : w.Waits window) (late : last + window ≤ w.site.clock.now)
    (burst : IsBurst window (last :: w.notices moves))
    (live : (w.run moves).manager.disposed = false) : w.notices moves = [] := by
  induction moves generalizing w with
  | nil => rfl
  | cons next moves ih =>
    have step := gatherStep_move h next
    have goesOn := (h.move next).toSound.live_of_run live
    by_cases notifies : w.notifies next
    · simp only [notices, notifies, if_true, List.singleton_append] at burst
      have soon := (List.isChain_cons_cons.mp burst).1
      exact absurd (Nat.lt_of_lt_of_le soon late) (Nat.lt_irrefl _)
    · have silent : w.notifies next = false := by simpa using notifies
      simp only [notices, silent, Bool.false_eq_true, if_false, List.nil_append] at burst ⊢
      exact ih (h.move next) (step.rests silent rests).1 (step.waits goesOn waits)
        (Nat.le_trans late (step.now_le waits goesOn)) burst live

/-- Where a restart is expected, one begins: the notices that are still to come put it off. -/
theorem Attended.restarts_of_expects {moves : List Move} (h : w.Attended)
    (expects : w.Expects window last) (burst : IsBurst window (last :: w.notices moves))
    (prompt : w.isPrompt moves) (live : (w.run moves).manager.disposed = false)
    (settled : (w.run moves).isSettled) : w.restarts moves = 1 := by
  induction moves generalizing w last with
  | nil => exact absurd expects.renewing (h.not_renewing settled)
  | cons next moves ih =>
    have step := gatherStep_move h next
    have goesOn := (h.move next).toSound.live_of_run live
    simp only [isPrompt, Bool.and_eq_true, Bool.not_eq_true'] at prompt
    by_cases notifies : w.notifies next
    · simp only [notices, notifies, if_true, List.singleton_append] at burst
      obtain ⟨soon, rest⟩ := List.isChain_cons_cons.mp burst
      obtain ⟨after, still⟩ := step.expects_of_notifies h notifies expects soon
      simp [restarts, still, ih (h.move next) after rest prompt.2 live settled]
    · have silent : w.notifies next = false := by simpa using notifies
      simp only [notices, silent, Bool.false_eq_true, if_false, List.nil_append] at burst
      rcases step.expects h silent prompt.1 goesOn expects with
        ⟨after, still⟩ | ⟨rests, waits, begins, late⟩
      · simp [restarts, still, ih (h.move next) after burst prompt.2 live settled]
      · have none := (h.move next).notices_of_late rests waits late burst live
        simp [restarts, begins, (h.move next).restarts_of_rests rests none]

/-- A burst of notices leads to one restart. -/
theorem Attended.restarts_of_burst {moves : List Move} (h : w.Attended) (rests : w.manager.Rests)
    (waits : w.Waits window) (burst : IsBurst window (w.notices moves)) (prompt : w.isPrompt moves)
    (live : (w.run moves).manager.disposed = false) (settled : (w.run moves).isSettled) :
    w.restarts moves = if w.notices moves = [] then 0 else 1 := by
  induction moves generalizing w with
  | nil => rfl
  | cons next moves ih =>
    have step := gatherStep_move h next
    have goesOn := (h.move next).toSound.live_of_run live
    simp only [isPrompt, Bool.and_eq_true] at prompt
    by_cases notifies : w.notifies next
    · simp only [notices, notifies, if_true, List.singleton_append] at burst ⊢
      obtain ⟨expects, still⟩ := step.expects_of_rests h notifies rests waits
      simp [restarts, still,
        (h.move next).restarts_of_expects expects burst prompt.2 live settled]
    · have silent : w.notifies next = false := by simpa using notifies
      simp only [notices, silent, Bool.false_eq_true, if_false, List.nil_append] at burst ⊢
      obtain ⟨after, still⟩ := step.rests silent rests
      simpa [restarts, still] using
        ih (h.move next) after (step.waits goesOn waits) burst prompt.2 live settled

/-! The servers that were there when a notice came. -/

/-- A restart that is still to come stays so, or there is no old server any more. -/
theorem Attended.renewing_move (h : w.Attended) (live : (w.move next).manager.disposed = false)
    (renews : w.manager.isRenewing) :
    (w.move next).manager.isRenewing ∨ ∀ b, ¬ (w.move next).manager.Has b := by
  have was_live := h.toSound.live_of_move live
  have stir := stir_move h.lined next
  generalize w.move next = v at live stir
  cases stir with
  | step go turn job found ready step options acts same =>
    cases options with
    | aside _ _ _ changes restarter | unread _ _ _ changes restarter
    | unbound _ _ _ changes restarter | asked _ _ _ _ changes restarter =>
      exact h.renewing_step found ready acts step changes restarter was_live renews
    | closed _ _ disposed => simp [disposed] at live
    | bound stage =>
      obtain ⟨unwatched, free⟩ := h.gathering.early (.inr ⟨_, _, _, found, stage⟩)
      have changes := h.gathering.changes
      have restarter := h.gathering.restarter
      rcases renews with ⟨b, there, _⟩ | ⟨d, there, _⟩ | ⟨y, there, _⟩
      · simp [there, unwatched] at changes
      · simp [there, unwatched] at restarter
      · simp [there] at free
  | feed feed => exact .inl (feed.renewing h renews)

/-- A server that is not there any more does not come back. -/
theorem Attended.not_has_move (h : w.Attended) {b : BackendId}
    (made : b < w.site.backends.length) (gone : ¬ w.manager.Has b) :
    ¬ (w.move next).manager.Has b := by
  intro has
  rcases h.builds has with before | ⟨options, builds⟩
  · exact gone before
  · exact absurd builds.new (Nat.ne_of_gt made)

theorem Sound.length_le (h : w.Sound) (next : Move) :
    w.site.backends.length ≤ (w.move next).site.backends.length := by
  have course := course_move h.lined next
  generalize w.move next = v at course
  cases course with
  | step turn job found step => exact step.grows.length_le
  | aside manager site => exact Nat.le_of_eq (congrArg List.length site.backends).symm
  | ended => exact Nat.le_refl _

theorem Sound.length_le_run (h : w.Sound) (moves : List Move) :
    w.site.backends.length ≤ (w.run moves).site.backends.length := by
  induction moves generalizing w with
  | nil => exact Nat.le_refl _
  | cons next moves ih => exact Nat.le_trans (h.length_le next) (ih (h.move next))

theorem Attended.not_has_run (h : w.Attended) {b : BackendId} (made : b < w.site.backends.length)
    (gone : ¬ w.manager.Has b) (moves : List Move) : ¬ (w.run moves).manager.Has b := by
  induction moves generalizing w with
  | nil => exact gone
  | cons next moves ih =>
    have made' := Nat.lt_of_lt_of_le made (h.toSound.length_le next)
    exact ih (h.move next) made' (h.not_has_move made gone)

/-- Where a restart is to come, the servers there are have gone when the manager is settled. -/
theorem Attended.gone_of_renewing {moves : List Move} (h : w.Attended)
    (renews : w.manager.isRenewing) (live : (w.run moves).manager.disposed = false)
    (settled : (w.run moves).isSettled) {b : BackendId} (made : b < w.site.backends.length) :
    ¬ (w.run moves).manager.Has b := by
  induction moves generalizing w with
  | nil => exact absurd renews (h.not_renewing settled)
  | cons next moves ih =>
    have made' := Nat.lt_of_lt_of_le made (h.toSound.length_le next)
    rcases h.renewing_move ((h.move next).toSound.live_of_run live) renews with renews | gone
    · exact ih (h.move next) renews live settled made'
    · exact (h.move next).not_has_run made' (gone b) moves

theorem GatherStep.renewing (step : GatherStep w next v) (h : w.Attended)
    (notifies : w.notifies next) (waits : w.Waits window) : v.manager.isRenewing := by
  obtain ⟨d, gathers, _⟩ := waits
  cases step with
  | noticed _ _ changes news => exact .inl ⟨_, changes, news⟩
  | asked _ _ _ restarter => exact isRenewing_of_restart h.gathering _ gathers restarter
  | same silent | forwarded silent | begun silent | ended silent | opened silent | closed silent =>
    simp [notifies] at silent

/-- The servers that there are before a notice have gone when the manager is settled again. -/
theorem Attended.gone_of_notices {moves : List Move} (h : w.Attended) (waits : w.Waits window)
    (notices : w.notices moves ≠ []) (live : (w.run moves).manager.disposed = false)
    (settled : (w.run moves).isSettled) {b : BackendId} (made : b < w.site.backends.length) :
    ¬ (w.run moves).manager.Has b := by
  induction moves generalizing w with
  | nil => exact absurd rfl notices
  | cons next moves ih =>
    have step := gatherStep_move h next
    have goesOn := (h.move next).toSound.live_of_run live
    have made' := Nat.lt_of_lt_of_le made (h.toSound.length_le next)
    by_cases notifies : w.notifies next
    · exact (h.move next).gone_of_renewing (step.renewing h notifies waits) live settled made'
    · have silent : w.notifies next = false := by simpa using notifies
      simp only [Moment.notices, silent, Bool.false_eq_true, if_false, List.nil_append] at notices
      exact ih (h.move next) (step.waits goesOn waits) notices live settled made'

/-- The disposal of a server that is not there any more was called once. -/
theorem Sound.disposals_of_not_has (h : w.Sound) {b : BackendId}
    (made : b < w.site.backends.length) (gone : ¬ w.manager.Has b) : w.site.disposals b = 1 := by
  have once := h.accounts.once b
  by_contra other
  exact gone (h.accounts.kept made (by omega))

end Manager.Moment

end LanguageBroker
