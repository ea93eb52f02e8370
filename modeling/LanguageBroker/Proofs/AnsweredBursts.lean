import LanguageBroker.Proofs.RestartBursts

/-!
Bursts of announcements, also such as do not fit their inbox. An inbox that overflows keeps a trace
of what it has lost, and whoever listens reads all that there is in one go: however many there are,
they set one time of rest, and one look or one restart follows when it is over.
-/

namespace LanguageBroker

theorem Inbox.length_receipts_pos {α : Type} (b : Inbox α) :
    decide (0 < b.receipts.length) = !b.isEmpty := by
  obtain ⟨items, lost⟩ := b
  cases items <;> cases lost <;> simp [receipts, isEmpty]

/-- Is it an announcement of that kind, whatever it tells? -/
def WorkspaceEvent.isOf : WorkspaceEvent → Source → Bool
  | .settings _, .settings => true
  | .environment, .environment => true
  | _, _ => false

theorem WorkspaceEvent.isOf_of_isAbout {e : WorkspaceEvent} {source : Source}
    (about : e.isAbout source) : e.isOf source := by
  cases e <;> cases source <;> simp_all [isAbout, isOf]

/-- What looks at the source. -/
def Source.duty : Source → Provider.Duty
  | .settings => .checkSettings
  | .environment => .checkEnvironment

namespace Watch

variable {k : Watch} {e : WorkspaceEvent} {source : Source}

/-- Is there something unread that calls for a look? -/
def minds (k : Watch) : Source → Bool
  | .settings => k.settings.receipts.any Provider.concernsSettings
  | .environment => !k.environment.isEmpty

/-- When the look is taken. -/
def check (k : Watch) : Source → Debouncer
  | .settings => k.settingsCheck
  | .environment => k.environmentCheck

/-- The watch when an announcement has been heard. -/
def heard (k : Watch) : WorkspaceEvent → Watch
  | .settings change => { k with settings := k.settings.push WorkspaceEvent.capacity change }
  | .environment => { k with environment := k.environment.push WorkspaceEvent.capacity () }
  | .interpreter => { k with interpreter := k.interpreter.push WorkspaceEvent.capacity () }

/-- The watch when a duty has been done. -/
def done (k : Watch) (clock : Clock) : Provider.Duty → Watch
  | .listen => k.listened clock
  | .checkSettings => k.settingsChecked clock
  | .checkEnvironment => k.environmentChecked clock

@[simp] theorem check_heard (k : Watch) (e : WorkspaceEvent) (source : Source) :
    (k.heard e).check source = k.check source := by
  cases e <;> cases source <;> rfl

theorem check_foldl_heard (k : Watch) (burst : List WorkspaceEvent) (source : Source) :
    (burst.foldl heard k).check source = k.check source := by
  induction burst generalizing k with
  | nil => rfl
  | cons e burst ih => exact (ih (k.heard e)).trans (check_heard k e source)

theorem minds_heard_of_other (other : e.isOf source = false) :
    (k.heard e).minds source = k.minds source := by
  cases e <;> cases source <;> first | rfl | simp [WorkspaceEvent.isOf] at other

/-- What calls for a look does so until somebody has listened, also when it is lost. -/
theorem minds_heard (minds : e.isAbout source ∨ k.minds source) : (k.heard e).minds source := by
  cases kind : e.isOf source with
  | false =>
    rw [minds_heard_of_other kind]
    exact minds.resolve_left fun about => by simp [WorkspaceEvent.isOf_of_isAbout about] at kind
  | true =>
    cases e <;> cases source <;> simp only [WorkspaceEvent.isOf, Bool.false_eq_true] at kind
    · exact Inbox.any_push (fun _ => rfl) _ minds
    · simp [Watch.minds, heard, Inbox.isEmpty_push]

/-- However long a burst is, what calls for a look in it does so to the end. -/
theorem minds_foldl_heard {burst : List WorkspaceEvent}
    (minds : (∃ e ∈ burst, e.isAbout source) ∨ k.minds source) :
    (burst.foldl heard k).minds source := by
  induction burst generalizing k with
  | nil => exact minds.resolve_left (by simp)
  | cons e burst ih =>
    refine ih ?_
    rw [List.exists_mem_cons_iff, or_assoc, or_left_comm] at minds
    exact minds.imp_right minds_heard

/-- A burst of announcements about the interpreters says nothing about anything else. -/
theorem minds_foldl_interpreter (k : Watch) (n : Nat) (source : Source) :
    ((List.replicate n .interpreter).foldl heard k).minds source = k.minds source := by
  induction n generalizing k with
  | zero => rfl
  | succ n ih => exact (ih (k.heard .interpreter)).trans (by cases source <;> rfl)

theorem isEmpty_foldl_interpreter (k : Watch) (n : Nat) :
    ((List.replicate (n + 1) .interpreter).foldl heard k).interpreter.isEmpty = false := by
  rw [List.replicate_succ', List.foldl_concat]
  exact Inbox.isEmpty_push ..

/-- Whoever has listened has read everything, and takes a look when the rest is over. -/
theorem minds_listened (k : Watch) (clock : Clock) (source : Source) :
    (k.listened clock).minds source = false := by
  cases source <;> rfl

theorem check_listened (k : Watch) (clock : Clock) (source : Source) :
    (k.listened clock).check source =
      if k.minds source then (k.check source).trigger clock else k.check source := by
  cases source <;> rfl

theorem check_done (k : Watch) (clock : Clock) (source : Source) :
    (k.done clock source.duty).check source = ⟨(k.check source).window, .idle⟩ := by
  cases source <;> rfl

theorem minds_done (k : Watch) (clock : Clock) (source other : Source) :
    (k.done clock other.duty).minds source = k.minds source := by
  cases other <;> cases source <;> rfl

theorem check_done_of_ne (k : Watch) (clock : Clock) {source other : Source} (h : other ≠ source) :
    (k.done clock other.duty).check source = k.check source := by
  cases other <;> cases source <;> first | rfl | simp at h

end Watch

theorem Provider.watch_hear (p : Provider) (e : WorkspaceEvent) :
    (p.hear e).watch = p.watch.map (·.heard e) := by
  cases e <;> rfl

theorem Provider.watch_foldl_hear (p : Provider) (burst : List WorkspaceEvent) :
    (burst.foldl Provider.hear p).watch = p.watch.map (burst.foldl Watch.heard ·) := by
  induction burst generalizing p with
  | nil => simp
  | cons e burst ih =>
    rw [List.foldl_cons, ih, watch_hear, Option.map_map]
    rfl

theorem Provider.watch_act_of_some {p : Provider} {k : Watch} (watch : p.watch = some k) (h : Host)
    (clock : Clock) (duty : Duty) : (p.act h clock duty).1.watch = some (k.done clock duty) := by
  cases duty with
  | listen => rw [act_listen watch]; rfl
  | checkSettings => rw [act_checkSettings, watch]; rfl
  | checkEnvironment =>
    cases read : h.modules p.resource with
    | error => rw [act_checkEnvironment_error read, watch]; rfl
    | ok => rw [act_checkEnvironment read, watch]; rfl

namespace Manager

/-- Does it neither announce anything nor ask for a restart after a time of rest? -/
def Move.isQuiet : Move → Bool
  | .hear _ | .restart => false
  | _ => true

/-- Is it an announcement of that kind? -/
def Move.announces (source : Source) : Move → Bool
  | .hear event => event.isOf source
  | _ => false

namespace Moment

variable {w v : Moment} {next : Move} {moves : List Move} {k k' : Watch} {source : Source}

/-- Does a duty of the provider's have its turn and something to do? -/
def does (w : Moment) (next : Move) (duty : Provider.Duty) : Bool :=
  match w.turn, next with
  | some (.options turn), .go => turn = duty && w.isReady (.options duty)
  | _, _ => false

theorem does_iff {duty : Provider.Duty} : w.does next duty ↔
    next = .go ∧ w.turn = some (.options duty) ∧ w.isReady (.options duty) := by
  unfold does
  split
  · next turn same =>
    rw [same, Bool.and_eq_true, decide_eq_true_eq, Option.some.injEq, Duty.options.injEq]
    simp
  · next other =>
    simp only [Bool.false_eq_true, false_iff, not_and]
    exact fun go turn _ => other duty turn go

/-- All that a move can be for the watch of a provider, until it is disposed of. -/
inductive WatchStep (w : Moment) (next : Move) (k k' : Watch) : Prop
  /-- It has nothing to do with it. -/
  | same (still : ∀ duty, w.does next duty = false) (watch : k' = k)
  | heard {event : WorkspaceEvent} (free : w.turn = none) (hears : next = .hear event)
      (watch : k' = k.heard event)
  | done {duty : Provider.Duty} (does : w.does next duty) (watch : k' = k.done w.ticked.clock duty)

theorem watchStep_move (h : w.Attended) (watch : w.manager.provider.watch = some k)
    (live : (w.move next).manager.disposed = false) :
    ∃ k', (w.move next).manager.provider.watch = some k' ∧ WatchStep w next k k' := by
  by_cases does : ∃ duty, w.does next duty
  · obtain ⟨duty, does⟩ := does
    refine ⟨k.done w.ticked.clock duty, ?_, .done does rfl⟩
    obtain ⟨rfl, turn, ready⟩ := does_iff.mp does
    have moved : w.move .go = w.act (.options duty) := by simp [move, turn, inside, ready]
    rw [moved]
    exact Provider.watch_act_of_some watch _ _ duty
  have still (duty : Provider.Duty) : w.does next duty = false := by
    simpa using not_exists.mp does duty
  have stir := stir_move h.lined next
  generalize w.move next = v at stir live
  have stays (same : v.manager.provider.watch = w.manager.provider.watch) :
      ∃ k', v.manager.provider.watch = some k' ∧ WatchStep w next k k' :=
    ⟨k, same.trans watch, .same still rfl⟩
  cases stir with
  | step go turn job found ready step options =>
    cases options with
    | aside _ _ provider | unread _ _ provider => exact stays (by rw [provider])
    | unbound _ _ provider | asked _ _ _ provider => exact stays (by rw [provider])
    | closed _ _ disposed => simp [disposed] at live
    | bound stage =>
      have unwatched := (h.gathering.early (.inr ⟨_, _, _, found, stage⟩)).1
      simp [watch] at unwatched
  | feed feed =>
    cases feed with
    | @look duty turn ready => simpa [still] using does_iff.mpr ⟨rfl, turn, ready⟩
    | hear event free =>
      refine ⟨k.heard event, ?_, .heard free rfl rfl⟩
      exact (Provider.watch_hear _ event).trans (by rw [watch]; rfl)
    | forward | begin | putAway | ask | restart | change | wait | collect | turned =>
      exact stays rfl

/-- Time passes when somebody waits for it. -/
theorem Attended.now_move (h : w.Attended) (next : Move) :
    (w.move next).site.clock.now = w.site.clock.now ∨ ∃ duration, next = .wait duration ∧
      w.turn = none ∧ (w.move next).site.clock.now = w.site.clock.now + duration := by
  have stir := stir_move h.lined next
  generalize w.move next = v at stir
  cases stir with
  | step go turn job found ready step options =>
    exact .inl ((congrArg Clock.now options.clock).trans rfl)
  | feed feed =>
    cases feed with
    | wait duration free => exact .inr ⟨duration, rfl, free, rfl⟩
    | _ => exact .inl rfl

theorem Attended.now_le_move (h : w.Attended) (next : Move) :
    w.site.clock.now ≤ (w.move next).site.clock.now := by
  rcases h.now_move next with same | ⟨duration, -, -, later⟩
  · exact Nat.le_of_eq same.symm
  · exact later ▸ Nat.le_add_right ..

theorem Attended.now_le_run (h : w.Attended) (moves : List Move) :
    w.site.clock.now ≤ (w.run moves).site.clock.now := by
  induction moves generalizing w with
  | nil => exact Nat.le_refl _
  | cons next moves ih => exact Nat.le_trans (h.now_le_move next) (ih (h.move next))

/-- When the source was looked at in the run. -/
def looks (source : Source) (w : Moment) : List Move → List Time
  | [] => []
  | next :: moves =>
    (if w.does next source.duty then [w.site.clock.now] else []) ++ looks source (w.move next) moves

/-- Does no time pass beyond what is due? -/
def isTimely (w : Moment) : Move → Bool
  | .wait duration => w.turn.isSome || duties.all fun duty => !w.isReady duty &&
      (w.manager.deadline duty).all fun due => w.site.clock.now + duration ≤ due.time
  | _ => true

/-- Is everything done when it is due? -/
def isPunctual (w : Moment) : List Move → Bool
  | [] => true
  | next :: moves => w.isTimely next && isPunctual (w.move next) moves

theorem duty_mem_duties (duty : Provider.Duty) : .options duty ∈ duties := by
  cases duty <;> simp [duties]

/-- Time passes only when no duty has anything to do, and to the next deadline at most. -/
theorem waits_of_isTimely {duration : Nat} (timely : w.isTimely (.wait duration))
    (free : w.turn = none) {duty : Duty} (mem : duty ∈ duties) : w.isReady duty = false ∧
      ∀ due, w.manager.deadline duty = some due → w.site.clock.now + duration ≤ due.time := by
  simp only [isTimely, free, Option.isSome_none, Bool.false_or, List.all_eq_true] at timely
  have here := timely duty mem
  simp only [Bool.and_eq_true, Bool.not_eq_true', Option.all_eq_true, decide_eq_true_eq] at here
  exact here

/-- As long as a duty is ready, no time passes. -/
theorem Attended.now_move_of_ready (h : w.Attended) (timely : w.isTimely next) {duty : Duty}
    (mem : duty ∈ duties) (ready : w.isReady duty) :
    (w.move next).site.clock.now = w.site.clock.now := by
  rcases h.now_move next with same | ⟨duration, rfl, free, -⟩
  · exact same
  · simp [(waits_of_isTimely timely free mem).1] at ready

/-- No deadline is missed. -/
theorem Attended.now_move_le (h : w.Attended) (timely : w.isTimely next) {duty : Duty}
    (mem : duty ∈ duties) {due : Deadline} (waits : w.manager.deadline duty = some due)
    (soon : w.site.clock.now ≤ due.time) : (w.move next).site.clock.now ≤ due.time := by
  rcases h.now_move next with same | ⟨duration, rfl, free, later⟩
  · exact same ▸ soon
  · exact later ▸ (waits_of_isTimely timely free mem).2 due waits

theorem duty_cases (duty : Provider.Duty) :
    duty = .listen ∨ ∃ source : Source, duty = source.duty := by
  cases duty with
  | listen => exact .inl rfl
  | checkSettings => exact .inr ⟨.settings, rfl⟩
  | checkEnvironment => exact .inr ⟨.environment, rfl⟩

theorem does_unique {own other : Provider.Duty} (does : w.does next own)
    (also : w.does next other) : own = other := by
  have same := (does_iff.mp does).2.1.symm.trans (does_iff.mp also).2.1
  simpa using same

/-- A look is taken when it is due. -/
theorem isDue_of_does (watch : w.manager.provider.watch = some k) (does : w.does next source.duty) :
    (k.check source).isDue w.site.clock := by
  obtain ⟨-, -, ready⟩ := does_iff.mp does
  cases source <;>
    simpa [Moment.isReady, Manager.isReady, Provider.isReady, Source.duty, watch, Watch.check]
      using ready

theorem deadline_check (watch : w.manager.provider.watch = some k) :
    w.manager.deadline (.options source.duty) = (k.check source).due? := by
  cases source <;> simp [Manager.deadline, Provider.deadline, Source.duty, watch] <;> rfl

theorem isReady_listen (watch : w.manager.provider.watch = some k) (minds : k.minds source) :
    w.isReady (.options .listen) := by
  cases source with
  | settings =>
    have some : k.settings.isEmpty = false := by
      by_contra none
      simp only [Inbox.isEmpty, Bool.not_eq_false, Bool.and_eq_true, List.isEmpty_iff,
        beq_iff_eq] at none
      simp [Watch.minds, Inbox.receipts, none] at minds
    simp [Moment.isReady, Manager.isReady, Provider.isReady, Provider.hasNews, watch, some]
  | environment =>
    have some : k.environment.isEmpty = false := by simpa [Watch.minds] using minds
    simp [Moment.isReady, Manager.isReady, Provider.isReady, Provider.hasNews, watch, some]

/-- All about the source has been read, and no look at it is to come. -/
structure Rested (source : Source) (w : Moment) (k : Watch) : Prop where
  watch : w.manager.provider.watch = some k
  calm : k.minds source = false
  idle : (k.check source).phase = .idle

/-- One look at the source is to come for what was announced at `start`. When all is done in time,
so is that. -/
inductive Awaits (source : Source) (window : Nat) (start : Time) (timely : Prop) (w : Moment) : Prop
  /-- The announcements are to be read first. -/
  | unread {k : Watch} (watch : w.manager.provider.watch = some k) (minds : k.minds source)
      (check : k.check source = ⟨window, .idle⟩) (past : start ≤ w.site.clock.now)
      (soon : timely → w.site.clock.now = start)
  /-- The look waits for its time. -/
  | waiting {k : Watch} {due : Deadline} (watch : w.manager.provider.watch = some k)
      (calm : k.minds source = false) (check : k.check source = ⟨window, .waiting due⟩)
      (late : start + window ≤ due.time)
      (soon : timely → due.time = start + window ∧ w.site.clock.now ≤ due.time)

variable {window : Nat} {start : Time} {timely : Prop}

/-- Where nothing about the source is to be read, nothing happens to the look at it but itself. -/
theorem WatchStep.calm (step : WatchStep w next k k') (calm : k.minds source = false)
    (unheard : next.announces source = false) (unlooked : w.does next source.duty = false) :
    k'.minds source = false ∧ k'.check source = k.check source := by
  cases step with
  | same _ same =>
    subst same
    exact ⟨calm, rfl⟩
  | heard _ hears same =>
    subst same hears
    exact ⟨(Watch.minds_heard_of_other unheard).trans calm, Watch.check_heard ..⟩
  | @done duty does same =>
    subst same
    rcases duty_cases duty with rfl | ⟨other, rfl⟩
    · refine ⟨Watch.minds_listened .., (Watch.check_listened ..).trans ?_⟩
      rw [calm, if_neg Bool.false_ne_true]
    · have apart : other ≠ source := by
        rintro rfl
        simp [unlooked] at does
      exact ⟨(Watch.minds_done ..).trans calm, Watch.check_done_of_ne _ _ apart⟩

/-- What calls for a look does so until somebody has listened. -/
theorem WatchStep.minds (step : WatchStep w next k k') (minds : k.minds source)
    (unlooked : w.does next source.duty = false) :
    (k'.minds source ∧ k'.check source = k.check source) ∨
      k' = k.listened w.ticked.clock := by
  cases step with
  | same _ same =>
    subst same
    exact .inl ⟨minds, rfl⟩
  | heard _ _ same => exact .inl (same ▸ ⟨Watch.minds_heard (.inr minds), Watch.check_heard ..⟩)
  | @done duty does same =>
    subst same
    rcases duty_cases duty with rfl | ⟨other, rfl⟩
    · exact .inr rfl
    · have apart : other ≠ source := by
        rintro rfl
        simp [unlooked] at does
      exact .inl ⟨(Watch.minds_done ..).trans minds, Watch.check_done_of_ne _ _ apart⟩

/-- A look is over at once. -/
theorem WatchStep.looked (step : WatchStep w next k k') (does : w.does next source.duty) :
    k'.minds source = k.minds source ∧ k'.check source = ⟨(k.check source).window, .idle⟩ := by
  cases step with
  | same still => simp [still] at does
  | heard free => simp [Moment.does, free] at does
  | @done duty also same =>
    obtain rfl := does_unique does also
    subst same
    exact ⟨Watch.minds_done .., Watch.check_done ..⟩

theorem Rested.not_does (rested : w.Rested source k) : w.does next source.duty = false := by
  by_contra does
  have due := isDue_of_does rested.watch (by simpa using does)
  simp [Debouncer.isDue, Debouncer.due?, rested.idle] at due

theorem Rested.step (rested : w.Rested source k) (step : WatchStep w next k k')
    (watch : (w.move next).manager.provider.watch = some k')
    (unheard : next.announces source = false) : (w.move next).Rested source k' := by
  obtain ⟨calm, check⟩ := step.calm rested.calm unheard rested.not_does
  exact ⟨watch, calm, by rw [check, rested.idle]⟩

/-- The look that is to come stays so, or it is taken, and then no other one is to come. -/
theorem Awaits.step (h : w.Attended) (awaits : w.Awaits source window start timely)
    (live : (w.move next).manager.disposed = false) (unheard : next.announces source = false)
    (prompt : timely → w.isTimely next) :
    w.does next source.duty = false ∧ (w.move next).Awaits source window start timely ∨
      w.does next source.duty ∧ (∃ k, (w.move next).Rested source k) ∧
        start + window ≤ w.site.clock.now ∧ (timely → w.site.clock.now = start + window) := by
  cases awaits with
  | @unread k watch minds check past soon =>
    obtain ⟨k', watch', step⟩ := watchStep_move h watch live
    have unlooked : w.does next source.duty = false := by
      by_contra does
      have due := isDue_of_does watch (by simpa using does)
      simp [Debouncer.isDue, Debouncer.due?, check] at due
    refine .inl ⟨unlooked, ?_⟩
    have now (in_time : timely) : (w.move next).site.clock.now = start :=
      (h.now_move_of_ready (prompt in_time) (duty_mem_duties _) (isReady_listen watch minds)).trans
        (soon in_time)
    rcases step.minds minds unlooked with ⟨minds', check'⟩ | rfl
    · exact .unread watch' minds' (check'.trans check) 
        (Nat.le_trans past (h.now_le_move next)) now
    · have waits : (k.listened w.ticked.clock).check source =
          ⟨window, .waiting (w.ticked.clock.after window)⟩ := by
        rw [Watch.check_listened, if_pos minds, check]
        rfl
      refine .waiting watch' (Watch.minds_listened ..) waits ?_ ?_
      · exact Nat.add_le_add_right past window
      · intro in_time
        have here : w.ticked.clock.now = start := soon in_time
        rw [Clock.after, now in_time, here]
        exact ⟨rfl, Nat.le_add_right ..⟩
  | @waiting k due watch calm check late soon =>
    obtain ⟨k', watch', step⟩ := watchStep_move h watch live
    cases does : w.does next source.duty with
    | false =>
      obtain ⟨calm', check'⟩ := step.calm calm unheard does
      refine .inl ⟨rfl, .waiting watch' calm' (check'.trans check) late fun in_time => ?_⟩
      obtain ⟨exactly, before⟩ := soon in_time
      have waits : w.manager.deadline (.options source.duty) = some due := by
        rw [deadline_check watch, check]
        rfl
      exact ⟨exactly, h.now_move_le (prompt in_time) (duty_mem_duties _) waits before⟩
    | true =>
      have reached : due.time ≤ w.site.clock.now := by
        simpa [Debouncer.isDue, Debouncer.due?, check, Clock.reached] using
          isDue_of_does watch does
      obtain ⟨calm', idle⟩ := step.looked does
      refine .inr ⟨rfl, ⟨k', watch', calm'.trans calm, by rw [idle]⟩, Nat.le_trans late reached,
        fun in_time => ?_⟩
      obtain ⟨exactly, before⟩ := soon in_time
      exact Nat.le_antisymm (exactly ▸ before) (Nat.le_trans late reached)

theorem Rested.looks_eq_nil (h : w.Attended) (rested : w.Rested source k)
    (live : (w.run moves).manager.disposed = false)
    (unheard : ∀ next ∈ moves, next.announces source = false) : w.looks source moves = [] := by
  induction moves generalizing w k with
  | nil => rfl
  | cons next moves ih =>
    have goesOn := (h.move next).toSound.live_of_run live
    obtain ⟨k', watch, step⟩ := watchStep_move h rested.watch goesOn
    have rests := rested.step step watch (unheard next List.mem_cons_self)
    have others := ih (h.move next) rests live fun next mem =>
      unheard next (List.mem_cons_of_mem _ mem)
    simp [looks, rested.not_does, others]

/-- In every run the look that is to come stays so, or it is taken once. -/
theorem Awaits.looks_cases (h : w.Attended) (awaits : w.Awaits source window start timely)
    (live : (w.run moves).manager.disposed = false)
    (unheard : ∀ next ∈ moves, next.announces source = false)
    (prompt : timely → w.isPunctual moves) :
    w.looks source moves = [] ∧ (w.run moves).Awaits source window start timely ∨
      ∃ t, w.looks source moves = [t] ∧ start + window ≤ t ∧ (timely → t = start + window) ∧
        t ≤ (w.run moves).site.clock.now := by
  induction moves generalizing w with
  | nil => exact .inl ⟨rfl, awaits⟩
  | cons next moves ih =>
    have goesOn := (h.move next).toSound.live_of_run live
    have others (next' : Move) (mem : next' ∈ moves) := unheard next' (List.mem_cons_of_mem _ mem)
    have first (in_time : timely) : w.isTimely next ∧ (w.move next).isPunctual moves := by
      simpa [isPunctual] using prompt in_time
    rcases awaits.step h goesOn (unheard next List.mem_cons_self) (fun t => (first t).1) with
      ⟨unlooked, awaits'⟩ | ⟨looked, ⟨k, rested⟩, late, exactly⟩
    · rcases ih (h.move next) awaits' live others (fun t => (first t).2) with rest | rest
      · exact .inl ⟨by simp [looks, unlooked, rest.1], rest.2⟩
      · simpa [looks, unlooked] using .inr rest
    · have none := rested.looks_eq_nil (h.move next) live others
      exact .inr ⟨w.site.clock.now, by simp [looks, looked, none], late, exactly,
        h.now_le_run (next :: moves)⟩

/-! Changes of the interpreters. -/

/-- No look at the inputs is to come. -/
def Unhurried (w : Moment) (k : Watch) : Prop := ∀ source, w.Rested source k

theorem Unhurried.watch (calm : w.Unhurried k) : w.manager.provider.watch = some k :=
  (calm .settings).watch

/-- Only what was announced about the interpreters is there to be passed on. -/
theorem Unhurried.notifies (calm : w.Unhurried k) (quiet : next.isQuiet) :
    w.notifies next = (w.does next .listen && !k.interpreter.isEmpty) := by
  unfold Moment.notifies
  split
  · next duty turn =>
    rcases duty_cases duty with rfl | ⟨source, rfl⟩
    · have passes : decide (0 < (w.manager.provider.act w.site.host w.ticked.clock .listen).2) =
          !k.interpreter.isEmpty := by
        rw [Provider.act_listen calm.watch, Inbox.length_receipts_pos]
      simp [does, turn, passes]
    · have unlooked : w.does .go source.duty = false := (calm source).not_does
      have other : w.does .go .listen = false := by
        by_contra listens
        have same := does_iff.mp (by simpa using listens)
        simp only [turn] at same
        cases source <;> simp [Source.duty] at same
      simp only [does, turn, decide_true, Bool.true_and] at unlooked
      simp [unlooked, other]
  · exact absurd quiet Bool.false_ne_true
  · next move _ _ other _ =>
    have unread : w.does move .listen = false := by
      by_contra listens
      obtain ⟨go, turn, -⟩ := does_iff.mp (by simpa using listens)
      exact other _ turn go
    rw [unread, Bool.false_and]

theorem Unhurried.step (calm : w.Unhurried k) (step : WatchStep w next k k')
    (watch : (w.move next).manager.provider.watch = some k') (quiet : next.isQuiet) :
    (w.move next).Unhurried k' := fun source =>
  (calm source).step step watch (by cases next <;> first | rfl | cases quiet)

/-- What was announced about the interpreters is there until somebody has listened. -/
theorem WatchStep.interpreter (step : WatchStep w next k k') (quiet : next.isQuiet) :
    w.does next .listen = false ∧ k'.interpreter = k.interpreter ∨
      w.does next .listen ∧ k'.interpreter.isEmpty := by
  cases step with
  | same still same => exact .inl ⟨still _, by rw [same]⟩
  | heard _ hears =>
    subst hears
    exact absurd quiet Bool.false_ne_true
  | @done duty does same =>
    subst same
    cases listens : w.does next .listen with
    | true =>
      obtain rfl := does_unique does listens
      exact .inr ⟨rfl, rfl⟩
    | false =>
      refine .inl ⟨rfl, ?_⟩
      cases duty with
      | listen => simp [listens] at does
      | checkSettings | checkEnvironment => rfl

theorem WatchStep.interpreter_read (step : WatchStep w next k k') (quiet : next.isQuiet)
    (read : k.interpreter.isEmpty) : k'.interpreter.isEmpty := by
  rcases step.interpreter quiet with ⟨-, same⟩ | ⟨-, read'⟩
  · rw [same, read]
  · exact read'

/-- Whoever listens to announcements about the interpreters passes a change on. -/
theorem Attended.passes_on (h : w.Attended) (listens : w.does next .listen)
    (watch : w.manager.provider.watch = some k) (news : k.interpreter.isEmpty = false) :
    ∃ b, (w.move next).manager.changes = some b ∧ b.isEmpty = false ∧
      (w.move next).manager.restarter = w.manager.restarter ∧ w.begins next = false := by
  obtain ⟨rfl, turn, ready⟩ := does_iff.mp listens
  have moved : w.move .go = w.act (.options .listen) := by simp [Moment.move, turn, inside, ready]
  obtain ⟨b, changes⟩ : ∃ b, w.manager.changes = some b := by
    rw [← Option.isSome_iff_exists, h.gathering.changes, watch]
    rfl
  have count : 0 < (w.manager.provider.act w.site.host w.ticked.clock .listen).2 := by
    rw [Provider.act_listen watch]
    exact of_decide_eq_true (by rw [Inbox.length_receipts_pos, news]; rfl)
  refine ⟨_, ?_, isEmpty_announce (b := b) (.inr count), ?_, begins_eq_false ?_⟩ <;> rw [moved]
  · simp [act, Manager.act, announce, changes, ticked]
  · rfl
  · exact id

/-- One restart is to come for what was announced about the interpreters at `start`, and nothing
else is. When all is done in time, so is that. -/
inductive Impends (window : Nat) (start : Time) (timely : Prop) (w : Moment) : Prop
  /-- The announcements are to be read first. -/
  | unread {k : Watch} {d : Debouncer} (calm : w.Unhurried k)
      (news : k.interpreter.isEmpty = false) (rests : w.manager.Rests)
      (gathers : w.manager.restarter = some d) (same : d.window = window)
      (soon : timely → d.phase = .idle ∧ w.site.clock.now = start)
  /-- The changes are to be passed on. -/
  | unpassed {k : Watch} {b : Inbox Unit} {d : Debouncer} (calm : w.Unhurried k)
      (read : k.interpreter.isEmpty) (changes : w.manager.changes = some b)
      (news : b.isEmpty = false) (gathers : w.manager.restarter = some d)
      (still : d.isGathering = false) (same : d.window = window)
      (soon : timely → d.phase = .idle ∧ w.site.clock.now = start)
  /-- The restart waits for its time. -/
  | gathered {k : Watch} {d : Debouncer} (calm : w.Unhurried k) (read : k.interpreter.isEmpty)
      (passed : ∀ {b}, w.manager.changes = some b → b.isEmpty)
      (gathers : w.manager.restarter = some d) (gathering : d.isGathering)
      (soon : timely → ∃ due, d.phase = .waiting due ∧ due.time = start + window ∧
        w.site.clock.now ≤ due.time)

/-- A debouncer that is not triggered and has nothing to run goes on so. -/
theorem GatherStep.restarter_of_rests (step : GatherStep w next v)
    (silent : w.notifies next = false) (rests : w.manager.Rests)
    (live : v.manager.disposed = false) {d : Debouncer} (gathers : w.manager.restarter = some d) :
    ∃ d', v.manager.restarter = some d' ∧ d'.window = d.window ∧
      (d.phase = .idle → d'.phase = .idle) := by
  cases step with
  | same _ _ _ restarter => exact ⟨d, restarter.trans gathers, rfl, id⟩
  | noticed notifies | asked notifies => simp [silent] at notifies
  | forwarded _ _ before news => simp [rests.passed before] at news
  | begun _ _ also due =>
    have gathering := Debouncer.isGathering_of_isDue due
    simp [rests.phase also] at gathering
  | ended _ _ _ restarter =>
    exact ⟨_, by rw [restarter, gathers]; rfl, Debouncer.window_finish .., fun idle => by
      simp [Debouncer.finish, idle]⟩
  | opened _ _ unready => simp [gathers] at unready
  | closed _ _ disposed => simp [live] at disposed

theorem isReady_listen_of_interpreter (watch : w.manager.provider.watch = some k)
    (news : k.interpreter.isEmpty = false) : w.isReady (.options .listen) := by
  simp [Moment.isReady, Manager.isReady, Provider.isReady, Provider.hasNews, watch, news]

theorem isReady_forward {b : Inbox Unit} (changes : w.manager.changes = some b)
    (news : b.isEmpty = false) : w.isReady .forward := by
  simp [Moment.isReady, Manager.isReady, changes, news]

/-- Announcements that are to be read stay so, or they are read and a change is to be passed on. -/
private theorem Impends.step_unread {d : Debouncer} (h : w.Attended) (calm : w.Unhurried k)
    (news : k.interpreter.isEmpty = false) (rests : w.manager.Rests)
    (gathers : w.manager.restarter = some d) (same : d.window = window)
    (soon : timely → d.phase = .idle ∧ w.site.clock.now = start)
    (live : (w.move next).manager.disposed = false) (quiet : next.isQuiet)
    (prompt : timely → w.isTimely next) :
    w.begins next = false ∧ (w.move next).Impends window start timely := by
  obtain ⟨k', watch, step⟩ := watchStep_move h calm.watch live
  have goesOn := calm.step step watch quiet
  have gather := gatherStep_move h next
  have now (in_time : timely) : (w.move next).site.clock.now = start :=
    (h.now_move_of_ready (prompt in_time) (duty_mem_duties _)
      (isReady_listen_of_interpreter calm.watch news)).trans (soon in_time).2
  rcases step.interpreter quiet with ⟨unread, unchanged⟩ | ⟨listens, read⟩
  · have silent : w.notifies next = false := by simp [calm.notifies quiet, unread]
    obtain ⟨after, still⟩ := gather.rests silent rests
    obtain ⟨d', gathers', same', idle⟩ := gather.restarter_of_rests silent rests live gathers
    exact ⟨still, .unread goesOn (unchanged ▸ news) after gathers' (same'.trans same)
      fun in_time => ⟨idle (soon in_time).1, now in_time⟩⟩
  · obtain ⟨b, changes, some, restarter, still⟩ := h.passes_on listens calm.watch news
    exact ⟨still, .unpassed goesOn read changes some (restarter.trans gathers)
      (rests.phase gathers) same fun in_time => ⟨(soon in_time).1, now in_time⟩⟩

/-- A change that waits to be passed on stays so, or the rest before the restart is set. -/
private theorem Impends.step_unpassed {b : Inbox Unit} {d : Debouncer} (h : w.Attended)
    (calm : w.Unhurried k) (read : k.interpreter.isEmpty) (changes : w.manager.changes = some b)
    (news : b.isEmpty = false) (gathers : w.manager.restarter = some d)
    (idle : d.isGathering = false) (same : d.window = window)
    (soon : timely → d.phase = .idle ∧ w.site.clock.now = start)
    (live : (w.move next).manager.disposed = false) (quiet : next.isQuiet)
    (prompt : timely → w.isTimely next) :
    w.begins next = false ∧ (w.move next).Impends window start timely := by
  obtain ⟨k', watch, step⟩ := watchStep_move h calm.watch live
  have goesOn := calm.step step watch quiet
  have read' := step.interpreter_read quiet read
  have silent : w.notifies next = false := by simp [calm.notifies quiet, read]
  have now (in_time : timely) : (w.move next).site.clock.now = start :=
    (h.now_move_of_ready (prompt in_time) (by simp [duties]) (isReady_forward changes news)).trans
      (soon in_time).2
  cases gatherStep_move h next with
  | same _ still changes' restarter =>
    exact ⟨still, .unpassed goesOn read' (changes'.trans changes) news (restarter.trans gathers)
      idle same fun in_time => ⟨(soon in_time).1, now in_time⟩⟩
  | noticed notifies | asked notifies => simp [silent] at notifies
  | forwarded _ still before _ changes' restarter =>
    have open' := (h.gathering.busy gathers).1
    refine ⟨still, .gathered goesOn read' (fun {b'} there => ?_)
      (d := d.trigger w.ticked.clock) ?_ ?_ fun in_time => ?_⟩
    · obtain rfl := Option.some.inj (changes'.symm.trans there)
      rfl
    · rw [restarter, gathers]
      rfl
    · rcases Debouncer.trigger_cases open' w.ticked.clock with waits | ⟨-, busy⟩ <;>
        simp [Debouncer.isGathering, *]
    · obtain ⟨rested, here⟩ := soon in_time
      refine ⟨w.ticked.clock.after d.window, by simp [Debouncer.trigger, rested], ?_, ?_⟩
      · rw [Clock.after, same, ← here]
        rfl
      · rw [now in_time, ← here]
        exact Nat.le_add_right ..
  | begun _ _ also due =>
    obtain rfl := Option.some.inj (also.symm.trans gathers)
    simp [Debouncer.isGathering_of_isDue due] at idle
  | ended _ still changes' restarter =>
    refine ⟨still, .unpassed goesOn read' (changes'.trans changes) news
      (d := d.finish w.ticked.clock) ?_ ?_ ?_ fun in_time => ⟨?_, now in_time⟩⟩
    · rw [restarter, gathers]
      rfl
    · rw [Debouncer.isGathering_finish, idle]
    · rw [Debouncer.window_finish, same]
    · simp [Debouncer.finish, (soon in_time).1]
  | opened _ _ unready => simp [gathers] at unready
  | closed _ _ disposed => simp [live] at disposed

/-- A restart that is gathered stays so, or it begins, and then no other one is to come. -/
private theorem Impends.step_gathered {d : Debouncer} (h : w.Attended) (calm : w.Unhurried k)
    (read : k.interpreter.isEmpty) (passed : ∀ {b}, w.manager.changes = some b → b.isEmpty)
    (gathers : w.manager.restarter = some d) (gathering : d.isGathering)
    (soon : timely → ∃ due, d.phase = .waiting due ∧ due.time = start + window ∧
      w.site.clock.now ≤ due.time)
    (live : (w.move next).manager.disposed = false) (quiet : next.isQuiet)
    (prompt : timely → w.isTimely next) :
    w.begins next = false ∧ (w.move next).Impends window start timely ∨
      w.begins next ∧ (w.move next).manager.Rests ∧
        (∃ k, (w.move next).Unhurried k ∧ k.interpreter.isEmpty) ∧
        (timely → w.site.clock.now = start + window) := by
  obtain ⟨k', watch, step⟩ := watchStep_move h calm.watch live
  have goesOn := calm.step step watch quiet
  have read' := step.interpreter_read quiet read
  have silent : w.notifies next = false := by simp [calm.notifies quiet, read]
  have now (in_time : timely) {due : Deadline} (waits : d.phase = .waiting due)
      (before : w.site.clock.now ≤ due.time) : (w.move next).site.clock.now ≤ due.time := by
    have alone : w.manager.job? restartJob = none := by
      by_contra busy
      obtain ⟨again, phase⟩ := (h.gathering.busy gathers).2.mpr busy
      simp [waits] at phase
    have deadline : w.manager.deadline .restart = some due := by
      simp [Manager.deadline, alone, gathers, Debouncer.due?, waits]
    exact h.now_move_le (prompt in_time) (by simp [duties]) deadline before
  cases gatherStep_move h next with
  | same _ still changes restarter =>
    refine .inl ⟨still, .gathered goesOn read' (changes ▸ passed) (restarter.trans gathers)
      gathering fun in_time => ?_⟩
    obtain ⟨due, waits, exactly, before⟩ := soon in_time
    exact ⟨due, waits, exactly, now in_time waits before⟩
  | noticed notifies | asked notifies => simp [silent] at notifies
  | forwarded _ _ before news => simp [passed before] at news
  | begun _ begins also due changes restarter =>
    obtain rfl := Option.some.inj (also.symm.trans gathers)
    refine .inr ⟨begins, ⟨changes ▸ passed, fun {d'} there => ?_⟩, ⟨k', goesOn, read'⟩,
      fun in_time => ?_⟩
    · obtain rfl := Option.some.inj (restarter.symm.trans there)
      rfl
    · obtain ⟨at_last, waits, exactly, before⟩ := soon in_time
      have reached : at_last.time ≤ w.site.clock.now := by
        simpa [Debouncer.isDue, Debouncer.due?, waits, Clock.reached] using due
      exact (Nat.le_antisymm before reached).trans exactly
  | ended _ still changes restarter =>
    refine .inl ⟨still, .gathered goesOn read' (changes ▸ passed) (d := d.finish w.ticked.clock)
      ?_ ?_ fun in_time => ?_⟩
    · rw [restarter, gathers]
      rfl
    · rw [Debouncer.isGathering_finish, gathering]
    · obtain ⟨due, waits, exactly, before⟩ := soon in_time
      exact ⟨due, by simp [Debouncer.finish, waits], exactly, now in_time waits before⟩
  | opened _ _ unready => simp [gathers] at unready
  | closed _ _ disposed => simp [live] at disposed

/-- The restart that is to come stays so, or it begins, and then no other one is to come. -/
theorem Impends.step (h : w.Attended) (impends : w.Impends window start timely)
    (live : (w.move next).manager.disposed = false) (quiet : next.isQuiet)
    (prompt : timely → w.isTimely next) :
    w.begins next = false ∧ (w.move next).Impends window start timely ∨
      w.begins next ∧ (w.move next).manager.Rests ∧
        (∃ k, (w.move next).Unhurried k ∧ k.interpreter.isEmpty) ∧
        (timely → w.site.clock.now = start + window) := by
  cases impends with
  | unread calm news rests gathers same soon =>
    exact .inl (step_unread h calm news rests gathers same soon live quiet prompt)
  | unpassed calm read changes news gathers idle same soon =>
    exact .inl (step_unpassed h calm read changes news gathers idle same soon live quiet prompt)
  | gathered calm read passed gathers gathering soon =>
    exact step_gathered h calm read passed gathers gathering soon live quiet prompt

/-- Whoever has nothing to look at and nothing to pass on gives no notice. -/
theorem Unhurried.notices_eq_nil (h : w.Attended) (calm : w.Unhurried k)
    (read : k.interpreter.isEmpty) (quiet : ∀ next ∈ moves, next.isQuiet)
    (live : (w.run moves).manager.disposed = false) : w.notices moves = [] := by
  induction moves generalizing w k with
  | nil => rfl
  | cons next moves ih =>
    have first := quiet next List.mem_cons_self
    have goesOn := (h.move next).toSound.live_of_run live
    obtain ⟨k', watch, step⟩ := watchStep_move h calm.watch goesOn
    have rest := ih (h.move next) (calm.step step watch first) (step.interpreter_read first read)
      (fun next mem => quiet next (List.mem_cons_of_mem _ mem)) live
    simp [notices, calm.notifies first, read, rest]

/-- In every run the restart that is to come stays so, or it begins once. -/
theorem Impends.restarts_cases (h : w.Attended) (impends : w.Impends window start timely)
    (live : (w.run moves).manager.disposed = false) (quiet : ∀ next ∈ moves, next.isQuiet)
    (prompt : timely → w.isPunctual moves) :
    w.restarts moves = 0 ∧ (w.run moves).Impends window start timely ∨
      w.restarts moves = 1 ∧ (timely → start + window ≤ (w.run moves).site.clock.now) := by
  induction moves generalizing w with
  | nil => exact .inl ⟨rfl, impends⟩
  | cons next moves ih =>
    have goesOn := (h.move next).toSound.live_of_run live
    have others (next' : Move) (mem : next' ∈ moves) := quiet next' (List.mem_cons_of_mem _ mem)
    have first (in_time : timely) : w.isTimely next ∧ (w.move next).isPunctual moves := by
      simpa [isPunctual] using prompt in_time
    rcases impends.step h goesOn (quiet next List.mem_cons_self) (fun t => (first t).1) with
      ⟨still, impends'⟩ | ⟨begins, rests, ⟨k, calm, read⟩, exactly⟩
    · rcases ih (h.move next) impends' live others (fun t => (first t).2) with rest | rest
      · exact .inl ⟨by simp [restarts, still, rest.1], rest.2⟩
      · exact .inr ⟨by simp [restarts, still, rest.1], rest.2⟩
    · have none := (h.move next).restarts_of_rests rests
        (calm.notices_eq_nil (h.move next) read others live)
      exact .inr ⟨by simp [restarts, begins, none], fun in_time =>
        exactly in_time ▸ h.now_le_run (next :: moves)⟩

/-! Bursts of announcements. -/

@[simp] theorem does_hear (w : Moment) (e : WorkspaceEvent) (duty : Provider.Duty) :
    w.does (.hear e) duty = false := by
  by_contra does
  cases (does_iff.mp (by simpa using does)).1

/-- Between two turns a burst of announcements is heard by the provider and by nobody else. -/
theorem run_hear (free : w.turn = none) (burst : List WorkspaceEvent) :
    w.run (burst.map .hear) = { w with
      manager := { w.manager with provider := burst.foldl Provider.hear w.manager.provider } } := by
  induction burst generalizing w with
  | nil => rfl
  | cons e burst ih =>
    have moved : w.move (.hear e) = { w with manager := w.manager.hear e } := by
      simp [move, free, outside]
    rw [List.map_cons, run_cons, moved]
    exact ih (w := { w with manager := w.manager.hear e }) free

theorem looks_hear (source : Source) (free : w.turn = none) (burst : List WorkspaceEvent)
    (moves : List Move) :
    w.looks source (burst.map .hear ++ moves) = (w.run (burst.map .hear)).looks source moves := by
  induction burst generalizing w with
  | nil => rfl
  | cons e burst ih =>
    have free' : (w.move (.hear e)).turn = none := by simp [move, free, outside]
    simp [looks, ih free']

theorem isPunctual_hear (free : w.turn = none) (burst : List WorkspaceEvent) (moves : List Move) :
    w.isPunctual (burst.map .hear ++ moves) = (w.run (burst.map .hear)).isPunctual moves := by
  induction burst generalizing w with
  | nil => rfl
  | cons e burst ih =>
    have free' : (w.move (.hear e)).turn = none := by simp [move, free, outside]
    simp [isPunctual, isTimely, ih free']

theorem restarts_hear (free : w.turn = none) (burst : List WorkspaceEvent) (moves : List Move) :
    w.restarts (burst.map .hear ++ moves) = (w.run (burst.map .hear)).restarts moves := by
  induction burst generalizing w with
  | nil => rfl
  | cons e burst ih =>
    have moved : w.move (.hear e) = { w with manager := w.manager.hear e } := by
      simp [move, free, outside]
    have still : w.begins (.hear e) = false := begins_eq_false (by rw [moved]; exact id)
    simp [restarts, still, ih (w := w.move (.hear e)) (by rw [moved]; exact free)]

theorem Awaits.isDue (awaits : w.Awaits source window start timely) :
    ∃ k, w.manager.provider.watch = some k ∧ k.isDue source := by
  cases awaits with
  | unread watch minds =>
    refine ⟨_, watch, ?_⟩
    cases source with
    | settings => exact .inr minds
    | environment => exact .inr (by simpa [Watch.minds] using minds)
  | waiting watch calm check =>
    refine ⟨_, watch, ?_⟩
    cases source <;> exact .inl ⟨_, congrArg Debouncer.phase check⟩

theorem Awaits.now_le (awaits : w.Awaits source window start timely) (in_time : timely) :
    w.site.clock.now ≤ start + window := by
  cases awaits with
  | unread _ _ _ _ soon => exact Nat.le_trans (Nat.le_of_eq (soon in_time)) (Nat.le_add_right ..)
  | waiting _ _ _ _ soon => exact (soon in_time).1 ▸ (soon in_time).2

theorem Impends.now_le (impends : w.Impends window start timely) (in_time : timely) :
    w.site.clock.now ≤ start + window := by
  cases impends with
  | unread _ _ _ _ _ soon | unpassed _ _ _ _ _ _ _ soon =>
    exact Nat.le_trans (Nat.le_of_eq (soon in_time).2) (Nat.le_add_right ..)
  | gathered _ _ _ _ _ soon =>
    obtain ⟨due, -, exactly, before⟩ := soon in_time
    exact exactly ▸ before

theorem Impends.not_settled (h : w.Attended) (impends : w.Impends window start timely) :
    ¬ w.isSettled := by
  intro settled
  cases impends with
  | unread calm news =>
    have ready := isReady_listen_of_interpreter calm.watch news
    simp [(settled.2 _ (duty_mem_duties _)).1] at ready
  | unpassed _ _ changes news =>
    exact h.not_renewing settled (.inl ⟨_, changes, news⟩)
  | @gathered k d _ _ _ gathers gathering =>
    refine h.not_renewing settled (.inr (.inl ⟨_, gathers, ?_⟩))
    cases phase : d.phase with
    | waiting due => exact .inl ⟨due, rfl⟩
    | busy again => cases again <;> simp_all [Debouncer.isGathering]
    | idle | closed => simp [Debouncer.isGathering, phase] at gathering

/-- A burst with an announcement about the source is answered by one look, and by the end of the
rest if all is done in time. -/
theorem Attended.looks_of_burst (h : w.Attended) (free : w.turn = none)
    (watch : w.manager.provider.watch = some k) (idle : (k.check source).phase = .idle)
    {burst : List WorkspaceEvent} (about : ∃ e ∈ burst, e.isAbout source)
    (unheard : ∀ next ∈ moves, next.announces source = false)
    (live : (w.run (burst.map .hear ++ moves)).manager.disposed = false) :
    let run := burst.map .hear ++ moves
    let due := w.site.clock.now + (k.check source).window
    ((w.run run).isSettled → ∃ t, w.looks source run = [t] ∧ due ≤ t) ∧
      (w.isPunctual run →
        ((w.run run).site.clock.now < due → w.looks source run = []) ∧
        (due < (w.run run).site.clock.now → w.looks source run = [due])) := by
  intro run due
  have told : (w.run (burst.map .hear)).Attended := h.run _
  rw [run_append] at live
  have awaits (timely : Prop) : (w.run (burst.map .hear)).Awaits source (k.check source).window
      w.site.clock.now timely := by
    have here : (w.run (burst.map .hear)).manager.provider.watch =
        some (burst.foldl Watch.heard k) := by
      rw [run_hear free]
      exact (Provider.watch_foldl_hear ..).trans (by rw [watch]; rfl)
    have now : (w.run (burst.map .hear)).site.clock.now = w.site.clock.now := by rw [run_hear free]
    refine .unread here (Watch.minds_foldl_heard (.inl about)) ?_ (Nat.le_of_eq now.symm)
      fun _ => now
    rw [Watch.check_foldl_heard, ← idle]
  have looks : w.looks source run = (w.run (burst.map .hear)).looks source moves :=
    looks_hear source free burst moves
  have final : w.run run = (w.run (burst.map .hear)).run moves := run_append ..
  rw [looks, final]
  refine ⟨fun settled => ?_, fun punctual => ?_⟩
  · rcases (awaits False).looks_cases told live unheard False.elim with
      ⟨-, still⟩ | ⟨t, once, late, -⟩
    · obtain ⟨k', watch', due'⟩ := still.isDue
      exact absurd due' (settled.not_due watch' source)
    · exact ⟨t, once, late⟩
  · rw [isPunctual_hear free] at punctual
    rcases (awaits True).looks_cases told live unheard fun _ => punctual with
      ⟨none, still⟩ | ⟨t, once, -, exactly, past⟩
    · exact ⟨fun _ => none, fun beyond => absurd (still.now_le trivial) (Nat.not_le.mpr beyond)⟩
    · obtain rfl := exactly trivial
      exact ⟨fun early => absurd early (Nat.not_lt.mpr past), fun _ => once⟩

/-- A burst of announcements about the interpreters leads to one restart, and by the end of the rest
if all is done in time. -/
theorem Attended.restarts_of_hear (h : w.Attended) (free : w.turn = none) (calm : w.Unhurried k)
    (rests : w.manager.Rests) {burst : List WorkspaceEvent} {n : Nat}
    (heard : burst = List.replicate (n + 1) .interpreter) (quiet : ∀ next ∈ moves, next.isQuiet)
    (live : (w.run (burst.map .hear ++ moves)).manager.disposed = false) :
    let run := burst.map .hear ++ moves
    ((w.run run).isSettled → w.restarts run = 1) ∧
      (w.isPunctual run → ∀ d, w.manager.restarter = some d → d.phase = .idle →
        ((w.run run).site.clock.now < w.site.clock.now + d.window → w.restarts run = 0) ∧
        (w.site.clock.now + d.window < (w.run run).site.clock.now → w.restarts run = 1)) := by
  intro run
  have told : (w.run (burst.map .hear)).Attended := h.run _
  rw [run_append] at live
  obtain ⟨d, gathers⟩ : ∃ d, w.manager.restarter = some d := by
    rw [← Option.isSome_iff_exists, h.gathering.restarter, calm.watch]
    rfl
  have impends {timely : Prop} (soon : timely → d.phase = .idle) :
      (w.run (burst.map .hear)).Impends d.window w.site.clock.now timely := by
    have watch : (w.run (burst.map .hear)).manager.provider.watch =
        some (burst.foldl Watch.heard k) := by
      rw [run_hear free]
      exact (Provider.watch_foldl_hear ..).trans (by rw [calm.watch]; rfl)
    have news : (burst.foldl Watch.heard k).interpreter.isEmpty = false := by
      rw [heard, Watch.isEmpty_foldl_interpreter]
    refine .unread (d := d) (fun source => ⟨watch, ?_, ?_⟩) news ?_ ?_ rfl fun in_time =>
      ⟨soon in_time, by rw [run_hear free]⟩
    · rw [heard, Watch.minds_foldl_interpreter, (calm source).calm]
    · rw [Watch.check_foldl_heard, (calm source).idle]
    · rw [run_hear free]
      exact ⟨rests.passed, rests.phase⟩
    · rw [run_hear free]
      exact gathers
  have restarts : w.restarts run = (w.run (burst.map .hear)).restarts moves :=
    restarts_hear free burst moves
  have final : w.run run = (w.run (burst.map .hear)).run moves := run_append ..
  rw [restarts, final]
  refine ⟨fun settled => ?_, fun punctual d' also idle => ?_⟩
  · rcases (impends (False.elim : False → d.phase = .idle)).restarts_cases told live quiet False.elim with
      ⟨-, still⟩ | ⟨once, -⟩
    · exact absurd settled (still.not_settled (told.run moves))
    · exact once
  · obtain rfl := Option.some.inj (gathers.symm.trans also)
    rw [isPunctual_hear free] at punctual
    rcases (impends (fun _ : True => idle)).restarts_cases told live quiet
      (fun _ => punctual) with ⟨none, still⟩ | ⟨once, past⟩
    · exact ⟨fun _ => none, fun beyond => absurd (still.now_le trivial) (Nat.not_le.mpr beyond)⟩
    · exact ⟨fun early => absurd early (Nat.not_lt.mpr (past trivial)), fun _ => once⟩

/-- Bursts of announcements that come before the provider listens are answered once, whatever their
length is and whatever an inbox has lost of them. One that has an announcement about a source in it
is answered by one look at the source, and one of announcements about the interpreters by one
restart: after a time of rest, and right at its end if everything is done when it is due. -/
theorem bursts_answered_once (variant : Variant) (host : Host) (plan : BackendName → Plan)
    (clock : Clock) (before moves : List Move) (k : Watch) :
    let w := (opening variant host plan clock).run before
    w.turn = none → w.manager.provider.watch = some k →
    (∀ source, ∀ burst : List WorkspaceEvent, (∃ e ∈ burst, e.isAbout source) →
      (k.check source).phase = .idle → (∀ next ∈ moves, next.announces source = false) →
      let run := burst.map .hear ++ moves
      let due := w.site.clock.now + (k.check source).window
      (w.run run).manager.disposed = false →
      ((w.run run).isSettled → ∃ t, w.looks source run = [t] ∧ due ≤ t) ∧
      (w.isPunctual run →
        ((w.run run).site.clock.now < due → w.looks source run = []) ∧
        (due < (w.run run).site.clock.now → w.looks source run = [due]))) ∧
    (∀ n, w.Unhurried k → w.manager.Rests → (∀ next ∈ moves, next.isQuiet) →
      let run := (List.replicate (n + 1) .interpreter).map .hear ++ moves
      (w.run run).manager.disposed = false →
      ((w.run run).isSettled → w.restarts run = 1) ∧
      (w.isPunctual run → ∀ d, w.manager.restarter = some d → d.phase = .idle →
        ((w.run run).site.clock.now < w.site.clock.now + d.window → w.restarts run = 0) ∧
        (w.site.clock.now + d.window < (w.run run).site.clock.now → w.restarts run = 1))) := by
  intro w free watch
  have attended : w.Attended := (attended_opening variant host plan clock).run before
  refine ⟨fun source burst about idle unheard => ?_, fun n calm rests quiet => ?_⟩
  · intro run due live
    exact attended.looks_of_burst free watch idle about unheard live
  · intro run live
    exact attended.restarts_of_hear free calm rests rfl quiet live

/-- One announcement about the settings matters, and the inbox loses it. -/
def lostAnnouncement : List WorkspaceEvent :=
  .settings ⟨["python.analysis"]⟩ :: List.replicate 70 (.settings ⟨["editor.fontSize"]⟩)

/-- The provider listens, and looks at the settings when they have rested. -/
def oneLook : List Move :=
  [.take (.options .listen), .go, .yield, .wait 1000, .take (.options .checkSettings), .go, .yield,
    .wait 1]

/-- The provider listens, and the manager restarts when the changes have rested. -/
def oneRestart : List Move :=
  [.take (.options .listen), .go, .yield, .take .forward, .go, .yield, .wait 1000,
    .take .restart, .go, .go, .go, .go, .go, .yield, .wait 5, .take .restart, .go, .go, .yield]

theorem long_bursts_answered_once :
    let w := (opening .simple plainHost slowPlan {}).run firstServer
    w.looks .settings (lostAnnouncement.map .hear ++ oneLook) = [1005] ∧
    w.restarts ((List.replicate 70 .interpreter).map .hear ++ oneRestart) = 1 := by
  intro w
  have watch : w.manager.provider.watch =
      some { settingsCheck := ⟨1000, .idle⟩, environmentCheck := ⟨1000, .idle⟩ } := rfl
  obtain ⟨look, -⟩ := bursts_answered_once .simple plainHost slowPlan {} firstServer oneLook _
    (by decide) watch
  obtain ⟨-, restart⟩ := bursts_answered_once .simple plainHost slowPlan {} firstServer oneRestart _
    (by decide) watch
  have about : ∃ e ∈ lostAnnouncement, e.isAbout .settings :=
    ⟨_, List.mem_cons_self, by decide⟩
  have calm : w.Unhurried _ := fun source =>
    ⟨watch, by cases source <;> rfl, by cases source <;> rfl⟩
  constructor
  · exact ((look .settings lostAnnouncement about rfl (by decide) (by decide +kernel)).2
      (by decide +kernel)).2 (by decide +kernel)
  · exact ((restart 69 calm (rests_iff.mpr (by decide)) (by decide) (by decide +kernel)).2
      (by decide +kernel) ⟨1000, .idle⟩ (by decide) rfl).2 (by decide +kernel)

end Moment

end Manager

end LanguageBroker
