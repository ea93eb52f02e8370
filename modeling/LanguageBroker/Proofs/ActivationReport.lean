import LanguageBroker.Proofs.ActivationTries
import LanguageBroker.Proofs.ServerOwners
import LanguageBroker.Proofs.SharedActivation

/-!
Activations in a run. Whatever happens to the broker besides, an activation tries the full server
first, where that is chosen, and then the simple one, ends as its last try has ended, disposes of
the managers it has made and not returned, and sends its events in order. The user is told of a
missing program once, as soon as any activation has met one.
-/

namespace LanguageBroker

namespace Activation.Step

variable {old stage : Activation.Stage} {k : Log} {r : Record}

/-- The activation has to do with the manager that it has just made. -/
theorem manager?_of_made (step : Step old k stage) (made : r ∈ k.made) :
    stage.manager? = some r.manager := by
  cases step <;> simp at made <;> subst made <;> rfl

/-- What the activation has found it keeps. -/
theorem manager?_of_record? (step : Step old k stage) (record : old.record? = some r) :
    stage.manager? = old.manager? := by
  cases step <;> first | rfl | simp [Activation.Stage.record?] at record

theorem length_missing (step : Step old k stage) : k.missing.length ≤ 1 := by
  have answers : k.answers.length ≤ 1 := by cases step <;> simp
  exact (List.length_filterMap_le _ _).trans answers

end Activation.Step

theorem Log.mem_missing {l : Log} : l.missing ≠ [] ↔
    ∃ variant name, .program variant (.error (.notInstalled name)) ∈ l.answers := by
  simp only [ne_eq, missing, List.filterMap_eq_nil_iff, not_forall]
  constructor
  · rintro ⟨answer, mem, met⟩
    unfold Answer.missing? at met
    split at met
    · exact ⟨_, _, mem⟩
    · simp at met
  · rintro ⟨variant, name, mem⟩
    exact ⟨_, mem, by simp [Answer.missing?]⟩

namespace Broker

/-- The manager is disposed of for good and its server is gone. -/
def IsQuiet (b : Broker) (m : ManagerId) : Prop := ∃ n, b.managers[m]? = some n ∧ n.Quiet

variable {b c : Broker} {a : ActivationId} {m : ManagerId} {l : Log}

/-- A manager stays there, and what no turn of a manager changes holds of it in every run. -/
theorem Sound.manager_run (h : b.Sound) {P : Manager → Prop}
    (keeps : ∀ {s : Site} {x n : Manager}, x.Lined → x.Turn True s n → P x → P n) {x : Manager}
    (found : b.managers[m]? = some x) (holds : P x) (moves : List Move) :
    ∃ n, (b.run moves).managers[m]? = some n ∧ P n := by
  have all : (b.run moves).Sound ∧ ∃ n, (b.run moves).managers[m]? = some n ∧ P n := by
    refine run_induction (P := fun c => c.Sound ∧ ∃ n, c.managers[m]? = some n ∧ P n)
      (fun b next before => ?_) ⟨h, x, found, holds⟩ moves
    refine (before.1.kept.moves next).keeps
      (P := fun c => c.Sound ∧ ∃ n, c.managers[m]? = some n ∧ P n) before ?_ ?_
    · rintro c d ⟨sound, n, here, holds⟩ alike
      have staffing : Staffing True c d := alike.staffing
      obtain ⟨k, later, turn⟩ := staffing.later here
      exact ⟨sound.alike alike, k, later, keeps (sound.kept.lined here) turn holds⟩
    · rintro sight c d ⟨sound, n, here, holds⟩ change
      obtain ⟨k, later, turn⟩ := (sound.staffed.staffing sound.kept change).later here
      exact ⟨sound.change change, k, later,
        keeps (sound.kept.lined here) (turn.mono fun _ => trivial) holds⟩
  exact all.2

/-- A manager stays there, and a quiet one stays quiet. -/
theorem Sound.manager_move (h : b.Sound) {x : Manager} (found : b.managers[m]? = some x)
    (next : Move) : ∃ n, (b.move next).managers[m]? = some n ∧ (x.Quiet → n.Quiet) :=
  h.manager_run (P := fun n => x.Quiet → n.Quiet)
    (fun lined turn quiet now => turn.quiet lined (quiet now)) found id [next]

theorem IsQuiet.run (quiet : b.IsQuiet m) (h : b.Sound) (moves : List Move) :
    (b.run moves).IsQuiet m := by
  obtain ⟨x, found, quiet⟩ := quiet
  exact h.manager_run (fun lined turn => turn.quiet lined) found quiet moves

theorem IsQuiet.move (quiet : b.IsQuiet m) (h : b.Sound) (next : Move) :
    (b.move next).IsQuiet m := quiet.run h [next]

/-- The log is that of the activation, as far as this one has come. -/
structure Reports (b : Broker) (a : ActivationId) (l : Log) : Prop where
  absent : b.stage? a = none → l = {}
  fresh : b.stage? a = some .fresh → l = {}
  fits : ∀ {stage}, b.stage? a = some stage → stage ≠ .fresh →
    ∃ prefers variant supported, Fits prefers variant supported l stage
  known : ∀ r ∈ l.made, b.IsQuiet r.manager ∨
    ∃ stage, b.stage? a = some stage ∧ stage.manager? = some r.manager

theorem stage?_of_files {old stage : Activation.Stage} (found : b.stage? a = some old)
    (files : c.files = b.files.modify a fun y => (y.1, stage)) (i : ActivationId) :
    c.stage? i = if i = a then some stage else b.stage? i := by
  rw [← stage?_putActivation found]
  exact stage?_congr (files.trans (files_putActivation b a stage).symm) i

/-- A manager that an activation has let go of is quiet. -/
private theorem quiet_of_turn (h : b.Sound) {old stage : Activation.Stage} {k : Log}
    (found : b.stage? a = some old) (step : Activation.Step old k stage)
    (files : (b.move (.agent (.activation a))).files = b.files.modify a fun y => (y.1, stage))
    (named : old.manager? = some m) :
    (b.move (.agent (.activation a))).IsQuiet m ∨ stage.manager? = some m := by
  have there := List.getElem?_eq_getElem (h.kept.within found named)
  obtain ⟨n, later, _⟩ := h.manager_move there (.agent (.activation a))
  rcases (h.move _).kept.quiet later with quiet | ⟨i, other, at_other, names⟩
  · exact .inl ⟨n, later, quiet⟩
  right
  rw [stage?_of_files found files] at at_other
  split at at_other
  · exact Option.some.inj at_other ▸ names
  · next differs =>
    -- somebody else has to do with the manager, so it was shared
    rcases h.kept.alone found at_other named names with same | ⟨record, _⟩
    · exact absurd same.symm differs
    · exact (step.manager?_of_record? record).trans named

/-- In a turn of another activation, and in all other moves, an activation stays where it is. -/
private theorem stage?_other (h : b.Kept) {next : Move} (other : next.isTurnOf a = false)
    {stage : Activation.Stage} :
    (b.stage? a = some stage → (b.move next).stage? a = some stage) ∧
      (b.stage? a = none → (b.move next).stage? a = some stage → stage = .fresh) := by
  by_cases turn : ∃ i, next = .agent (.activation i)
  · obtain ⟨i, rfl⟩ := turn
    have differs : i ≠ a := by simpa [Move.isTurnOf] using other
    rcases turn_move h i with ⟨same, _⟩ | ⟨old, new, found, _, files, _⟩
    · rw [same]
      exact ⟨id, fun absent found => by simp [absent] at found⟩
    · rw [stage?_of_files found files, if_neg differs.symm]
      exact ⟨id, fun absent found => by simp [absent] at found⟩
  · have apart := apart_move b (not_exists.mp turn)
    exact ⟨apart.stage?, apart.fresh⟩

/-- One move adds the activation's turn to its log, if it is one. -/
theorem Reports.move (reports : b.Reports a l) (h : b.Sound) (next : Move) :
    (b.move next).Reports a (l ++ if next.isTurnOf a then b.turnLog a else {}) := by
  cases own : next.isTurnOf a with
  | false =>
    simp only [Bool.false_eq_true, if_false, Log.append_empty]
    cases at_stage : b.stage? a with
    | none =>
      obtain rfl := reports.absent at_stage
      refine ⟨fun _ => rfl, fun _ => rfl, fun found moved => ?_, by simp⟩
      exact absurd ((stage?_other h.kept own).2 at_stage found) moved
    | some stage =>
      have later := (stage?_other h.kept own).1 at_stage
      refine ⟨fun absent => by simp [later] at absent, fun fresh => ?_, fun found moved => ?_,
        fun r made => ?_⟩
      · exact reports.fresh (at_stage.trans (later.symm.trans fresh))
      · obtain rfl := Option.some.inj (later.symm.trans found)
        exact reports.fits at_stage moved
      · rcases reports.known r made with quiet | ⟨old, found, named⟩
        · exact .inl (quiet.move h next)
        · obtain rfl := Option.some.inj (at_stage.symm.trans found)
          exact .inr ⟨stage, later, named⟩
  | true =>
    obtain rfl := Move.eq_of_isTurnOf own
    simp only [if_true]
    rcases turn_move h.kept a with ⟨same, log⟩ | ⟨old, stage, found, step, files, _⟩
    · rw [same, log, Log.append_empty]
      exact reports
    have later : (b.move (.agent (.activation a))).stage? a = some stage := by
      rw [stage?_of_files found files, if_pos rfl]
    have fits : ∃ prefers variant supported,
        Fits prefers variant supported (l ++ b.turnLog a) stage := by
      by_cases fresh : old = .fresh
      · subst fresh
        obtain rfl := reports.fresh found
        exact step.head
      · obtain ⟨prefers, variant, supported, fits⟩ := reports.fits found fresh
        exact ⟨prefers, variant, supported, fits.step step⟩
    refine ⟨fun absent => by simp [later] at absent, fun fresh => ?_, fun at_stage _ => ?_,
      fun r made => ?_⟩
    · obtain rfl := Option.some.inj (later.symm.trans fresh)
      obtain ⟨_, _, _, fits⟩ := fits
      exact fits.stands.elim
    · obtain rfl := Option.some.inj (later.symm.trans at_stage)
      exact fits
    · rcases List.mem_append.mp made with before | new
      · rcases reports.known r before with quiet | ⟨other, at_other, named⟩
        · exact .inl (quiet.move h _)
        · obtain rfl := Option.some.inj (found.symm.trans at_other)
          exact (quiet_of_turn h found step files named).imp_right
            fun names => ⟨stage, later, names⟩
      · exact .inr ⟨stage, later, step.manager?_of_made new⟩

/-! The user is told once. -/

/-- The user was told of a missing program if an activation has met one. -/
structure Warns (b : Broker) (logs : ActivationId → Log) : Prop where
  once : b.site.prompts.length ≤ 1
  shown : b.prompted = !b.site.prompts.isEmpty
  met : b.prompted ↔ ∃ a, (logs a).missing ≠ []

/-- Nobody has met a missing program in the move. -/
private theorem Warns.quiet {logs later : ActivationId → Log} (warns : b.Warns logs)
    (prompts : c.site.prompts = b.site.prompts) (prompted : c.prompted = b.prompted)
    (missing : ∀ a, (later a).missing = (logs a).missing) : c.Warns later where
  once := prompts ▸ warns.once
  shown := by rw [prompts, prompted, warns.shown]
  met := by
    simp only [prompted, missing]
    exact warns.met

theorem Warns.move {logs : ActivationId → Log} (warns : b.Warns logs) (h : b.Kept) (next : Move) :
    (b.move next).Warns fun a => logs a ++ if next.isTurnOf a then b.turnLog a else {} := by
  by_cases turn : ∃ i, next = .agent (.activation i)
  · obtain ⟨i, rfl⟩ := turn
    have turns (a : ActivationId) : (Move.agent (.activation i)).isTurnOf a = decide (a = i) := by
      simp [Move.isTurnOf, BEq.beq, eq_comm]
    simp only [turns, decide_eq_true_eq]
    rcases turn_move h i with ⟨same, log⟩ | ⟨old, stage, _, step, _, prompts, prompted⟩
    · refine warns.quiet (by rw [same]) (by rw [same]) fun a => ?_
      split
      · next here => rw [here, log, Log.append_empty]
      · rw [Log.append_empty]
    · change _ = _ ++ if b.prompted then [] else (b.turnLog i).missing at prompts
      change _ = (b.prompted || !(b.turnLog i).missing.isEmpty) at prompted
      cases before : b.prompted with
      | true =>
        rw [before, if_pos rfl, List.append_nil] at prompts
        obtain ⟨a, met⟩ := warns.met.mp before
        refine ⟨prompts ▸ warns.once, ?_, ⟨fun _ => ⟨a, ?_⟩, fun _ => by simp [prompted, before]⟩⟩
        · rw [prompts, ← warns.shown, prompted, before, Bool.true_or]
        · simp [met]
      | false =>
        have none : b.site.prompts = [] := by simpa [before] using warns.shown
        have silent (a : ActivationId) : (logs a).missing = [] := by
          by_contra met
          simp [warns.met.mpr ⟨a, met⟩] at before
        rw [before, none] at prompts
        have shown : (b.move (.agent (.activation i))).site.prompts =
            (b.turnLog i).missing := prompts
        have told : (b.move (.agent (.activation i))).prompted =
            !(b.turnLog i).missing.isEmpty := by rw [prompted, before, Bool.false_or]
        refine ⟨shown ▸ step.length_missing, by rw [shown, told], ?_⟩
        rw [told, Bool.not_eq_true', List.isEmpty_eq_false_iff]
        refine ⟨fun met => ⟨i, by simpa using fun _ => met⟩, fun ⟨a, met⟩ => ?_⟩
        by_cases here : a = i
        · subst here
          simpa [silent] using met
        · simp [here, silent, Log.append_empty] at met
  · have apart := apart_move b (not_exists.mp turn)
    refine warns.quiet apart.prompts apart.prompted fun a => ?_
    have other : next.isTurnOf a = false := by
      unfold Move.isTurnOf
      split
      · exact absurd ⟨_, rfl⟩ turn
      · rfl
    simp [other, Log.append_empty]

/-! Whole runs. -/

theorem log_concat (b : Broker) (a : ActivationId) (moves : List Move) (next : Move) :
    b.log a (moves ++ [next]) =
      b.log a moves ++ if next.isTurnOf a then (b.run moves).turnLog a else {} := by
  rw [log_append]
  exact congrArg _ (Log.append_empty _)

theorem reports_run (host : Host) (plan : BackendName → Plan) (clock : Clock)
    (moves : List Move) :
    (∀ a, ((opening host plan clock).run moves).Reports a
      ((opening host plan clock).log a moves)) ∧
    ((opening host plan clock).run moves).Warns fun a => (opening host plan clock).log a moves := by
  -- from the end, since the log is that of the run so far
  induction moves using List.reverseRecOn with
  | nil =>
    refine ⟨fun a => ⟨fun _ => rfl, fun _ => rfl, fun found => ?_, by simp [log]⟩, ?_⟩
    · simp [opening, stage?, files] at found
    · exact ⟨by simp [opening], by simp [opening], by simp [opening, log, Log.missing]⟩
  | append_singleton moves next ih =>
    have sound := (sound_opening host plan clock).run moves
    simp only [run_append, run_cons, run_nil, log_concat]
    exact ⟨fun a => (ih.1 a).move sound next, ih.2.move sound.kept next⟩

/-- An activation starts one full server at most and one simple server after it. When it is over
it has tried the configured full server if and only if the simple one was not preferred and the
full one is supported, has tried the simple one if and only if no full one is there, and ends as
its last try has ended. Whatever it has started and does not return is disposed of. It has sent, in
this order, that the full server is not supported, that its program is not installed, that it turned
to the simple server and that it has succeeded, each if and only if this is so. The user is told of
a missing program once at most, and is told if and only if an activation has met one. -/
theorem activations_try_in_order (host : Host) (plan : BackendName → Plan) (clock : Clock)
    (moves : List Move) :
    let b := (opening host plan clock).run moves
    (∀ a,
      let l := (opening host plan clock).log a moves
      (∃ variant, variant.isFull ∧ l.variants.Sublist [variant, .simple]) ∧
      ∀ result, b.result? a = some result → ∃ prefers variant supported closing,
        l.answers.head? = some (.choice prefers variant supported) ∧ variant.isFull ∧
        Verdict prefers variant supported l.tries result ∧
        l.variants.Sublist [variant, .simple] ∧
        (∀ record failure, .start record failure ∈ l.answers → record ∈ l.made) ∧
        (∀ record ∈ l.made,
          (∃ r, result = .ok r ∧ r.manager = record.manager) ∨ b.IsQuiet record.manager) ∧
        l.events = (if prefers || supported then [] else [unsupportedEvent variant]) ++
          l.missing.map missingEvent ++ l.tries.filterMap Attempt.fallback? ++ closing ∧
        Closing closing result) ∧
    b.site.prompts.length ≤ 1 ∧
    (b.site.prompts ≠ [] ↔ ∃ a variant name, .program variant (.error (.notInstalled name)) ∈
      ((opening host plan clock).log a moves).answers) := by
  intro b
  obtain ⟨reports, warns⟩ := reports_run host plan clock moves
  refine ⟨fun a => ⟨?_, fun result ended => ?_⟩, warns.once, ?_⟩
  · have report := reports a
    cases at_stage : b.stage? a with
    | none => exact ⟨.fullA, rfl, by rw [report.absent at_stage]; exact List.nil_sublist _⟩
    | some stage =>
      by_cases fresh : stage = .fresh
      · subst fresh
        exact ⟨.fullA, rfl, by rw [report.fresh at_stage]; exact List.nil_sublist _⟩
      · obtain ⟨_, variant, _, fits⟩ := report.fits at_stage fresh
        exact ⟨variant, fits.full, fits.variants⟩
  · have at_stage := result?_eq_some.mp ended
    obtain ⟨prefers, variant, supported, fits⟩ := (reports a).fits at_stage (by simp)
    obtain ⟨closing, closes, events⟩ := fits.events
    refine ⟨prefers, variant, supported, closing, fits.chosen, fits.full, fits.stands.1,
      fits.variants, fun _ _ => fits.started, fun record made => ?_, ?_, closes⟩
    · rcases (reports a).known record made with quiet | ⟨stage, found, named⟩
      · exact .inr quiet
      · obtain rfl := Option.some.inj (at_stage.symm.trans found)
        cases result with
        | error cause => simp [Activation.Stage.manager?] at named
        | ok r => exact .inl ⟨r, rfl, Option.some.inj named⟩
    · simpa [Activation.Stage.pending, told] using events
  · have shown : b.site.prompts ≠ [] ↔ b.prompted := by simp [b, warns.shown]
    rw [shown, warns.met]
    simp only [Log.mem_missing]

/-- Surroundings in which the full server is not installed and no simple one can be made. -/
def emptyHost : Host :=
  { bareHost with
    prefersSimple := false
    install := fun variant _ => .error (.notInstalled variant.name) }

/-- Two lookups of different keys, and their activations until they are over. -/
def lookups : List Move :=
  [.entrust (.find none (some python)), .entrust (.find none (some ⟨"/usr/bin/python3", none⟩)),
    .errand 0, .errand 1] ++ List.replicate 5 (.agent (.activation 0)) ++
    List.replicate 5 (.agent (.activation 1))

/-- Both try the full server and then the simple one, and the user is told once. -/
theorem missing_program_told_once :
    let b := (opening emptyHost (fun _ => {}) {}).run lookups
    let l := (opening emptyHost (fun _ => {}) {}).log 1 lookups
    b.result? 1 = some (.error (.noBackend .simple)) ∧
    (∃ prefers variant supported, l.answers.head? = some (.choice prefers variant supported) ∧
      Verdict prefers variant supported l.tries (.error (.noBackend .simple))) ∧
    l.tries = [(.fullB, .error (.install (.notInstalled "full-b"))),
      (.simple, .error (.noBackend .simple))] ∧
    l.events = [missingEvent .fullB, fallbackEvent .fullB (.install (.notInstalled "full-b"))] ∧
    b.site.prompts ≠ [] ∧ b.site.prompts.length ≤ 1 := by
  intro b l
  have ended : b.result? 1 = some (.error (.noBackend .simple)) := rfl
  obtain ⟨each, once, shown⟩ := activations_try_in_order emptyHost (fun _ => {}) {} lookups
  obtain ⟨prefers, variant, supported, _, chosen, _, verdict, _⟩ := (each 1).2 _ ended
  have answers : l.answers = [.choice false .fullB true,
      .program .fullB (.error (.notInstalled "full-b")), .servers .simple false] := rfl
  have met : .program .fullB (.error (.notInstalled "full-b")) ∈ l.answers := by simp [answers]
  exact ⟨ended, ⟨prefers, variant, supported, chosen, verdict⟩, rfl, rfl,
    shown.mpr ⟨1, .fullB, "full-b", met⟩, once⟩

end Broker

end LanguageBroker
