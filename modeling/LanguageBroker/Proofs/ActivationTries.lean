import LanguageBroker.Proofs.ActivationLog

/-!
What an activation's log tells at every stage: which servers it has tried, in which order and how
each try ended, the events that go with them, and the managers it made. When the activation is over
its result is that of its last try.
-/

namespace LanguageBroker

/-- A try to get a server of a variant, and how it has ended. -/
abbrev Attempt := Variant × Except ActivationError Record

/-- The event by which a try is reported: that of a full server failed. -/
def Attempt.fallback? : Attempt → Option TelemetryEvent
  | (variant, .error cause) => if variant.isFull then some (fallbackEvent variant cause) else none
  | _ => none

namespace Log

/-- The tries that are over. -/
def tries (l : Log) : List Attempt := l.answers.filterMap Answer.attempt?

/-- The servers whose programs are not installed. -/
def missing (l : Log) : List Variant := l.answers.filterMap Answer.missing?

/-- The variants of the managers made. -/
def variants (l : Log) : List Variant := l.made.map (·.variant)

@[simp] theorem tries_append (l k : Log) : (l ++ k).tries = l.tries ++ k.tries := by
  simp [tries]

@[simp] theorem missing_append (l k : Log) : (l ++ k).missing = l.missing ++ k.missing := by
  simp [missing]

@[simp] theorem variants_append (l k : Log) : (l ++ k).variants = l.variants ++ k.variants := by
  simp [variants]

theorem tries_of_none {l k : Log} (none : k.tries = []) : (l ++ k).tries = l.tries := by
  simp [none]

theorem variants_of_none {l k : Log} (none : k.made = []) : (l ++ k).variants = l.variants := by
  simp [variants, none]

end Log

/-- The tries of an activation that comes for the simple server: none, or that of the full server,
which has failed. -/
inductive Beforehand (prefers : Bool) (variant : Variant) (supported : Bool) :
    List Attempt → Prop
  | plain (plain : prefers ∨ supported = false) : Beforehand prefers variant supported []
  | failed (cause : ActivationError) (preferred : prefers = false) (able : supported) :
      Beforehand prefers variant supported [(variant, .error cause)]

/-- The tries of an activation and its end: the full server was tried and is there, or the simple
one was tried last. -/
inductive Verdict (prefers : Bool) (variant : Variant) (supported : Bool) :
    List Attempt → Except ActivationError Record → Prop
  | full {record : Record} (about : record.variant = variant) (preferred : prefers = false)
      (able : supported) :
      Verdict prefers variant supported [(variant, .ok record)] (.ok record)
  | simple {tries : List Attempt} {result : Except ActivationError Record}
      (before : Beforehand prefers variant supported tries)
      (about : ∀ record, result = .ok record → record.variant = .simple) :
      Verdict prefers variant supported (tries ++ [(.simple, result)]) result

/-- The events of an activation, apart from the one that tells its success. -/
def told (prefers : Bool) (variant : Variant) (supported : Bool) (l : Log) :
    List TelemetryEvent :=
  (if prefers || supported then [] else [unsupportedEvent variant])
    ++ l.missing.map missingEvent ++ l.tries.filterMap Attempt.fallback?

/-- The event that tells how an activation has ended. -/
def Closing (events : List TelemetryEvent) : Except ActivationError Record → Prop
  | .ok record => ∃ duration, events = [startupEvent record.variant duration]
  | .error _ => events = []

/-- The full server is tried and nothing has come of it so far. -/
structure Hopeful (prefers : Bool) (supported : Bool) (l : Log) : Prop where
  preferred : prefers = false
  able : supported
  tries : l.tries = []
  missing : l.missing = []

namespace Activation.Stage

/-- What the log of an activation tells at a stage. -/
def Stands (prefers : Bool) (variant : Variant) (supported : Bool) (l : Log) : Stage → Prop
  | .fresh => False
  | .installing w | .launchingFull w => Hopeful prefers supported l ∧ w = variant ∧ l.made = []
  | .startingFull w m _ =>
    Hopeful prefers supported l ∧ w = variant ∧ l.made = [⟨variant, m⟩]
  | .cleaningFull w m _ cause => prefers = false ∧ supported ∧ w = variant ∧
    l.tries = [(variant, .error cause)] ∧ l.missing = [] ∧ l.made = [⟨variant, m⟩]
  | .queuedSimple =>
    Beforehand prefers variant supported l.tries ∧ l.variants.Sublist [variant]
  | .startingSimple m _ => Beforehand prefers variant supported l.tries ∧
    l.variants.Sublist [variant, .simple] ∧ ⟨.simple, m⟩ ∈ l.made
  | .cleaningSimple _ _ cause => (∃ tries, Beforehand prefers variant supported tries ∧
    l.tries = tries ++ [(.simple, .error cause)]) ∧ l.variants.Sublist [variant, .simple]
  | .concluding result | .settled result =>
    Verdict prefers variant supported l.tries result ∧ l.variants.Sublist [variant, .simple]

/-- The events that are due at a stage. -/
def pending : Stage → List TelemetryEvent
  | .cleaningFull variant _ _ cause => [fallbackEvent variant cause]
  | _ => []

/-- The events that a stage adds to those of the tries. -/
def Closes (events : List TelemetryEvent) : Stage → Prop
  | .settled result => Closing events result
  | _ => events = []

end Activation.Stage

open Activation.Stage

/-- The log fits the stage that the activation has come to. -/
structure Fits (prefers : Bool) (variant : Variant) (supported : Bool) (l : Log)
    (stage : Activation.Stage) : Prop where
  chosen : l.answers.head? = some (.choice prefers variant supported)
  full : variant.isFull
  stands : stage.Stands prefers variant supported l
  events : ∃ closing, stage.Closes closing ∧
    l.events ++ stage.pending = told prefers variant supported l ++ closing
  started : ∀ {record failure}, .start record failure ∈ l.answers → record ∈ l.made

variable {l k : Log} {prefers supported : Bool} {variant : Variant}
  {old stage : Activation.Stage}

theorem Activation.Step.head (step : Step .fresh k stage) :
    ∃ prefers variant supported, Fits prefers variant supported k stage := by
  cases step with
  | wait begun => exact absurd rfl begun
  | @chooseSimple prefers supported variant full plain =>
    refine ⟨prefers, variant, supported, rfl, full, ⟨.plain plain, List.nil_sublist _⟩,
      ⟨[], rfl, ?_⟩, by simp⟩
    rcases plain with rfl | rfl
    · simp [told, Log.missing, Log.tries, Answer.missing?, Answer.attempt?, pending]
    · cases prefers <;>
        simp [told, Log.missing, Log.tries, Answer.missing?, Answer.attempt?, pending]
  | @chooseFull variant stage full after =>
    have hopeful : Hopeful false true ⟨[.choice false variant true], [], []⟩ :=
      ⟨rfl, rfl, rfl, rfl⟩
    refine ⟨false, variant, true, rfl, full, ?_, ⟨[], ?_, ?_⟩, by simp⟩ <;>
      rcases after with rfl | rfl
    · exact ⟨hopeful, rfl, rfl⟩
    · exact ⟨hopeful, rfl, rfl⟩
    · rfl
    · rfl
    · rfl
    · rfl

/-- A turn that is not the first. -/
private theorem Fits.next (h : Fits prefers variant supported l old)
    (stands : stage.Stands prefers variant supported (l ++ k))
    (events : ∃ closing, stage.Closes closing ∧
      l.events ++ k.events ++ stage.pending = told prefers variant supported (l ++ k) ++ closing)
    (started : ∀ {record failure}, .start record failure ∈ k.answers →
      record ∈ l.made ∨ record ∈ k.made) :
    Fits prefers variant supported (l ++ k) stage where
  chosen := by
    rw [Log.answers_append, List.head?_append, h.chosen]
    rfl
  full := h.full
  stands := stands
  events := events
  started mem := by
    rw [Log.made_append, List.mem_append]
    rcases List.mem_append.mp mem with before | now
    · exact .inl (h.started before)
    · exact started now

/-- A turn that sends no event, and in which no full server has failed. -/
private theorem Fits.quiet (h : Fits prefers variant supported l old)
    (stands : stage.Stands prefers variant supported (l ++ k))
    (closes : ∀ closing, old.Closes closing → stage.Closes closing)
    (pending : stage.pending = old.pending) (silent : k.events = []) (missing : k.missing = [])
    (fallbacks : k.tries.filterMap Attempt.fallback? = [])
    (started : ∀ {record failure}, .start record failure ∈ k.answers →
      record ∈ l.made ∨ record ∈ k.made) :
    Fits prefers variant supported (l ++ k) stage := by
  obtain ⟨closing, closed, events⟩ := h.events
  refine h.next stands ⟨closing, closes closing closed, ?_⟩ started
  rw [silent, List.append_nil, pending, events]
  simp [told, missing, fallbacks]

private theorem Hopeful.append (hopeful : Hopeful prefers supported l) (tries : k.tries = [])
    (missing : k.missing = []) : Hopeful prefers supported (l ++ k) :=
  ⟨hopeful.preferred, hopeful.able, by simp [hopeful.tries, tries],
    by simp [hopeful.missing, missing]⟩

private theorem Hopeful.told (hopeful : Hopeful prefers supported l) :
    told prefers variant supported l = [] := by
  simp [LanguageBroker.told, hopeful.able, hopeful.missing, hopeful.tries]

/-- The full server has failed: what is told of it is told before the activation turns to the
simple one. -/
private theorem Fits.turns (h : Fits prefers variant supported l old)
    (hopeful : Hopeful prefers supported l) (closes : ∀ closing, old.Closes closing → closing = [])
    (idle : old.pending = []) (made : l.made = []) {cause : ActivationError} (new : k.made = [])
    (tries : k.tries = [(variant, .error cause)])
    (events : k.events = k.missing.map missingEvent ++ [fallbackEvent variant cause])
    (started : ∀ {record failure}, .start record failure ∉ k.answers) :
    Fits prefers variant supported (l ++ k) .queuedSimple := by
  obtain ⟨closing, closed, before⟩ := h.events
  obtain rfl := closes closing closed
  refine h.next ⟨?_, ?_⟩ ⟨[], rfl, ?_⟩ fun mem => absurd mem started
  · rw [Log.tries_append, hopeful.tries, tries]
    exact .failed cause hopeful.preferred hopeful.able
  · simp [Log.variants, made, new]
  · have silent : l.events = [] := by simpa [idle, hopeful.told] using before
    simp [told, silent, events, hopeful.able, hopeful.missing, hopeful.tries, tries,
      Attempt.fallback?, h.full, pending]

/-- What every turn of an activation keeps. -/
theorem Fits.step (h : Fits prefers variant supported l old)
    (step : Activation.Step old k stage) : Fits prefers variant supported (l ++ k) stage := by
  have stands := h.stands
  cases step with
  | wait begun => rwa [Log.append_empty]
  | chooseSimple => exact stands.elim
  | chooseFull => exact stands.elim
  | install =>
    obtain ⟨hopeful, rfl, made⟩ := stands
    exact h.quiet ⟨hopeful.append rfl rfl, rfl, by simp [made]⟩ (fun _ => id) rfl rfl rfl rfl
      (by simp)
  | notInstalled =>
    obtain ⟨hopeful, rfl, made⟩ := stands
    exact h.turns hopeful (fun _ => id) rfl made rfl rfl rfl (by simp)
  | launchFull =>
    obtain ⟨hopeful, rfl, made⟩ := stands
    exact h.quiet ⟨hopeful.append rfl rfl, rfl, by simp [made]⟩ (fun _ => id) rfl rfl rfl rfl
      (by simp)
  | noFull =>
    obtain ⟨hopeful, rfl, made⟩ := stands
    exact h.turns hopeful (fun _ => id) rfl made rfl rfl rfl (by simp)
  | win =>
    obtain ⟨hopeful, rfl, made⟩ := stands
    refine h.quiet ⟨?_, by simp [Log.variants, made]⟩ (fun _ => id) rfl rfl rfl rfl
      (by simp [made])
    rw [Log.tries_append, hopeful.tries]
    exact .full rfl hopeful.preferred hopeful.able
  | @fail v m j i cause =>
    obtain ⟨hopeful, about, made⟩ := stands
    obtain rfl : v = variant := about
    obtain ⟨closing, closed, before⟩ := h.events
    obtain rfl : closing = [] := closed
    have silent : l.events = [] := by simpa [pending, hopeful.told] using before
    have tries : (l ++ ⟨[.start ⟨v, m⟩ (some cause)], [], []⟩).tries =
        [(v, .error (.start v cause))] := by
      rw [Log.tries_append, hopeful.tries]
      rfl
    have missing : (l ++ ⟨[.start ⟨v, m⟩ (some cause)], [], []⟩).missing = [] := by
      rw [Log.missing_append, hopeful.missing]
      rfl
    refine h.next ⟨hopeful.preferred, hopeful.able, rfl, tries, missing, by simp [made]⟩
      ⟨[], rfl, ?_⟩ (by simp [made])
    simp [told, silent, hopeful.able, tries, missing, Attempt.fallback?, h.full, pending]
  | fallBack =>
    obtain ⟨preferred, able, rfl, tries, missing, made⟩ := stands
    obtain ⟨closing, closed, before⟩ := h.events
    refine h.next ⟨?_, by simp [Log.variants, made]⟩ ⟨closing, closed, ?_⟩ (by simp)
    · rw [Log.tries_append, tries]
      exact .failed _ preferred able
    · simpa [told, Log.tries, Log.missing, pending] using before
  | share simple =>
    obtain ⟨before, variants⟩ := stands
    refine h.quiet ⟨?_, ?_⟩ (fun _ => id) rfl rfl rfl rfl (by simp)
    · rw [Log.tries_append]
      exact .simple before fun _ same => Except.ok.inj same ▸ simple
    · rw [Log.variants_of_none rfl]
      exact variants.trans (by simp)
  | launchSimple =>
    obtain ⟨before, variants⟩ := stands
    refine h.quiet ⟨?_, ?_, by simp⟩ (fun _ => id) rfl rfl rfl rfl (by simp)
    · rw [Log.tries_of_none rfl]
      exact before
    · rw [Log.variants_append]
      exact variants.append (List.Sublist.refl _)
  | noSimple =>
    obtain ⟨before, variants⟩ := stands
    refine h.quiet ⟨?_, ?_⟩ (fun _ => id) rfl rfl rfl rfl (by simp)
    · rw [Log.tries_append]
      exact .simple before (by simp)
    · rw [Log.variants_of_none rfl]
      exact variants.trans (by simp)
  | winSimple =>
    obtain ⟨before, variants, made⟩ := stands
    refine h.quiet ⟨?_, ?_⟩ (fun _ => id) rfl rfl rfl rfl (by simp [made])
    · rw [Log.tries_append]
      exact .simple before fun _ same => Except.ok.inj same ▸ rfl
    · rwa [Log.variants_of_none rfl]
  | failSimple =>
    obtain ⟨before, variants, made⟩ := stands
    refine h.quiet ⟨⟨_, before, ?_⟩, ?_⟩ (fun _ => id) rfl rfl rfl rfl (by simp [made])
    · rw [Log.tries_append]
      rfl
    · rwa [Log.variants_of_none rfl]
  | giveUp =>
    obtain ⟨⟨tries, before, same⟩, variants⟩ := stands
    rw [Log.append_empty]
    refine ⟨h.chosen, h.full, ⟨?_, variants⟩, h.events, h.started⟩
    rw [same]
    exact .simple before (by simp)
  | @succeed record duration =>
    obtain ⟨verdict, variants⟩ := stands
    obtain ⟨closing, closed, before⟩ := h.events
    obtain rfl : closing = [] := closed
    refine h.next ⟨?_, ?_⟩ ⟨_, ⟨duration, rfl⟩, ?_⟩ (by simp)
    · rwa [Log.tries_of_none rfl]
    · rwa [Log.variants_of_none rfl]
    · have sent : l.events = told prefers variant supported l := by simpa [pending] using before
      simp [sent, told, Log.tries, Log.missing, pending]
  | surrender =>
    rw [Log.append_empty]
    exact ⟨h.chosen, h.full, stands, h.events, h.started⟩

/-- One full server is started at most, and after it one simple server. -/
theorem Fits.variants (h : Fits prefers variant supported l stage) :
    l.variants.Sublist [variant, .simple] := by
  have stands := h.stands
  cases stage with
  | fresh => exact stands.elim
  | installing | launchingFull => simp [Log.variants, stands.2.2]
  | startingFull => simp [Log.variants, stands.2.2]
  | cleaningFull => simp [Log.variants, stands.2.2.2.2.2]
  | queuedSimple => exact stands.2.trans (by simp)
  | startingSimple => exact stands.2.1
  | _ => exact stands.2

end LanguageBroker
