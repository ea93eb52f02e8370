import LanguageBroker.Proofs.BrokerTurns

/-!
What an activation comes to know and what it does about it. Every turn of an activation is one of a
few steps, each with what the surroundings and the managers answered, the events that were sent and
the managers that were made. What follows from these steps does not depend on what else happens to
the broker between them.
-/

namespace LanguageBroker

/-- Why a job has failed, if it has. -/
def Job.Outcome.failure? : Job.Outcome → Option ManagerError
  | .failed cause => some cause
  | _ => none

/-- What an activation comes to know in its turns. -/
inductive Answer
  /-- Do the settings or an experiment prefer the simple server, and is the configured full one
  supported? -/
  | choice (prefers : Bool) (variant : Variant) (supported : Bool)
  /-- Is the program of a full server there? -/
  | program (variant : Variant) (found : Except InstallError Unit)
  /-- Can servers of the variant be made? -/
  | servers (variant : Variant) (registered : Bool)
  /-- A first start is over. -/
  | start (record : Record) (failure : Option ManagerError)
  /-- A simple server is in use and can be shared. -/
  | shared (record : Record)

namespace Answer

/-- The end of a try to get a server of a variant. -/
def attempt? : Answer → Option (Variant × Except ActivationError Record)
  | .program variant (.error cause) => some (variant, .error (.install cause))
  | .servers variant false => some (variant, .error (.noBackend variant))
  | .start record (some cause) => some (record.variant, .error (.start record.variant cause))
  | .start record none => some (record.variant, .ok record)
  | .shared record => some (.simple, .ok record)
  | _ => none

/-- The server whose program is not installed. -/
def missing? : Answer → Option Variant
  | .program variant (.error (.notInstalled _)) => some variant
  | _ => none

end Answer

/-- What an activation came to know, the events it sent and the managers it made. -/
structure Log where
  answers : List Answer := []
  events : List TelemetryEvent := []
  made : List Record := []

namespace Log

def append (l k : Log) : Log := ⟨l.answers ++ k.answers, l.events ++ k.events, l.made ++ k.made⟩

instance : Append Log := ⟨append⟩

variable (l k : Log)

@[simp] theorem answers_append : (l ++ k).answers = l.answers ++ k.answers := rfl

@[simp] theorem events_append : (l ++ k).events = l.events ++ k.events := rfl

@[simp] theorem made_append : (l ++ k).made = l.made ++ k.made := rfl

theorem append_empty : l ++ {} = l := by
  change append l {} = l
  simp [append]

theorem empty_append : {} ++ l = l := rfl

theorem append_assoc (i : Log) : l ++ k ++ i = l ++ (k ++ i) := by
  change append (append l k) i = append l (append k i)
  simp [append]

end Log

/-! The events of an activation. -/

/-- The full server is not supported. -/
def unsupportedEvent (variant : Variant) : TelemetryEvent :=
  Broker.eventAbout TelemetryEvent.platformNotSupported variant

/-- The program of the full server is not installed. -/
def missingEvent (variant : Variant) : TelemetryEvent :=
  Broker.eventAbout TelemetryEvent.notInstalled variant

/-- The activation turns from the full server to the simple one. -/
def fallbackEvent (variant : Variant) (cause : ActivationError) : TelemetryEvent :=
  ⟨TelemetryEvent.fallback, [], [("from", variant.name), ("reason", cause.message)]⟩

/-- The activation has a server. -/
def startupEvent (variant : Variant) (duration : Nat) : TelemetryEvent :=
  (Broker.eventAbout TelemetryEvent.startup variant).withMeasure "duration" duration

/-- All that an activation does in one turn. -/
inductive Activation.Step : Activation.Stage → Log → Activation.Stage → Prop
  /-- A job that the activation waits for goes on. -/
  | wait {stage : Stage} (begun : stage ≠ .fresh) : Step stage {} stage
  | chooseSimple {prefers supported : Bool} {variant : Variant} (full : variant.isFull)
      (plain : prefers ∨ supported = false) :
      Step .fresh ⟨[.choice prefers variant supported],
        if prefers then [] else [unsupportedEvent variant], []⟩ .queuedSimple
  | chooseFull {variant : Variant} {stage : Stage} (full : variant.isFull)
      (after : stage = .installing variant ∨ stage = .launchingFull variant) :
      Step .fresh ⟨[.choice false variant true], [], []⟩ stage
  | install {variant : Variant} :
      Step (.installing variant) ⟨[.program variant (.ok ())], [], []⟩ (.launchingFull variant)
  | notInstalled {variant : Variant} {cause : InstallError} :
      Step (.installing variant) ⟨[.program variant (.error cause)],
        (Answer.missing? (.program variant (.error cause))).toList.map missingEvent ++
          [fallbackEvent variant (.install cause)], []⟩ .queuedSimple
  | launchFull {variant : Variant} {m : ManagerId} {j : JobId} :
      Step (.launchingFull variant) ⟨[.servers variant true], [], [⟨variant, m⟩]⟩
        (.startingFull variant m j)
  | noFull {variant : Variant} :
      Step (.launchingFull variant) ⟨[.servers variant false],
        [fallbackEvent variant (.noBackend variant)], []⟩ .queuedSimple
  | win {variant : Variant} {m : ManagerId} {j : JobId} :
      Step (.startingFull variant m j) ⟨[.start ⟨variant, m⟩ none], [], []⟩
        (.concluding (.ok ⟨variant, m⟩))
  | fail {variant : Variant} {m : ManagerId} {j k : JobId} {cause : ManagerError} :
      Step (.startingFull variant m j) ⟨[.start ⟨variant, m⟩ (some cause)], [], []⟩
        (.cleaningFull variant m k (.start variant cause))
  | fallBack {variant : Variant} {m : ManagerId} {j : JobId} {cause : ActivationError} :
      Step (.cleaningFull variant m j cause) ⟨[], [fallbackEvent variant cause], []⟩ .queuedSimple
  | share {record : Record} (simple : record.variant = .simple) :
      Step .queuedSimple ⟨[.shared record], [], []⟩ (.concluding (.ok record))
  | launchSimple {m : ManagerId} {j : JobId} :
      Step .queuedSimple ⟨[.servers .simple true], [], [⟨.simple, m⟩]⟩ (.startingSimple m j)
  | noSimple : Step .queuedSimple ⟨[.servers .simple false], [], []⟩
      (.concluding (.error (.noBackend .simple)))
  | winSimple {m : ManagerId} {j : JobId} :
      Step (.startingSimple m j) ⟨[.start ⟨.simple, m⟩ none], [], []⟩
        (.concluding (.ok ⟨.simple, m⟩))
  | failSimple {m : ManagerId} {j k : JobId} {cause : ManagerError} :
      Step (.startingSimple m j) ⟨[.start ⟨.simple, m⟩ (some cause)], [], []⟩
        (.cleaningSimple m k (.start .simple cause))
  | giveUp {m : ManagerId} {j : JobId} {cause : ActivationError} :
      Step (.cleaningSimple m j cause) {} (.concluding (.error cause))
  | succeed {record : Record} (duration : Nat) :
      Step (.concluding (.ok record)) ⟨[], [startupEvent record.variant duration], []⟩
        (.settled (.ok record))
  | surrender {cause : ActivationError} :
      Step (.concluding (.error cause)) {} (.settled (.error cause))

namespace Broker

/-- What an activation comes to know in its next turn. -/
def answer? (b : Broker) (a : ActivationId) : Option Answer :=
  (b.activations[a]?).bind fun x =>
    match x.stage with
    | .fresh =>
      let settings := b.site.host.settings x.scope.resource
      some (.choice (settings.useSimpleVariant || b.site.host.prefersSimple)
        settings.fullVariant.toVariant (b.site.host.isSupported settings.fullVariant))
    | .installing variant => some (.program variant (b.site.host.install variant x.scope.folder))
    | .launchingFull variant => some (.servers variant (b.site.host.isRegistered variant))
    | .startingFull variant m j => (b.outcome? m j).map fun o => .start ⟨variant, m⟩ o.failure?
    | .queuedSimple =>
      match b.simple.filter fun r => ! b.isDisposed r.manager with
      | some record => some (.shared record)
      | none => some (.servers .simple (b.site.host.isRegistered .simple))
    | .startingSimple m j => (b.outcome? m j).map fun o => .start ⟨.simple, m⟩ o.failure?
    | _ => none

/-- The managers and what they are for. -/
def roster (b : Broker) : List Record := b.managers.zipIdx.map fun x => ⟨x.1.variant, x.2⟩

/-- The events sent so far. -/
def sent (b : Broker) : List TelemetryEvent := b.site.telemetry.map (·.2)

/-- What an activation does if it is its turn now. -/
def turnLog (b : Broker) (a : ActivationId) : Log :=
  let c := b.move (.agent (.activation a))
  { answers := if b.canActivate a then (b.answer? a).toList else []
    events := c.sent.drop b.sent.length
    made := c.roster.drop b.roster.length }

/-- Is it the turn of an activation? -/
def Move.isTurnOf (a : ActivationId) : Move → Bool
  | .agent (.activation i) => i == a
  | _ => false

theorem Move.eq_of_isTurnOf {a : ActivationId} {next : Move} (own : next.isTurnOf a) :
    next = .agent (.activation a) := by
  unfold Move.isTurnOf at own
  split at own
  · rw [eq_of_beq own]
  · simp at own

/-- What an activation does in a run. -/
def log (b : Broker) (a : ActivationId) : List Move → Log
  | [] => {}
  | next :: moves =>
    (if next.isTurnOf a then b.turnLog a else {}) ++ (b.move next).log a moves

theorem log_append (b : Broker) (a : ActivationId) (before after : List Move) :
    b.log a (before ++ after) = b.log a before ++ (b.run before).log a after := by
  induction before generalizing b with
  | nil => exact (Log.empty_append _).symm
  | cons next before ih => simp only [List.cons_append, log, run_cons, ih, Log.append_assoc]

@[simp] theorem length_roster (b : Broker) : b.roster.length = b.managers.length := by
  simp [roster]

theorem roster_tidy (b : Broker) : b.tidy.roster = b.roster := by
  apply List.ext_getElem?
  intro i
  simp only [roster, tidy, List.getElem?_map, List.getElem?_zipIdx]
  cases b.managers[i]? with
  | none => rfl
  | some x =>
    simp only [Option.map_some]
    split <;> rfl

theorem mem_roster {r : Record} {b : Broker} (mem : r ∈ b.roster) :
    ∃ n, b.managers[r.manager]? = some n ∧ n.variant = r.variant := by
  obtain ⟨⟨n, m⟩, at_place, rfl⟩ := List.mem_map.mp mem
  exact ⟨n, by simpa [List.mem_zipIdx_iff_getElem?] using at_place, rfl⟩

/-! One turn. -/

/-- The user is told of the first program that is missing. -/
structure Prompts (b c : Broker) (answers : List Answer) : Prop where
  prompts : c.site.prompts =
    b.site.prompts ++ if b.prompted then [] else answers.filterMap Answer.missing?
  prompted : c.prompted = (b.prompted || !(answers.filterMap Answer.missing?).isEmpty)

/-- An activation goes from its stage to another one, and the rest is as the log tells. -/
structure Went (b : Broker) (a : ActivationId) (old : Activation.Stage) (answers : List Answer)
    (events : List TelemetryEvent) (made : List Record) (stage : Activation.Stage)
    (d : Broker) : Prop where
  step : Activation.Step old ⟨answers, events, made⟩ stage
  files : d.files = b.files.modify a fun y => (y.1, stage)
  sent : d.sent = b.sent ++ events
  made : d.roster.drop b.roster.length = made
  told : Prompts b d answers

variable {b c d : Broker} {a : ActivationId} {x : Activation} {answers : List Answer}
  {events : List TelemetryEvent} {made : List Record} {stage : Activation.Stage}

/-- A step that makes no manager and after which nothing is missing. -/
private theorem Went.of_idle {old : Activation.Stage}
    (step : Activation.Step old ⟨answers, events, []⟩ stage)
    (files : d.files = b.files.modify a fun y => (y.1, stage))
    (sent : d.sent = b.sent ++ events) (length : d.managers.length = b.managers.length)
    (prompts : d.site.prompts = b.site.prompts) (prompted : d.prompted = b.prompted)
    (there : answers.filterMap Answer.missing? = []) :
    Went b a old answers events [] stage d where
  step := step
  files := files
  sent := sent
  made := List.drop_eq_nil_of_le (by simp [length])
  told := ⟨by simp [there, prompts], by simp [there, prompted]⟩

private theorem sent_of_said (same : d.site.said = b.site.said) : d.sent = b.sent :=
  congrArg (List.map Prod.snd ∘ Prod.fst) same

private theorem sent_emits (s : Site) (events : List TelemetryEvent) :
    (events.foldl Site.emit s).telemetry.map (·.2) = s.telemetry.map (·.2) ++ events ∧
      (events.foldl Site.emit s).prompts = s.prompts := by
  induction events generalizing s with
  | nil => exact ⟨by simp, rfl⟩
  | cons e events ih =>
    obtain ⟨sent, prompts⟩ := ih (s.emit e)
    refine ⟨?_, prompts⟩
    rw [List.foldl_cons, sent]
    simp [Site.emit]

/-- An activation stays where it is. -/
private theorem files_stay (found : b.activations[a]? = some x) :
    b.files = b.files.modify a fun y => (y.1, x.stage) := by
  apply List.ext_getElem?
  intro i
  rw [List.getElem?_modify]
  by_cases here : a = i
  · subst here
    simp [files, found]
  · simp [here]

private theorem files_began (b : Broker) (a : ActivationId) (t : Time) :
    ({ b with activations := b.activations.modify a fun x => { x with began := t } } :
      Broker).files = b.files := by
  apply List.ext_getElem?
  intro i
  simp only [files, List.getElem?_map, List.getElem?_modify]
  cases b.activations[i]? with
  | none => split <;> rfl
  | some x => split <;> rfl

private theorem files_put (files : d.files = b.files) (a : ActivationId)
    (stage : Activation.Stage) :
    (d.putActivation a stage).files = b.files.modify a fun y => (y.1, stage) := by
  rw [files_putActivation, files]

private theorem went_choose (scope : Scope) :
    let settings := b.site.host.settings scope.resource
    ∃ stage events made, Went b a .fresh
      [.choice (settings.useSimpleVariant || b.site.host.prefersSimple)
        settings.fullVariant.toVariant (b.site.host.isSupported settings.fullVariant)]
      events made stage (b.choose a scope) := by
  intro settings
  have full : settings.fullVariant.toVariant.isFull := by
    cases settings.fullVariant <;> rfl
  -- whatever is chosen, the events are sent and the activation is put at its new stage
  have went {events : List TelemetryEvent} {stage : Activation.Stage}
      (step : Activation.Step .fresh ⟨[.choice (settings.useSimpleVariant ||
        b.site.host.prefersSimple) settings.fullVariant.toVariant
        (b.site.host.isSupported settings.fullVariant)], events, []⟩ stage)
      {line : List Ticket} : Went b a .fresh _ events [] stage
        (({ b with
          site := events.foldl Site.emit b.site
          activations := b.activations.modify a fun x => { x with began := b.site.clock.now }
          simpleLine := line } : Broker).putActivation a stage) :=
    .of_idle step (files_put (files_began b a _) a stage) (sent_emits b.site events).1 rfl
      (sent_emits b.site events).2 rfl rfl
  by_cases prefers : settings.useSimpleVariant || b.site.host.prefersSimple
  · have chosen : Choice.make settings b.site.host.prefersSimple b.site.host.isSupported =
        (.simple, []) := by simp [Choice.make, prefers]
    refine ⟨.queuedSimple, [], [], ?_⟩
    simp only [choose, settings, chosen]
    refine went ?_
    have step := @Activation.Step.chooseSimple _
      (b.site.host.isSupported settings.fullVariant) _ full (.inl prefers)
    simpa [prefers] using step
  · by_cases supported : b.site.host.isSupported settings.fullVariant
    · have chosen : Choice.make settings b.site.host.prefersSimple b.site.host.isSupported =
          (.full settings.fullVariant.toVariant, []) := by
        simp [Choice.make, prefers, supported]
      refine ⟨if settings.downloadDisabled then .launchingFull settings.fullVariant.toVariant
        else .installing settings.fullVariant.toVariant, [], [], ?_⟩
      simp only [choose, settings, chosen]
      refine went ?_
      have step := @Activation.Step.chooseFull _
        (if settings.downloadDisabled then .launchingFull settings.fullVariant.toVariant
          else .installing settings.fullVariant.toVariant) full (by split <;> simp)
      simpa [prefers, supported] using step
    · have chosen : Choice.make settings b.site.host.prefersSimple b.site.host.isSupported =
          (.simple, [unsupportedEvent settings.fullVariant.toVariant]) := by
        simp [Choice.make, prefers, supported]
        rfl
      refine ⟨.queuedSimple, [unsupportedEvent settings.fullVariant.toVariant], [], ?_⟩
      simp only [choose, settings, chosen]
      refine went ?_
      have step := @Activation.Step.chooseSimple false false _ full (.inr rfl)
      simpa [prefers, supported] using step

/-- What is told of a program that is not there. -/
private theorem reportMissing_said (variant : Variant) :
    (b.reportMissing variant).files = b.files ∧
      (b.reportMissing variant).sent = b.sent ++ [missingEvent variant] ∧
      (b.reportMissing variant).managers = b.managers ∧
      (b.reportMissing variant).site.prompts =
        (b.site.prompts ++ if b.prompted then [] else [variant]) ∧
      (b.reportMissing variant).prompted = true := by
  unfold reportMissing
  dsimp only
  split
  · next prompted =>
    have before : b.prompted = true := prompted
    exact ⟨rfl, List.map_append, rfl, by simp [before, emit, Site.emit], before⟩
  · next first =>
    have before : b.prompted = false := by simpa [emit] using first
    exact ⟨rfl, List.map_append, rfl, by simp [before, emit, Site.emit], rfl⟩

/-- The activation turns to the simple server after what may have been told before. -/
private theorem Went.of_fallBack {old : Activation.Stage} {cause : ActivationError}
    {variant : Variant}
    (step : Activation.Step old ⟨answers, events ++ [fallbackEvent variant cause], []⟩
      .queuedSimple)
    (files : c.files = b.files) (sent : c.sent = b.sent ++ events)
    (length : c.managers.length = b.managers.length)
    (prompts : c.site.prompts =
      b.site.prompts ++ if b.prompted then [] else answers.filterMap Answer.missing?)
    (prompted : c.prompted = (b.prompted || !(answers.filterMap Answer.missing?).isEmpty)) :
    Went b a old answers (events ++ [fallbackEvent variant cause]) [] .queuedSimple
      (c.fallBack a variant cause) where
  step := step
  files := files_put files a _
  sent := by
    rw [← List.append_assoc, ← sent]
    exact List.map_append
  made := by
    refine List.drop_eq_nil_of_le ?_
    simpa [fallBack, emit, turnToSimple, putActivation, joinLine] using Nat.le_of_eq length
  told := ⟨prompts, prompted⟩

private theorem went_install (scope : Scope) (variant : Variant) :
    ∃ stage events made, Went b a (.installing variant)
      [.program variant (b.site.host.install variant scope.folder)] events made stage
      (b.install a scope variant) := by
  obtain ⟨found, answer⟩ : ∃ found, b.site.host.install variant scope.folder = found := ⟨_, rfl⟩
  have asked : (b.site.note (.asked variant scope.key)).host.install variant scope.folder =
    found := answer
  simp only [install, asked, answer]
  cases found with
  | ok there =>
    exact ⟨_, _, _, .of_idle .install (files_put rfl a _) (List.append_nil _).symm rfl rfl rfl rfl⟩
  | error cause =>
    cases cause with
    | failed about reason =>
      exact ⟨_, _, _, .of_fallBack (c := { b with site := _ }) .notInstalled rfl
        (List.append_nil _).symm rfl (by simp [Answer.missing?, Site.note])
        (by simp [Answer.missing?])⟩
    | notInstalled name =>
      obtain ⟨files, sent, managers, prompts, prompted⟩ := reportMissing_said
        (b := { b with site := b.site.note (.asked variant scope.key) }) variant
      exact ⟨_, _, _, .of_fallBack .notInstalled files sent (congrArg List.length managers)
        prompts (by simpa [Answer.missing?] using prompted)⟩

private theorem went_launch (scope : Scope) {old : Activation.Stage} (variant : Variant)
    (starting : ManagerId → JobId → Activation.Stage)
    (step : ∀ m j, Activation.Step old ⟨[.servers variant true], [], [⟨variant, m⟩]⟩
      (starting m j)) :
    ∃ stage events made, Went b a old [.servers variant true] events made stage
      (b.launch a variant scope starting) := by
  refine ⟨_, [], [⟨variant, b.managers.length⟩], step _ _, files_put rfl a _,
    (List.append_nil _).symm, ?_, ⟨?_, ?_⟩⟩
  · simp [launch, roster, putActivation, List.zipIdx_append, Broker.starting, Manager.ask,
      Manager.new]
  · simp [launch, putActivation, Answer.missing?]
  · simp [launch, putActivation, Answer.missing?]

private theorem went_launchFull (scope : Scope) (variant : Variant) :
    ∃ stage events made, Went b a (.launchingFull variant)
      [.servers variant (b.site.host.isRegistered variant)] events made stage
      (b.launchFull a scope variant) := by
  cases registered : b.site.host.isRegistered variant with
  | false =>
    simp only [launchFull, registered]
    have step : Activation.Step (.launchingFull variant)
        ⟨[.servers variant false], [] ++ [fallbackEvent variant (.noBackend variant)], []⟩
        .queuedSimple := .noFull
    exact ⟨_, _, _, .of_fallBack step rfl (List.append_nil _).symm rfl
      (by simp [Answer.missing?]) (by simp [Answer.missing?])⟩
  | true =>
    simp only [launchFull, registered, startManager_eq]
    exact went_launch scope variant _ fun _ _ => .launchFull

/-- A job that an activation waits for is over, or goes on and leaves everything else as it is. -/
private theorem await_parts (b : Broker) (m : ManagerId) (j : JobId) :
    ∃ d o, b.await m j = (d, o) ∧ b.outcome? m j = o ∧ d.files = b.files ∧ d.sent = b.sent ∧
      d.managers.length = b.managers.length ∧ d.site.prompts = b.site.prompts ∧
        d.prompted = b.prompted := by
  obtain ⟨files, said, prompted, length⟩ := b.await_said m j
  refine ⟨(b.await m j).1, (b.await m j).2, rfl, ?_, files, sent_of_said said, length,
    congrArg Prod.snd said, prompted⟩
  unfold await
  split
  · next ended => exact ended
  · next running => exact running

/-- A first start has failed, and the disposal of its manager is asked for. -/
private theorem went_clean {old : Activation.Stage} {m : ManagerId}
    {cleaning : JobId → Activation.Stage}
    (step : ∀ k, Activation.Step old ⟨answers, [], []⟩ (cleaning k)) (files : d.files = b.files)
    (sent : d.sent = b.sent) (length : d.managers.length = b.managers.length)
    (prompts : d.site.prompts = b.site.prompts) (prompted : d.prompted = b.prompted)
    (there : answers.filterMap Answer.missing? = []) :
    ∃ stage events made, Went b a old answers events made stage (d.clean m a cleaning) := by
  unfold clean
  rcases ask_cases d m .dispose with ⟨n, _, same⟩ | ⟨_, same⟩ <;> rw [same]
  · exact ⟨_, _, _, .of_idle (step _) (files_put (d := d.setManager m _) files a _)
      (sent.trans (List.append_nil _).symm) (by simpa [setManager, putActivation] using length)
      prompts prompted there⟩
  · exact ⟨_, _, _, .of_idle (step _) (files_put files a _) (sent.trans (List.append_nil _).symm)
      length prompts prompted there⟩

private theorem went_enterSimple (h : b.Kept) (x : Activation) :
    ∃ stage events made, Went b a .queuedSimple
      [match b.simple.filter fun r => ! b.isDisposed r.manager with
        | some record => .shared record
        | none => .servers .simple (b.site.host.isRegistered .simple)]
      events made stage (b.enterSimple a x) := by
  unfold enterSimple
  dsimp only
  cases reusable : b.simple.filter fun r => ! b.isDisposed r.manager with
  | some record =>
    have simple := (h.simple (Option.filter_eq_some_iff.mp reusable).1).2
    exact ⟨_, _, _, .of_idle (.share simple) (files_put (d := b.leaveLine _) rfl a _)
      (List.append_nil _).symm rfl rfl rfl rfl⟩
  | none =>
    cases registered : b.site.host.isRegistered .simple with
    | true =>
      simp only [startManager_eq]
      exact went_launch x.scope .simple .startingSimple fun _ _ => .launchSimple
    | false =>
      exact ⟨_, _, _, .of_idle .noSimple (files_put (d := b.leaveLine _) rfl a _)
        (List.append_nil _).symm rfl rfl rfl rfl⟩

/-- Every turn of an activation is one of the steps. -/
theorem went_stepActivation (h : b.Kept) (found : b.activations[a]? = some x)
    (ready : b.canActivate a) :
    ∃ stage events made, Went b a x.stage (b.answer? a).toList events made stage
      (b.stepActivation a) := by
  have waits {d : Broker} (begun : x.stage ≠ .fresh) (files : d.files = b.files)
      (sent : d.sent = b.sent) (length : d.managers.length = b.managers.length)
      (prompts : d.site.prompts = b.site.prompts) (prompted : d.prompted = b.prompted) :
      ∃ stage events made, Went b a x.stage [] events made stage d :=
    ⟨_, _, _, .of_idle (.wait begun) (files.trans (files_stay found))
      (sent.trans (List.append_nil _).symm) length prompts prompted rfl⟩
  simp only [stepActivation, answer?, found, Option.bind_some]
  cases stage : x.stage with
  | fresh => exact went_choose x.scope
  | installing variant => exact went_install x.scope variant
  | launchingFull variant => exact went_launchFull x.scope variant
  | startingFull variant m j =>
    obtain ⟨d, o, await, outcome, files, sent, length, prompts, prompted⟩ := b.await_parts m j
    simp only [await, outcome]
    cases o with
    | none => exact stage ▸ waits (by simp [stage]) files sent length prompts prompted
    | some o =>
      cases o with
      | failed cause => exact went_clean (fun _ => .fail) files sent length prompts prompted rfl
      | finished =>
        exact ⟨_, _, _, .of_idle .win (files_put files a _) (sent.trans (List.append_nil _).symm)
          length prompts prompted rfl⟩
      | found server =>
        exact ⟨_, _, _, .of_idle .win (files_put files a _) (sent.trans (List.append_nil _).symm)
          length prompts prompted rfl⟩
  | cleaningFull variant m j cause =>
    obtain ⟨d, o, await, outcome, files, sent, length, prompts, prompted⟩ := b.await_parts m j
    simp only [await]
    cases o with
    | none => exact stage ▸ waits (by simp [stage]) files sent length prompts prompted
    | some o =>
      have step : Activation.Step (.cleaningFull variant m j cause)
          ⟨[], [] ++ [fallbackEvent variant cause], []⟩ .queuedSimple := .fallBack
      exact ⟨_, _, _, .of_fallBack step files (sent.trans (List.append_nil _).symm) length
        (by simp [prompts]) (by simp [prompted])⟩
  | queuedSimple =>
    have went := went_enterSimple (a := a) h x
    cases reusable : b.simple.filter fun r => ! b.isDisposed r.manager <;>
      simpa [reusable] using went
  | startingSimple m j =>
    obtain ⟨d, o, await, outcome, files, sent, length, prompts, prompted⟩ := b.await_parts m j
    simp only [await, outcome]
    cases o with
    | none => exact stage ▸ waits (by simp [stage]) files sent length prompts prompted
    | some o =>
      cases o with
      | failed cause =>
        exact went_clean (fun _ => .failSimple) files sent length prompts prompted rfl
      | finished =>
        exact ⟨_, _, _, .of_idle .winSimple (files_put (d := { d with
          simple := some ⟨.simple, m⟩ }.leaveLine (.activation a)) files a _)
          (sent.trans (List.append_nil _).symm) length prompts prompted rfl⟩
      | found server =>
        exact ⟨_, _, _, .of_idle .winSimple (files_put (d := { d with
          simple := some ⟨.simple, m⟩ }.leaveLine (.activation a)) files a _)
          (sent.trans (List.append_nil _).symm) length prompts prompted rfl⟩
  | cleaningSimple m j cause =>
    obtain ⟨d, o, await, outcome, files, sent, length, prompts, prompted⟩ := b.await_parts m j
    simp only [await]
    cases o with
    | none => exact stage ▸ waits (by simp [stage]) files sent length prompts prompted
    | some o =>
      exact ⟨_, _, _, .of_idle (d := (d.leaveLine (.activation a)).putActivation a _) .giveUp
        (files_put (d := d.leaveLine _) files a _) (sent.trans (List.append_nil _).symm) length
        prompts prompted rfl⟩
  | concluding result =>
    cases result with
    | ok record =>
      exact ⟨_, _, _, .of_idle (.succeed _) (files_put rfl a _) List.map_append rfl rfl rfl rfl⟩
    | error cause =>
      exact ⟨_, _, _, .of_idle .surrender (files_put rfl a _) (List.append_nil _).symm rfl rfl rfl
        rfl⟩
  | settled result => simp [canActivate, found, stage] at ready

/-- In its turn an activation takes a step, or it has to wait and nothing happens. -/
theorem turn_move (h : b.Kept) (a : ActivationId) :
    (b.move (.agent (.activation a)) = b ∧ b.turnLog a = {}) ∨
      ∃ old stage, b.stage? a = some old ∧ Activation.Step old (b.turnLog a) stage ∧
        (b.move (.agent (.activation a))).files = b.files.modify a (fun y => (y.1, stage)) ∧
          Prompts b (b.move (.agent (.activation a))) (b.turnLog a).answers := by
  by_cases ready : b.canActivate a
  · have moved : b.move (.agent (.activation a)) = (b.ticked.stepActivation a).tidy := by
      simp [move, isReady, ready, act]
    obtain ⟨x, found⟩ : ∃ x, b.activations[a]? = some x := by
      cases found : b.activations[a]? with
      | none => simp [canActivate, found] at ready
      | some x => exact ⟨x, rfl⟩
    obtain ⟨stage, events, made, went⟩ := went_stepActivation (h.atSite b.ticked.site) found ready
    have log : b.turnLog a = ⟨(b.answer? a).toList, events, made⟩ := by
      have sent : (b.ticked.stepActivation a).tidy.sent = b.sent ++ events := went.sent
      have hired : (b.ticked.stepActivation a).tidy.roster.drop b.roster.length = made := by
        rw [roster_tidy]
        exact went.made
      simp only [turnLog, moved, ready, if_true, sent, hired, List.drop_left]
    refine .inr ⟨x.stage, stage, stage?_of_activation found, log ▸ went.step, ?_, ?_⟩
    · rw [moved]
      exact went.files
    · rw [moved, log]
      exact ⟨went.told.prompts, went.told.prompted⟩
  · have waits : b.move (.agent (.activation a)) = b := by simp [move, isReady, ready]
    refine .inl ⟨waits, ?_⟩
    simp [turnLog, waits, ready]

end Broker

end LanguageBroker
