import LanguageBroker.Debouncer
import LanguageBroker.Inbox
import LanguageBroker.Options

/-!
The source of a server's options. Once it is bound to a scope it watches for changes: settings and
the environment are read again after a time of rest and compared with what was last seen, and
only a difference is announced; a change of interpreters is announced as it comes. Either reading is
one step, and what there is does not change while it goes on.
-/

namespace LanguageBroker

/-- What a provider that watches has heard and not yet looked into. -/
structure Watch where
  settings : Inbox ConfigurationChange := {}
  environment : Inbox Unit := {}
  interpreter : Inbox Unit := {}
  settingsCheck : Debouncer
  environmentCheck : Debouncer
  deriving Repr

structure Provider where
  variant : Variant
  scope : Option Scope := none
  /-- The inputs last seen. -/
  seen : Inputs := {}
  watch : Option Watch := none

/-- What the surroundings announce. -/
inductive WorkspaceEvent
  | settings (change : ConfigurationChange)
  | environment
  | interpreter
  deriving DecidableEq, Repr

/-- So many announcements of one kind wait for a reader. -/
def WorkspaceEvent.capacity : Nat := 64

namespace Provider

def resource (p : Provider) : Option Uri := p.scope.bind (·.resource)

/-- Binds the provider to a scope and starts a new watch in place of an old one. When the
environment cannot be read the scope is bound all the same. -/
def bindScope (p : Provider) (h : Host) (scope : Scope) : Provider × Except OptionsError Unit :=
  let p := { p with scope := some scope }
  match h.modules scope.resource with
  | .error e => (p, .error e)
  | .ok modules =>
    ({ p with
        seen := Options.inputs h p.variant scope.resource modules
        watch := some { settingsCheck := ⟨h.quietTime, .idle⟩
                        environmentCheck := ⟨h.quietTime, .idle⟩ } }, .ok ())

/-- The options as things are now. Their inputs count as seen. -/
def options (p : Provider) (h : Host) : Provider × Except OptionsError Options :=
  match p.scope with
  | none => (p, .error .notInitialized)
  | some scope =>
    match Options.make h p.variant scope with
    | .error e => (p, .error e)
    | .ok (options, inputs) => ({ p with seen := inputs }, .ok options)

/-- Stops watching. -/
def dispose (p : Provider) : Provider := { p with watch := none }

/-- Hears an announcement. -/
def hear (p : Provider) (e : WorkspaceEvent) : Provider :=
  let push {α : Type} (b : Inbox α) (a : α) : Inbox α := b.push WorkspaceEvent.capacity a
  { p with
    watch := p.watch.map fun w =>
      match e with
      | .settings change => { w with settings := push w.settings change }
      | .environment => { w with environment := push w.environment () }
      | .interpreter => { w with interpreter := push w.interpreter () } }

/-- Does an announcement about settings call for a look at them? -/
def concernsSettings : Inbox.Receipt ConfigurationChange → Bool
  | .item change => change.affects Settings.sectionName
  | .lost _ => true

/-- Is there something unread? -/
def hasNews (p : Provider) : Bool :=
  match p.watch with
  | some w => !(w.settings.isEmpty && w.environment.isEmpty && w.interpreter.isEmpty)
  | none => false

/-- Reads all announcements, and says how many changes are to be announced in turn. -/
def listen (p : Provider) (clock : Clock) : Provider × Nat :=
  match p.watch with
  | none => (p, 0)
  | some w =>
    let trigger (d : Debouncer) (b : Bool) : Debouncer := if b then d.trigger clock else d
    ({ p with
        watch := some
          { settingsCheck := trigger w.settingsCheck (w.settings.receipts.any concernsSettings)
            environmentCheck := trigger w.environmentCheck (! w.environment.isEmpty) } },
      w.interpreter.receipts.length)

/-- Looks at the settings, and says whether they differ from what was seen. -/
def checkSettings (p : Provider) (h : Host) : Provider × Bool :=
  let now := Options.inputs h p.variant p.resource p.seen.modules
  ({ p with seen := now }, decide (p.seen ≠ now))

/-- Looks at the environment, and says whether it differs from what was seen. One that cannot be
read changes nothing. -/
def checkEnvironment (p : Provider) (h : Host) : Provider × Bool :=
  match h.modules p.resource with
  | .error _ => (p, false)
  | .ok modules => ({ p with seen := { p.seen with modules } }, decide (p.seen.modules ≠ modules))

/-- What a provider does on its own. -/
inductive Duty
  | listen
  | checkSettings
  | checkEnvironment
  deriving DecidableEq, Repr

def duties : List Duty := [.listen, .checkSettings, .checkEnvironment]

/-- Is there something to do? -/
def isReady (p : Provider) (clock : Clock) : Duty → Bool
  | .listen => p.hasNews
  | .checkSettings => p.watch.any (·.settingsCheck.isDue clock)
  | .checkEnvironment => p.watch.any (·.environmentCheck.isDue clock)

/-- Does it, and says how many changes are to be announced. -/
def act (p : Provider) (h : Host) (clock : Clock) : Duty → Provider × Nat
  | .listen => p.listen clock
  | .checkSettings =>
    let (p, changed) := p.checkSettings h
    ({ p with watch := p.watch.map fun w =>
        { w with settingsCheck := (w.settingsCheck.startRun).finish clock } },
      if changed then 1 else 0)
  | .checkEnvironment =>
    let (p, changed) := p.checkEnvironment h
    ({ p with watch := p.watch.map fun w =>
        { w with environmentCheck := (w.environmentCheck.startRun).finish clock } },
      if changed then 1 else 0)

/-- The time at which a check falls due. -/
def deadline (p : Provider) : Duty → Option Deadline
  | .listen => none
  | .checkSettings => p.watch.bind (·.settingsCheck.due?)
  | .checkEnvironment => p.watch.bind (·.environmentCheck.due?)

end Provider

end LanguageBroker
