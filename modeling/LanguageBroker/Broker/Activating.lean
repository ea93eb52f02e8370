import LanguageBroker.Broker

/-!
How an activation goes on. What it tries first is chosen when it begins; a full server that cannot
be had leads to the simple one, and a simple one that cannot be had is the end.
-/

namespace LanguageBroker.Broker

/-- Sends a telemetry event. -/
def emit (b : Broker) (e : TelemetryEvent) : Broker := { b with site := b.site.emit e }

/-- The event of that name with the variant it is about. -/
def eventAbout (name : String) (variant : Variant) : TelemetryEvent :=
  TelemetryEvent.withProperty ⟨name, [], []⟩ "variant" variant.name

/-- The program of a server is missing. The user is told so once. -/
def reportMissing (b : Broker) (variant : Variant) : Broker :=
  let b := b.emit (eventAbout TelemetryEvent.notInstalled variant)
  if b.prompted then b
  else { b with prompted := true, site := { b.site with prompts := b.site.prompts ++ [variant] } }

/-- Turns to the simple server. -/
def turnToSimple (b : Broker) (a : ActivationId) : Broker :=
  (b.joinLine (.activation a)).putActivation a .queuedSimple

/-- Turns from the full server to the simple one. -/
def fallBack (b : Broker) (a : ActivationId) (variant : Variant) (cause : ActivationError) :
    Broker :=
  let event : TelemetryEvent :=
    ⟨TelemetryEvent.fallback, [], [("from", variant.name), ("reason", cause.message)]⟩
  (b.emit event).turnToSimple a

/-- The activation ends with a server. -/
def succeed (b : Broker) (a : ActivationId) (began : Time) (record : Record) : Broker :=
  let duration : Nat := b.site.clock.now - began
  let event := (eventAbout TelemetryEvent.startup record.variant).withMeasure "duration" duration
  (b.emit event).putActivation a (.settled (.ok record))

/-- The activation begins: the settings and the platform decide what is tried first. -/
def choose (b : Broker) (a : ActivationId) (scope : Scope) : Broker :=
  let settings := b.site.host.settings scope.resource
  let (choice, events) := Choice.make settings b.site.host.prefersSimple b.site.host.isSupported
  let b := { b with
    site := events.foldl Site.emit b.site
    activations := b.activations.modify a fun x => { x with began := b.site.clock.now } }
  match choice with
  | .simple => b.turnToSimple a
  | .full variant =>
    b.putActivation a
      (if settings.downloadDisabled then .launchingFull variant else .installing variant)

/-- Somebody is asked whether the program of a full server is there. -/
def install (b : Broker) (a : ActivationId) (scope : Scope) (variant : Variant) : Broker :=
  let b := { b with site := b.site.note (.asked variant scope.key) }
  match b.site.host.install variant scope.folder with
  | .ok () => b.putActivation a (.launchingFull variant)
  | .error cause =>
    let b := match cause with
      | .notInstalled _ => b.reportMissing variant
      | .failed .. => b
    b.fallBack a variant (.install cause)

/-- A new manager is to start a server. -/
def startManager (b : Broker) (variant : Variant) (scope : Scope) : Broker × ManagerId × JobId :=
  let (b, m) := b.newManager variant
  let (b, j) := b.ask m (.start scope)
  (b, m, j)

/-- The full server is started, if such servers can be made. -/
def launchFull (b : Broker) (a : ActivationId) (scope : Scope) (variant : Variant) : Broker :=
  if b.site.host.isRegistered variant then
    let (b, m, j) := b.startManager variant scope
    b.putActivation a (.startingFull variant m j)
  else b.fallBack a variant (.noBackend variant)

/-- The activation has got hold of the simple server: it takes the one in use or starts one. -/
def enterSimple (b : Broker) (a : ActivationId) (x : Activation) : Broker :=
  let reusable := b.simple.filter fun r => ! b.isDisposed r.manager
  match reusable with
  | some record => (b.leaveLine (.activation a)).putActivation a (.concluding (.ok record))
  | none =>
    if b.site.host.isRegistered .simple then
      let (b, m, j) := b.startManager .simple x.scope
      b.putActivation a (.startingSimple m j)
    else (b.leaveLine (.activation a)).putActivation a (.concluding (.error (.noBackend .simple)))

/-- A server did not start: its manager is disposed of. -/
def clean (b : Broker) (m : ManagerId) (a : ActivationId) (stage : JobId → Activation.Stage) :
    Broker :=
  let (b, j) := b.ask m .dispose
  b.putActivation a (stage j)

/-- Can an activation take a step? -/
def canActivate (b : Broker) (a : ActivationId) : Bool :=
  match b.activations[a]? with
  | none => false
  | some x =>
    match x.stage with
    | .fresh | .installing _ | .launchingFull _ | .concluding _ => true
    | .queuedSimple => b.isFirst (.activation a)
    | .settled _ => false
    | stage => stage.job?.any fun job => b.canAwait job.1 job.2

/-- An activation takes its next step. -/
def stepActivation (b : Broker) (a : ActivationId) : Broker :=
  match b.activations[a]? with
  | none => b
  | some x =>
    match x.stage with
    | .fresh => b.choose a x.scope
    | .installing variant => b.install a x.scope variant
    | .launchingFull variant => b.launchFull a x.scope variant
    | .startingFull variant m j =>
      match b.await m j with
      | (b, none) => b
      | (b, some (.failed e)) =>
        b.clean m a fun j => .cleaningFull variant m j (.start variant e)
      | (b, some _) => b.putActivation a (.concluding (.ok ⟨variant, m⟩))
    | .cleaningFull variant m j cause =>
      match b.await m j with
      | (b, none) => b
      | (b, some _) => b.fallBack a variant cause
    | .queuedSimple => b.enterSimple a x
    | .startingSimple m j =>
      match b.await m j with
      | (b, none) => b
      | (b, some (.failed e)) => b.clean m a fun j => .cleaningSimple m j (.start .simple e)
      | (b, some _) =>
        let record : Record := ⟨.simple, m⟩
        ({ b with simple := some record }.leaveLine (.activation a)).putActivation a
          (.concluding (.ok record))
    | .cleaningSimple m j cause =>
      match b.await m j with
      | (b, none) => b
      | (b, some _) => (b.leaveLine (.activation a)).putActivation a (.concluding (.error cause))
    | .concluding (.ok record) => b.succeed a x.began record
    | .concluding (.error cause) => b.putActivation a (.settled (.error cause))
    | .settled _ => b

/-- The time that an activation waits for. -/
def activationDeadline (b : Broker) (a : ActivationId) : Option Deadline :=
  ((b.activations[a]?).bind (·.stage.job?)).bind b.jobDeadline

end LanguageBroker.Broker
