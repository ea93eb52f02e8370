import LanguageBroker.Proofs.Disposal
import LanguageBroker.Proofs.WatchedOptions
import Mathlib.Data.List.Induction

/-!
No change of the options is lost. A change is noticed when what was last seen differs from what
there is, and what was last seen counts anew whenever options are worked out. So two things have to
hold at every moment: what was last seen is what there is, or a look at it is still to come; and the
server was made from what was last seen, or a restart is still to come.
-/

namespace LanguageBroker

namespace Inbox

variable {α : Type} {b : Inbox α} {a : α}

/-- What a reader minds is not lost without a trace. -/
theorem any_push {minds : Receipt α → Bool} (lost : ∀ count, minds (.lost count)) (capacity : Nat)
    (some : minds (.item a) ∨ b.receipts.any minds) : (b.push capacity a).receipts.any minds := by
  unfold push
  split
  · rcases some with new | old
    · simp [receipts, new]
    · simp only [receipts, List.any_append, Bool.or_eq_true, List.map_append] at old ⊢
      exact old.imp_right .inl
  · simp [receipts, lost]

theorem isEmpty_push (b : Inbox α) (capacity : Nat) (a : α) :
    (b.push capacity a).isEmpty = false := by
  unfold push
  split <;> simp [isEmpty]

end Inbox

/-- Where the inputs of the options come from. -/
inductive Source
  | settings
  | environment

/-- Does an announcement tell of changes there? -/
def WorkspaceEvent.isAbout : WorkspaceEvent → Source → Bool
  | .settings change, .settings => change.affects Settings.sectionName
  | .environment, .environment => true
  | _, _ => false

/-- Are the inputs that come from there the same in both surroundings? -/
def Host.agrees (g h : Host) (variant : Variant) (resource : Option Uri) : Source → Prop
  | .settings => Options.inputs g variant resource "" = Options.inputs h variant resource ""
  | .environment => g.modules resource = h.modules resource

theorem Options.extraPaths_inputs (h : Host) (variant : Variant) (resource : Option Uri)
    (modules : String) :
    (inputs h variant resource modules).extraPaths = (h.settings resource).extraPaths := rfl

/-- Is a look at the source still to come? -/
def Watch.isDue (k : Watch) : Source → Prop
  | .settings => (∃ due, k.settingsCheck.phase = .waiting due) ∨
    k.settings.receipts.any Provider.concernsSettings
  | .environment => (∃ due, k.environmentCheck.phase = .waiting due) ∨
    k.environment.isEmpty = false

namespace Provider

variable {p : Provider} {h : Host} {clock : Clock} {duty : Duty} {source : Source} {later : Prop}

/-- Are the inputs last seen those that there are? -/
def knows (p : Provider) (h : Host) : Source → Prop
  | .settings => { p.seen with modules := "" } = Options.inputs h p.variant p.resource ""
  | .environment => h.modules p.resource = .ok p.seen.modules

/-- The inputs are known, or a look at them is to come, if need be only later. -/
def Follows (p : Provider) (h : Host) (source : Source) (later : Prop) : Prop :=
  ∀ k, p.watch = some k → p.knows h source ∨ k.isDue source ∨ later

theorem knows_of_seen {modules : String} (read : h.modules p.resource = .ok modules)
    (seen : p.seen = Options.inputs h p.variant p.resource modules) : p.knows h source := by
  cases source with
  | settings => simp [knows, seen, Options.inputs]
  | environment => simp [knows, seen, Options.inputs, read]

theorem knows_of_agrees {g : Host} (knows : p.knows g source)
    (agrees : g.agrees h p.variant p.resource source) : p.knows h source := by
  cases source with
  | settings => exact Eq.trans knows agrees
  | environment => exact agrees.symm.trans knows

theorem seen_of_knows (settings : p.knows h .settings) (environment : p.knows h .environment) :
    ∃ modules, h.modules p.resource = .ok modules ∧
      p.seen = Options.inputs h p.variant p.resource modules := by
  refine ⟨p.seen.modules, environment, ?_⟩
  have same := congrArg (fun i : Inputs => { i with modules := p.seen.modules }) settings
  exact same

/-- Whoever reads the announcements sees to it that what they are about is looked at. -/
private theorem due_listen {d : Debouncer} (open' : d.isOpen) {news : Bool}
    (minds : (∃ due, d.phase = .waiting due) ∨ news) :
    ∃ due, (if news then d.trigger clock else d).phase = .waiting due := by
  cases news with
  | true =>
    rcases open' with phase | ⟨due, phase⟩
    · exact ⟨_, by simp [Debouncer.trigger, phase]; rfl⟩
    · exact ⟨_, by simp [Debouncer.trigger, phase]; rfl⟩
  | false => simpa using minds

/-- A look at one source shows it as it is, and leaves the other one as it was. -/
theorem Follows.act (follows : p.Follows h source later)
    (checks : ∀ {k}, p.watch = some k → k.settingsCheck.isOpen ∧ k.environmentCheck.isOpen)
    {modules : String} (read : h.modules p.resource = .ok modules) :
    (p.act h clock duty).1.Follows h source later := by
  intro k there
  obtain ⟨before, watch, became⟩ := watch_act there
  have known := follows before watch
  cases duty with
  | listen =>
    obtain rfl : k = before.listened clock := became
    rw [act_listen watch]
    refine known.imp ?_ (Or.imp_left fun due => ?_)
    · cases source <;> exact id
    · cases source with
      | settings => exact .inl (due_listen (checks watch).1 due)
      | environment =>
        exact .inl (due_listen (checks watch).2 (due.imp_right fun news => by simp [news]))
  | checkSettings =>
    obtain rfl : k = before.settingsChecked clock := became
    rw [act_checkSettings]
    cases source with
    | settings => exact .inl rfl
    | environment => exact known
  | checkEnvironment =>
    obtain rfl : k = before.environmentChecked clock := became
    rw [act_checkEnvironment read]
    cases source with
    | settings => exact known
    | environment => exact .inl read

/-- Whoever hears an announcement will look at what it is about. -/
theorem Follows.hear {event : WorkspaceEvent}
    (follows : p.Follows h source (event.isAbout source ∨ later)) :
    (p.hear event).Follows h source later := by
  intro k there
  obtain ⟨before, watch, rfl⟩ := Option.map_eq_some_iff.mp there
  rcases follows before watch with knows | due | told | told
  · refine .inl ?_
    cases source <;> exact knows
  · refine .inr (.inl ?_)
    cases event with
    | settings change =>
      cases source with
      | settings => exact due.imp_right fun news => Inbox.any_push (fun _ => rfl) _ (.inr news)
      | environment => exact due
    | environment =>
      cases source with
      | settings => exact due
      | environment => exact due.imp_right fun _ => Inbox.isEmpty_push ..
    | interpreter => cases source <;> exact due
  · refine .inr (.inl ?_)
    cases event with
    | settings change =>
      cases source with
      | settings => exact .inr (Inbox.any_push (fun _ => rfl) _ (.inl told))
      | environment => simp [WorkspaceEvent.isAbout] at told
    | environment =>
      cases source with
      | settings => simp [WorkspaceEvent.isAbout] at told
      | environment => exact .inr (Inbox.isEmpty_push ..)
    | interpreter => simp [WorkspaceEvent.isAbout] at told
  · exact .inr (.inr told)

end Provider

namespace Manager.Moment

/-- Is the move an announcement about the source, and does the manager hear it? -/
def Hears (w : Moment) (source : Source) (next : Move) : Prop :=
  w.turn = none ∧ ∃ event, next = .hear event ∧ event.isAbout source

/-- Is there an announcement about the source in the run? -/
def Told (source : Source) (w : Moment) : List Move → Prop
  | [] => False
  | next :: moves => w.Hears source next ∨ Told source (w.move next) moves

/-- Every change of the inputs for the scope is announced after it has happened. -/
def Announced (scope : Scope) (w : Moment) : List Move → Prop
  | [] => True
  | next :: moves =>
    (∀ source,
      ¬ w.site.host.agrees (w.move next).site.host w.manager.variant scope.resource source →
      (w.move next).Told source moves) ∧ Announced scope (w.move next) moves

/-- Can the environment be read for the scope? -/
def CanRead (scope : Scope) (w : Moment) : Prop :=
  ∃ modules, w.site.host.modules scope.resource = .ok modules

variable {w v : Moment} {scope : Scope} {next : Move} {source : Source} {later : Prop}

theorem Attended.follows_stir (h : w.Attended) (stir : Stir w next v)
    (own : w.manager.provider.watch.isSome → w.manager.provider.resource = scope.resource)
    (read : w.CanRead scope)
    (follows : w.manager.provider.Follows w.site.host source (w.Hears source next ∨ later))
    (changes : ¬ w.site.host.agrees v.site.host w.manager.variant scope.resource source → later) :
    v.manager.provider.Follows v.site.host source later := by
  have unheard (deaf : ¬ w.Hears source next) :
      w.manager.provider.Follows w.site.host source later := fun k there =>
    (follows k there).imp_right (Or.imp_right fun told => told.resolve_left deaf)
  cases stir with
  | step go turn job found ready step options acts same =>
    have kept := unheard (by simp [Hears, go])
    rw [show v.site.host = w.site.host from options.host]
    cases options with
    | aside _ _ provider | unread _ _ provider => rwa [provider]
    | closed _ _ _ provider =>
      intro k there
      simp [provider, Provider.dispose] at there
    | @bound aim modules _ read provider =>
      intro k there
      have resource : v.manager.provider.resource = aim.resource := by
        rw [provider]
        rfl
      refine .inl (Provider.knows_of_seen (resource ▸ read) ?_)
      rw [resource, provider]
      rfl
    | unbound stage _ provider =>
      intro k there
      have unwatched := (h.gathering.early (.inr ⟨_, _, _, found, stage⟩)).1
      simp [provider, unwatched] at there
    | @asked _ aim _ _ _ bound made provider =>
      intro k there
      obtain ⟨modules, read, rfl⟩ := Options.inputs_of_make made
      have resource : v.manager.provider.resource = aim.resource := by
        rw [provider]
        simp [Provider.resource, bound]
      refine .inl (Provider.knows_of_seen (resource ▸ read) ?_)
      rw [resource, provider]
      rfl
  | feed feed =>
    cases feed with
    | look turn ready =>
      have kept := unheard (by simp [Hears])
      obtain ⟨modules, read⟩ := read
      have resource := own (Provider.isSome_of_isReady ready)
      exact Provider.Follows.act kept h.gathering.checks (resource.symm ▸ read)
    | hear event free =>
      refine Provider.Follows.hear fun k there => ?_
      refine (follows k there).imp_right (Or.imp_right (Or.imp_left ?_))
      rintro ⟨_, _, ⟨⟩, minds⟩
      exact minds
    | change host plan free =>
      intro k there
      refine (unheard (by simp [Hears]) k there).elim (fun knows => ?_) .inr
      by_cases agrees : w.site.host.agrees host w.manager.variant scope.resource source
      · rw [← h.own.variant, ← own (Option.isSome_of_mem there)] at agrees
        exact .inl (Provider.knows_of_agrees knows agrees)
      · exact .inr (.inr (changes agrees))
    | forward | begin | putAway | ask | restart | wait | collect =>
      exact unheard (by simp [Hears])
    | turned turn silent =>
      refine unheard ?_
      rintro ⟨free, event, same, _⟩
      exact silent event same free

/-- The options are worked out for the scope that the manager has in the end. -/
theorem Attended.resource_eq (h : w.Attended) (moves : List Move)
    (final : (w.run moves).manager.scope = some scope)
    (watched : w.manager.provider.watch.isSome) : w.manager.provider.resource = scope.resource := by
  obtain ⟨own, bound⟩ := Option.ne_none_iff_exists'.mp (h.gathering.bound watched)
  have same : w.manager.scope = some own := by
    rcases h.own.scope with none | same
    · simp [bound] at none
    · exact same.symm.trans bound
  obtain rfl := Option.some.inj ((h.toSound.scope_run same moves).symm.trans final)
  simp [Provider.resource, bound]

theorem Attended.follows_run {moves : List Move} (h : w.Attended)
    (final : (w.run moves).manager.scope = some scope)
    (follows : w.manager.provider.Follows w.site.host source (w.Told source moves))
    (announced : w.Announced scope moves) (read : w.Throughout (CanRead scope) moves) :
    (w.run moves).manager.provider.Follows (w.run moves).site.host source False := by
  induction moves generalizing w with
  | nil => exact follows
  | cons next moves ih =>
    have stir := stir_move h.lined next
    refine ih (h.move next) final ?_ announced.2 read.2
    exact h.follows_stir stir (h.resource_eq _ final) read.first follows (announced.1 source)

/-- A manager that has a scope watches, or is about to, unless it is disposed of. -/
def Watches (w : Moment) : Prop :=
  w.manager.scope ≠ none → w.manager.disposed = false →
    w.manager.provider.watch.isSome ∨ w.manager.isBinding

theorem Attended.watches_stir (h : w.Attended) (stir : Stir w next v)
    (read : ∀ {aim}, w.manager.scope = some aim → w.CanRead aim) (watches : w.Watches) :
    v.Watches := by
  intro bound live
  cases stir with
  | @step duty x go turn job found ready step options acts same =>
    obtain ⟨stage, advance⟩ := step.advance
    have jobs := job?_of_jobs found advance.jobs
    have before : w.manager.disposed = false := by
      by_contra disposed
      simp [step.disposed (by simpa using disposed)] at live
    -- a first start that has just begun is about to bind the options
    have goesOn (watch : v.manager.provider.watch = w.manager.provider.watch)
        (unbound : ∀ aim, x.stage ≠ .binding aim) :
        v.manager.provider.watch.isSome ∨ v.manager.isBinding := by
      rw [watch]
      rcases step.binds_scope found with same | binding
      · refine (watches (same ▸ bound) before).imp_right ?_
        rintro ⟨j, y, aim, hy, binds⟩
        have other : j ≠ x.id := by
          rintro rfl
          obtain rfl := Option.some.inj (found.symm.trans hy)
          exact unbound aim binds
        exact ⟨j, y, aim, by rw [jobs, if_neg other, hy], binds⟩
      · exact .inr binding
    cases options with
    | aside unbound _ provider => exact goesOn (by rw [provider]) unbound
    | closed _ _ disposed => simp [disposed] at live
    | bound _ _ provider => exact .inl (by rw [provider]; rfl)
    | @unbound aim e at_stage unread =>
      have binding : x.aim? = some aim := by simp [Job.aim?, at_stage, h.own.binds found at_stage]
      obtain ⟨modules, read⟩ := read (h.own.aimed found binding)
      have failed : w.site.host.modules aim.resource = .error e := unread
      simp [failed] at read
    | unread at_stage _ provider => exact goesOn (by rw [provider]) (by simp [at_stage])
    | asked at_stage _ _ provider => exact goesOn (by rw [provider]) (by simp [at_stage])
  | feed feed =>
    have aside := (feed.aside h.lined).1
    have watch : v.manager.provider.watch.isSome = w.manager.provider.watch.isSome := by
      cases feed with
      | look => exact w.manager.provider.isSome_watch_act ..
      | hear => simp [Manager.hear, Provider.hear]
      | _ => rfl
    rw [watch]
    refine (watches (aside.scope ▸ bound) (aside.disposed ▸ live)).imp_right ?_
    rintro ⟨j, x, aim, hx, binds⟩
    exact ⟨j, x, aim, aside.kept hx (by simp [Job.isDone, binds]), binds⟩

theorem Attended.watches_run {moves : List Move} (h : w.Attended)
    (final : (w.run moves).manager.scope = some scope) (watches : w.Watches)
    (read : w.Throughout (CanRead scope) moves) : (w.run moves).Watches := by
  induction moves generalizing w with
  | nil => exact watches
  | cons next moves ih =>
    refine ih (h.move next) final (h.watches_stir (stir_move h.lined next) ?_ watches) read.2
    intro aim bound
    obtain rfl := Option.some.inj ((h.toSound.scope_run bound _).symm.trans final)
    exact read.first

end Manager.Moment

/-! The server and the inputs it was made from. -/

namespace Manager

variable {m n : Manager} {s t : Site} {x : Job}

/-- Does the move leave the surroundings as they are? -/
def Move.isSteady : Move → Bool
  | .change .. => false
  | _ => true

/-- Is a restart still to come, also if nothing changes any more? -/
def isRenewing (m : Manager) : Prop :=
  (∃ b, m.changes = some b ∧ b.isEmpty = false) ∨
    (∃ d, m.restarter = some d ∧ ((∃ due, d.phase = .waiting due) ∨ d.phase = .busy true)) ∨
    ∃ x, m.job? restartJob = some x ∧ (x.stage = .fresh ∨ x.stage = .queued)

/-- A restart that has got the slot finds it empty and goes for a server. -/
theorem stepJob_restart {scope : Scope} (task : x.task = .restart) (stage : x.stage = .queued)
    (live : m.disposed = false) (bound : m.scope = some scope) (empty : m.slot = none) :
    m.stepJob s x = (m.put x.id (.launching scope), s) := by
  simp [stepJob, stage, enter, task, live, bound, empty]

/-- A restart that has got the slot takes the server out of it. -/
theorem stepJob_restart_of_slot {scope : Scope} {b : BackendId} (task : x.task = .restart)
    (stage : x.stage = .queued) (live : m.disposed = false) (bound : m.scope = some scope)
    (slot : m.slot = some b) :
    m.stepJob s x = ({ m with slot := none }.put x.id (.retiring b (s.beginDispose b).2),
      (s.beginDispose b).1) := by
  simp [stepJob, stage, enter, task, live, bound, slot]

/-- No server is there once a restart has got the slot. -/
theorem not_has_of_restart (lined : m.Lined) (hx : m.job? x.id = some x)
    (task : x.task = .restart) (stage : x.stage = .queued) {clock : Clock}
    (ready : m.canStep clock x) (live : m.disposed = false) (bound : m.scope ≠ none)
    (b : BackendId) : ¬ (m.stepJob s x).1.Has b := by
  obtain ⟨scope, bound⟩ := Option.ne_none_iff_exists'.mp bound
  have idle {i : JobId} {y : Job} (hy : m.job? i = some y) : y.stage.coming? = none := by
    by_contra coming
    obtain ⟨c, coming⟩ := Option.ne_none_iff_exists'.mp coming
    exact free_of_queued lined hx stage ready hy (Job.holds_of_coming coming)
  have gone {k : Manager} {stage : Job.Stage} (jobs : k.jobs = m.jobs) (empty : k.slot = none)
      (coming : stage.coming? = none) : ¬ (k.put x.id stage).Has b := by
    rintro (inside | ⟨i, y, hy, up⟩)
    · simp [put, empty] at inside
    · rw [job?_at jobs hx] at hy
      split at hy
      · obtain rfl := Option.some.inj hy
        simp [coming] at up
      · simp [idle hy] at up
  cases slot : m.slot with
  | none =>
    rw [stepJob_restart task stage live bound slot]
    exact gone rfl slot rfl
  | some c =>
    rw [stepJob_restart_of_slot task stage live bound slot]
    exact gone rfl rfl rfl

theorem isEmpty_announce {b : Inbox Unit} (news : b.isEmpty = false ∨ 0 < count) :
    ((List.replicate count ()).foldl (Inbox.push changeCapacity) b).isEmpty = false := by
  induction count generalizing b with
  | zero => simpa using news
  | succ count ih => exact ih (.inl (Inbox.isEmpty_push ..))

theorem isRenewing_of_restart (h : m.Gathering) (clock : Clock) {d : Debouncer}
    (gathers : m.restarter = some d) (same : n.restarter = m.restarter.map (·.trigger clock)) :
    n.isRenewing := by
  refine .inr (.inl ⟨d.trigger clock, by simp [same, gathers], ?_⟩)
  have open' := (h.busy gathers).1
  cases phase : d.phase <;> simp_all [Debouncer.trigger]

namespace Moment

variable {w v : Moment} {next : Move}

theorem Feed.renewing (feed : Feed w next v) (h : w.Attended) (renews : w.manager.isRenewing) :
    v.manager.isRenewing := by
  have aside := (feed.aside h.lined).1
  have same (changes : v.manager.changes = w.manager.changes)
      (restarter : v.manager.restarter = w.manager.restarter) : v.manager.isRenewing := by
    unfold isRenewing
    rw [changes, restarter]
    refine renews.imp_right (Or.imp_right ?_)
    rintro ⟨x, hx, early⟩
    refine ⟨x, aside.kept hx fun done => ?_, early⟩
    rcases early with stage | stage <;> simp [Job.isDone, stage] at done
  cases feed with
  | look turn ready =>
    rcases renews with ⟨b, changes, news⟩ | restarts
    · exact .inl ⟨_, by simp [act, Manager.act, announce, changes]; rfl,
        isEmpty_announce (.inl news)⟩
    · exact .inr restarts
  | forward turn changes news =>
    obtain ⟨d, gathers⟩ : ∃ d, w.manager.restarter = some d := by
      rw [← Option.isSome_iff_exists, h.gathering.restarter, ← h.gathering.changes, changes]
      rfl
    exact isRenewing_of_restart h.gathering _ gathers rfl
  | begin turn idle gathers due =>
    exact .inr (.inr ⟨_, (job?_add idle rfl restartJob).trans (if_pos rfl), .inl rfl⟩)
  | putAway turn found done =>
    rcases renews with changes | ⟨d, gathers, phase⟩ | ⟨x, hx, early⟩
    · exact .inl changes
    · obtain ⟨again, busy⟩ := (h.gathering.busy gathers).2.mpr (by simp [found])
      obtain rfl : again = true := by simpa [busy] using phase
      exact .inr (.inl ⟨d.finish w.site.clock.tick, by simp [cleared, gathers],
        .inl ⟨_, by simp [Debouncer.finish, busy]; rfl⟩⟩)
    · obtain rfl := Option.some.inj (found.symm.trans hx)
      rcases early with stage | stage <;> simp [Job.isDone, stage] at done
  | restart =>
    cases gathers : w.manager.restarter with
    | none => exact same rfl (by simp [Manager.restart, gathers])
    | some d => exact isRenewing_of_restart h.gathering _ gathers rfl
  | ask | hear | change | wait | collect | turned => exact same rfl rfl

/-- Whoever notices a difference sees to it that there is a restart. -/
theorem Feed.seen (feed : Feed w next v) (h : w.Attended) :
    v.manager.provider.seen = w.manager.provider.seen ∨ v.manager.isRenewing := by
  cases feed with
  | @look duty turn ready =>
    obtain ⟨b, changes⟩ : ∃ b, w.manager.changes = some b := by
      rw [← Option.isSome_iff_exists, h.gathering.changes]
      exact Provider.isSome_of_isReady ready
    have noticed (some : 0 < (w.manager.provider.act w.site.host w.ticked.clock duty).2) :
        (w.act (.options duty)).manager.isRenewing :=
      .inl ⟨_, by simp [act, Manager.act, announce, changes]; rfl, isEmpty_announce (.inr some)⟩
    exact (w.manager.provider.act_seen w.site.host w.ticked.clock duty).imp_right noticed
  | _ => exact .inl rfl

/-- The move makes a server and starts it with options made from these inputs. -/
structure Builds (w : Moment) (next : Move) (b : BackendId) (options : Options) (inputs : Inputs) :
    Prop where
  new : w.site.backends.length = b
  read : ∃ scope, w.manager.scope = some scope ∧
    Options.make w.site.host w.manager.variant scope = .ok (options, inputs)
  started : ∃ x, (w.move next).site.backend? b = some x ∧
    (w.move next).site.eventsOf x.name = [.create, .start options]

/-- In the run the server was started with options made from these inputs. -/
def Built (start : Moment) (moves : List Move) (b : BackendId) (options : Options)
    (inputs : Inputs) : Prop :=
  ∃ before next after, moves = before ++ next :: after ∧
    (start.run before).Builds next b options inputs

theorem Built.append {start : Moment} {moves : List Move} {b : BackendId} {options : Options}
    {inputs : Inputs} (h : start.Built moves b options inputs) (more : List Move) :
    start.Built (moves ++ more) b options inputs := by
  obtain ⟨before, next, after, rfl, builds⟩ := h
  exact ⟨before, next, after ++ more, by simp, builds⟩

theorem Sound.lt_of_has (h : w.Sound) {b : BackendId} (has : w.manager.Has b) :
    b < w.site.backends.length := by
  rcases has with inside | ⟨j, x, hx, coming⟩
  · exact (h.accounts.slot inside).1
  · exact (h.accounts.coming hx coming).1

/-- A server that is there is an old one, or it was made from the inputs last seen. -/
theorem Attended.builds (h : w.Attended) {b : BackendId} (has : (w.move next).manager.Has b) :
    w.manager.Has b ∨ ∃ options, w.Builds next b options (w.move next).manager.provider.seen := by
  have stir := stir_move h.lined next
  generalize reached : w.move next = v at has stir
  cases stir with
  | @step duty x go turn job found ready step options acts same =>
    have tick : w.site.SameServers w.ticked := ⟨rfl, rfl, rfl⟩
    have named := tick.named h.named
    have keeping := Alone.keeping h.accounts.alone h.lined named found h.toSound.lt_of_has step
    cases keeping with
    | still _ _ same => exact .inl ((same b).mp has)
    | shut _ _ _ after => exact absurd has (after b)
    | @made b' y scope stage new length _ here _ _ _ only built =>
      obtain rfl : b = b' := (only b).mp has
      obtain ⟨own, options, inputs, bound, read, provider, events⟩ := built
      have scope : w.manager.provider.scope = w.manager.scope :=
        h.own.scope.resolve_left (by simp [bound])
      refine .inr ⟨options, new.symm, ⟨own, scope.symm.trans bound, ?_⟩, y, ?_, ?_⟩
      · rw [← h.own.variant, provider]
        exact read
      · exact reached ▸ here
      · exact reached ▸ events
  | feed feed => exact .inl (((feed.aside h.lined).1.has b).mp has)

/-- While a job is about to bind the options or to make a server, there is no server. -/
theorem Attended.not_has (h : w.Attended) {x : Job} (found : w.manager.job? x.id = some x)
    (about : (∃ scope, x.stage = .binding scope) ∨ ∃ scope, x.stage = .launching scope)
    (b : BackendId) : ¬ w.manager.Has b := by
  intro has
  rcases about with ⟨scope, stage⟩ | ⟨scope, stage⟩
  · obtain ⟨_, none⟩ := h.opening.empty found (by simp [Job.opens, stage])
    have made := h.toSound.lt_of_has has
    simp [none] at made
  · have holds : x.holds := by simp [Job.holds, stage]
    have coming := (Alone.has_iff h.accounts.alone h.lined found holds b).mp has
    simp [stage, Job.Stage.coming?] at coming

/-- A restart that is still to come stays so until it has got the slot. -/
theorem Attended.renewing_step (h : w.Attended) {x : Job}
    (found : w.manager.job? x.id = some x) (ready : w.manager.canStep w.site.clock x)
    (acts : w.manager.stepJob w.ticked x = (v.manager, v.site))
    (step : JobStep w.manager w.ticked x v.manager v.site)
    (changes : v.manager.changes = w.manager.changes)
    (restarter : v.manager.restarter = w.manager.restarter) (live : w.manager.disposed = false)
    (renews : w.manager.isRenewing) :
    v.manager.isRenewing ∨ ∀ b, ¬ v.manager.Has b := by
  rcases renews with news | gathers | ⟨y, hy, early⟩
  · exact .inl (.inl (by rwa [changes]))
  · exact .inl (.inr (.inl (by rwa [restarter])))
  · obtain ⟨stage, advance⟩ := step.advance
    have jobs := job?_of_jobs found advance.jobs
    by_cases here : restartJob = x.id
    · rw [here] at hy
      obtain rfl := Option.some.inj (found.symm.trans hy)
      obtain ⟨task, bound⟩ := h.gathering.restarting (here ▸ found)
      rcases early with fresh | queued
      · -- it comes for the slot
        have comes : v.manager = (w.manager.enqueue x.id).put x.id .queued := by
          have stepped := congrArg Prod.fst acts
          simpa [stepJob, fresh, beginJob, task] using stepped.symm
        have now : v.manager.job? x.id = some { x with stage := .queued } := by
          rw [comes]
          exact (job?_at rfl found _ x.id).trans (if_pos rfl)
        exact .inl (.inr (.inr ⟨_, here ▸ now, .inr rfl⟩))
      · have gone := not_has_of_restart (s := w.ticked) h.lined found task queued ready live bound
        rw [acts] at gone
        exact .inr gone
    · exact .inl (.inr (.inr ⟨y, by rw [jobs, if_neg here, hy], early⟩))

theorem Sound.live_of_move (h : w.Sound) (live : (w.move next).manager.disposed = false) :
    w.manager.disposed = false := by
  have course := course_move h.lined next
  generalize w.move next = v at live course
  cases course with
  | step turn job found step same =>
    by_contra disposed
    simp [step.disposed (by simpa using disposed)] at live
  | aside manager => exact manager.disposed ▸ live
  | ended => exact live

/-- A server made before is still what was last seen, or a restart is to come. -/
theorem Attended.inputs_stay (h : w.Attended) (live : (w.move next).manager.disposed = false)
    {b : BackendId} (before : w.manager.Has b) (has : (w.move next).manager.Has b)
    {inputs : Inputs} (current : inputs = w.manager.provider.seen ∨ w.manager.isRenewing) :
    inputs = (w.move next).manager.provider.seen ∨ (w.move next).manager.isRenewing := by
  have was_live := h.toSound.live_of_move live
  have stir := stir_move h.lined next
  generalize w.move next = v at has live stir
  cases stir with
  | step go turn job found ready step options acts same =>
    cases options with
    | aside unbound unready provider changes restarter =>
      refine current.imp (fun same => by rw [same, provider]) fun renews => ?_
      exact (h.renewing_step found ready acts step changes restarter was_live renews).resolve_right
        fun gone => gone b has
    | closed _ _ disposed => simp [disposed] at live
    | bound stage | unbound stage => exact absurd before (h.not_has found (.inl ⟨_, stage⟩) b)
    | unread stage | asked stage => exact absurd before (h.not_has found (.inr ⟨_, stage⟩) b)
  | feed feed =>
    rcases current with same | renews
    · exact (feed.seen h).imp_left fun kept => same.trans kept.symm
    · exact .inr (feed.renewing h renews)

/-- The server was made from what was last seen, or a restart is to come. -/
theorem Attended.built_run {start : Moment} (h : start.Attended)
    (none : ∀ b, ¬ start.manager.Has b) (moves : List Move)
    (live : (start.run moves).manager.disposed = false) {b : BackendId}
    (has : (start.run moves).manager.Has b) :
    ∃ options inputs, start.Built moves b options inputs ∧
      (inputs = (start.run moves).manager.provider.seen ∨
        (start.run moves).manager.isRenewing) := by
  induction moves using List.reverseRecOn with
  | nil => exact absurd has (none b)
  | append_singleton moves next ih =>
    have attended := h.run moves
    rw [run_append] at live has ⊢
    rcases attended.builds has with old | ⟨options, builds⟩
    · obtain ⟨options, inputs, built, current⟩ :=
        ih (attended.toSound.live_of_move live) old
      exact ⟨options, inputs, built.append [next], attended.inputs_stay live old has current⟩
    · exact ⟨options, _, ⟨moves, next, [], rfl, builds⟩, .inl rfl⟩

/-! The settled manager. -/

/-- Every job is over, no duty has anything to do, and none waits for a time. -/
def isSettled (w : Moment) : Prop :=
  w.isIdle ∧ ∀ duty ∈ duties, w.isReady duty = false ∧ w.manager.deadline duty = none

theorem isSettled.no_restart (h : w.isSettled) : w.manager.job? restartJob = none := by
  cases found : w.manager.job? restartJob with
  | none => rfl
  | some x =>
    have ready := (h.2 .restart (by simp [duties])).1
    obtain ⟨id, task, stage⟩ := x
    have done := h.1 _ (mem_of_job? found)
    cases stage <;> simp_all [Job.isDone, isReady, Manager.isReady, outcome?]

theorem Attended.not_renewing (h : w.Attended) (settled : w.isSettled) :
    ¬ w.manager.isRenewing := by
  have idle := settled.no_restart
  rintro (⟨b, changes, news⟩ | ⟨d, gathers, phase⟩ | ⟨x, hx, _⟩)
  · have ready := (settled.2 .forward (by simp [duties])).1
    simp [isReady, Manager.isReady, changes, news] at ready
  · have waits := (settled.2 .restart (by simp [duties])).2
    have busy := (h.gathering.busy gathers).2
    rcases phase with ⟨due, phase⟩ | phase
    · simp [Manager.deadline, idle, gathers, Debouncer.due?, phase] at waits
    · simp [idle, phase] at busy
  · simp [idle] at hx

/-- Nothing is left to be looked at. -/
theorem isSettled.not_due (settled : w.isSettled) {k : Watch}
    (watch : w.manager.provider.watch = some k) (source : Source) : ¬ k.isDue source := by
  have news : k.settings.isEmpty ∧ k.environment.isEmpty := by
    have ready := (settled.2 (.options .listen) (by simp [duties])).1
    simp [isReady, Manager.isReady, Provider.isReady, Provider.hasNews, watch] at ready
    exact ready.1
  have settings := (settled.2 (.options .checkSettings) (by simp [duties])).2
  have environment := (settled.2 (.options .checkEnvironment) (by simp [duties])).2
  simp only [Manager.deadline, Provider.deadline, watch, Option.bind_some] at settings environment
  cases source with
  | settings =>
    rintro (⟨due, phase⟩ | minds)
    · simp [Debouncer.due?, phase] at settings
    · have empty := news.1
      simp only [Inbox.isEmpty, Bool.and_eq_true, List.isEmpty_iff, beq_iff_eq] at empty
      simp [Inbox.receipts, empty] at minds
  | environment =>
    rintro (⟨due, phase⟩ | some)
    · simp [Debouncer.due?, phase] at environment
    · simp [news.2] at some

theorem host_of_isSteady (lined : w.manager.Lined) (steady : next.isSteady) :
    (w.move next).site.host = w.site.host := by
  rcases surroundings_move lined next with ⟨same, _⟩ | ⟨host, plan, rfl, _⟩
  · exact same
  · simp [Move.isSteady] at steady

theorem host_run_of_isSteady (lined : w.manager.Lined) {moves : List Move}
    (steady : ∀ next ∈ moves, next.isSteady) : (w.run moves).site.host = w.site.host := by
  induction moves generalizing w with
  | nil => rfl
  | cons next moves ih =>
    have same := host_of_isSteady lined (steady next (by simp))
    exact (ih (lined_move lined next) fun next mem => steady next (by simp [mem])).trans same

/-- Where nothing changes there is nothing to announce. -/
theorem announced_append {scope : Scope} (lined : w.manager.Lined) {before after : List Move}
    (steady : ∀ next ∈ before, next.isSteady) (announced : (w.run before).Announced scope after) :
    w.Announced scope (before ++ after) := by
  induction before generalizing w with
  | nil => exact announced
  | cons next before ih =>
    have same := host_of_isSteady lined (steady next (by simp))
    refine ⟨fun source differs => absurd ?_ differs,
      ih (lined_move lined next) (fun next mem => steady next (by simp [mem])) announced⟩
    rw [same]
    cases source <;> rfl

/-- What holds of the surroundings that there are in the run holds throughout. -/
theorem throughout_of_changes {P : Host → (BackendName → Plan) → Prop} (lined : w.manager.Lined)
    (now : P w.site.host w.site.plan) {moves : List Move}
    (changes : ∀ host plan, .change host plan ∈ moves → P host plan) :
    w.Throughout (fun u => P u.site.host u.site.plan) moves := by
  induction moves generalizing w with
  | nil => exact now
  | cons next moves ih =>
    refine ⟨now, ih (lined_move lined next) ?_ fun host plan mem =>
      changes host plan (by simp [mem])⟩
    rcases surroundings_move lined next with ⟨host, plan⟩ | ⟨_, _, rfl, host, plan⟩
    · rwa [host, plan]
    · rw [host, plan]
      exact changes _ _ (by simp)

/-- The same surroundings, with one more path to search. -/
def pathHost : Host := { plainHost with settings := fun _ => { extraPaths := ["lib"] } }

/-- The scope of a file without a folder. -/
def looseScope : Scope := ⟨none, none, ⟨"/usr/bin/python", none⟩⟩

/-- A first start has its server coming up. -/
def firstStart : List Move := [.ask (.start looseScope), .take (.job 1), .go, .go, .go, .go, .yield]

/-- A change is announced and noticed, and the server is replaced. -/
def noticedChange : List Move :=
  [.hear (.settings ⟨["python.analysis"]⟩), .take (.options .listen), .go, .yield,
    .wait 5, .take (.job 1), .go, .yield,
    .wait 1000, .take (.options .checkSettings), .go, .yield, .take .forward, .go, .yield,
    .wait 1000, .take .restart, .go, .go, .go, .go, .go, .yield,
    .wait 5, .take .restart, .go, .go, .yield]

/-- The whole run. -/
def changeDuringStart : List Move := firstStart ++ .change pathHost slowPlan :: noticedChange

end Moment

end Manager

end LanguageBroker
