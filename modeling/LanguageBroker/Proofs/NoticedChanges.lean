import LanguageBroker.Proofs.Disposal
import LanguageBroker.Proofs.WatchedOptions

/-!
The changes that a provider announces beside all that was ever done with it. What it keeps of the
past is one set of inputs, of which every reading replaces a part or the whole; a reading that fails
replaces nothing, though the scope may be another one from then on. A check announces a change
exactly if it reads something else than the last reading that came about.
-/

namespace LanguageBroker.Provider

/-- What can be done with a provider. -/
inductive Deed
  | bind (scope : Scope)
  | options
  | duty (duty : Duty)
  | hear (e : WorkspaceEvent)
  | dispose

/-- Something that was done, and when. -/
structure Visit where
  deed : Deed
  host : Host
  clock : Clock := {}

/-- The provider after a visit, and how many changes it has announced. -/
def visit (p : Provider) (v : Visit) : Provider × Nat :=
  match v.deed with
  | .bind scope => ((p.bindScope v.host scope).1, 0)
  | .options => ((p.options v.host).1, 0)
  | .duty duty => p.act v.host v.clock duty
  | .hear e => (p.hear e, 0)
  | .dispose => (p.dispose, 0)

/-- All visits, the latest first. -/
abbrev History := List Visit

namespace History

/-- The provider that has had all of them. -/
def provider (variant : Variant) : History → Provider
  | [] => { variant }
  | v :: earlier => ((provider variant earlier).visit v).1

/-- The scope that was bound last, whether or not the environment could be read then. -/
def scope? : History → Option Scope
  | [] => none
  | v :: earlier =>
    match v.deed with
    | .bind scope => some scope
    | _ => scope? earlier

def resource (past : History) : Option Uri := past.scope?.bind (·.resource)

end History

namespace Visit

/-- Whose environment a visit asks for, if it asks for one. -/
def target? (v : Visit) (past : History) : Option (Option Uri) :=
  match v.deed with
  | .bind scope => some scope.resource
  | .options => past.scope?.map (·.resource)
  | .duty .checkEnvironment => some past.resource
  | _ => none

/-- The environment that a visit has read. -/
def environment? (v : Visit) (past : History) : Option String :=
  (v.target? past).bind fun resource => (v.host.modules resource).toOption

/-- The inputs that a visit has observed in the settings. One that asks for the environment too
observes nothing when that fails. -/
def settings? (variant : Variant) (v : Visit) (past : History) : Option Inputs :=
  match v.deed with
  | .bind scope => (v.environment? past).map (Options.inputs v.host variant scope.resource)
  | .options => (v.environment? past).map (Options.inputs v.host variant past.resource)
  | .duty .checkSettings => some (Options.inputs v.host variant past.resource "")
  | _ => none

end Visit

namespace History

/-- The environment as it was last read. -/
def environment? : History → Option String
  | [] => none
  | v :: earlier => (v.environment? earlier).or (environment? earlier)

/-- The inputs that were last observed in the settings. -/
def settings? (variant : Variant) : History → Option Inputs
  | [] => none
  | v :: earlier => (v.settings? variant earlier).or (settings? variant earlier)

/-- The provider was bound to a scope when the environment could be read. -/
def Bound (past : History) : Prop :=
  ∃ v ∈ past, ∃ scope modules, v.deed = .bind scope ∧ v.host.modules scope.resource = .ok modules

/-- At no time can any environment be read. -/
def Outage (past : History) : Prop :=
  ∀ v ∈ past, ∀ resource modules, v.host.modules resource ≠ .ok modules

end History

/-- Are these the same inputs from the settings? -/
def SameSettings (i j : Inputs) : Prop :=
  i.excluded = j.excluded ∧ i.typesheds = j.typesheds ∧ i.extraPaths = j.extraPaths

instance (i j : Inputs) : Decidable (SameSettings i j) := inferInstanceAs (Decidable (_ ∧ _ ∧ _))

variable {p : Provider} {variant : Variant} {past : History} {v : Visit} {i j : Inputs}

theorem SameSettings.refl (i : Inputs) : SameSettings i i := ⟨rfl, rfl, rfl⟩

theorem SameSettings.congr_left (same : SameSettings i j) (k : Inputs) :
    SameSettings i k ↔ SameSettings j k := by
  simp only [SameSettings, same.1, same.2.1, same.2.2]

theorem eq_inputs_iff (i : Inputs) (h : Host) (variant : Variant) (resource : Option Uri)
    (modules : String) : i = Options.inputs h variant resource i.modules ↔
      SameSettings i (Options.inputs h variant resource modules) := by
  cases i
  simp [SameSettings, Options.inputs]

theorem visit_duty (p : Provider) (duty : Duty) (h : Host) (clock : Clock) :
    p.visit ⟨.duty duty, h, clock⟩ = p.act h clock duty := rfl

/-- A visit binds the provider to another scope, or to none other. -/
theorem visit_bound (p : Provider) (v : Visit) : (p.visit v).1.variant = p.variant ∧
    (p.visit v).1.scope = match v.deed with | .bind scope => some scope | _ => p.scope := by
  obtain ⟨deed, host, clock⟩ := v
  cases deed with
  | bind scope => cases read : host.modules scope.resource <;> simp [visit, bindScope, read]
  | options =>
    cases bound : p.scope with
    | none => simp [visit, options, bound]
    | some scope =>
      cases made : Options.make host p.variant scope <;> simp [visit, options, bound, made]
  | duty duty => exact act_bound p host clock duty
  | hear e => exact ⟨rfl, rfl⟩
  | dispose => exact ⟨rfl, rfl⟩

theorem seen_bindScope (p : Provider) (h : Host) (scope : Scope) :
    (p.bindScope h scope).1.seen = ((h.modules scope.resource).toOption.map
      (Options.inputs h p.variant scope.resource)).getD p.seen := by
  cases read : h.modules scope.resource <;> simp [bindScope, read, Except.toOption]

theorem seen_options (p : Provider) (h : Host) :
    (p.options h).1.seen = ((p.scope.bind fun scope => (h.modules scope.resource).toOption).map
      (Options.inputs h p.variant p.resource)).getD p.seen := by
  cases bound : p.scope with
  | none => simp [options, bound]
  | some scope =>
    cases read : h.modules scope.resource <;>
      simp [options, Options.make, Provider.resource, bound, read, Except.toOption]

theorem seen_listen (p : Provider) (h : Host) (clock : Clock) :
    (p.act h clock .listen).1.seen = p.seen := by
  cases watch : p.watch <;> simp [act, listen, watch]

theorem seen_checkSettings (p : Provider) (h : Host) (clock : Clock) :
    (p.act h clock .checkSettings).1.seen =
      Options.inputs h p.variant p.resource p.seen.modules := by
  rw [act_checkSettings]

theorem seen_checkEnvironment (p : Provider) (h : Host) (clock : Clock) :
    (p.act h clock .checkEnvironment).1.seen =
      { p.seen with modules := (h.modules p.resource).toOption.getD p.seen.modules } := by
  cases read : h.modules p.resource with
  | error e => simp [act_checkEnvironment_error read, Except.toOption]
  | ok modules => simp [act_checkEnvironment read, Except.toOption]

/-- What a provider keeps of its past. -/
structure Recalls (p : Provider) (v : Variant) (past : History) : Prop where
  variant : p.variant = v
  scope : p.scope = past.scope?
  modules : p.seen.modules = past.environment?.getD ""
  settings : SameSettings p.seen ((past.settings? v).getD {})

theorem recalls_new (variant : Variant) : Recalls { variant } variant [] :=
  ⟨rfl, rfl, rfl, .refl _⟩

namespace Recalls

theorem resource (h : p.Recalls variant past) : p.resource = past.resource := by
  rw [Provider.resource, h.scope, History.resource]

theorem environment?_options (h : p.Recalls variant past) (host : Host) (clock : Clock) :
    Visit.environment? ⟨.options, host, clock⟩ past =
      p.scope.bind fun scope => (host.modules scope.resource).toOption := by
  rw [h.scope]
  cases bound : past.scope? <;> simp [Visit.environment?, Visit.target?, bound]

/-- The environment seen last is the one that a visit has read, or the one seen before. -/
theorem modules_visit (h : p.Recalls variant past) (v : Visit) :
    (p.visit v).1.seen.modules = (v.environment? past).getD p.seen.modules := by
  obtain ⟨deed, host, clock⟩ := v
  cases deed with
  | bind scope =>
    rw [visit, seen_bindScope, Visit.environment?, Visit.target?, Option.bind_some]
    cases (host.modules scope.resource).toOption <;> rfl
  | options =>
    rw [visit, seen_options, h.environment?_options]
    cases p.scope.bind fun scope => (host.modules scope.resource).toOption <;> rfl
  | duty duty =>
    cases duty with
    | listen => exact congrArg Inputs.modules (seen_listen p host clock)
    | checkSettings =>
      rw [visit_duty, seen_checkSettings]
      rfl
    | checkEnvironment =>
      rw [visit_duty, seen_checkEnvironment, Visit.environment?, Visit.target?, Option.bind_some,
        h.resource]
  | hear e => rfl
  | dispose => rfl

/-- So are the inputs from the settings. -/
theorem settings_visit (h : p.Recalls variant past) (v : Visit) :
    SameSettings (p.visit v).1.seen ((v.settings? variant past).getD p.seen) := by
  obtain ⟨deed, host, clock⟩ := v
  cases deed with
  | bind scope =>
    rw [visit, seen_bindScope, h.variant]
    exact .refl _
  | options =>
    rw [visit, seen_options, h.variant, h.resource, ← h.environment?_options host clock]
    exact .refl _
  | duty duty =>
    cases duty with
    | listen =>
      rw [visit, seen_listen]
      exact .refl _
    | checkSettings =>
      rw [visit_duty, seen_checkSettings, h.variant, h.resource]
      exact ⟨rfl, rfl, rfl⟩
    | checkEnvironment =>
      rw [visit_duty, seen_checkEnvironment]
      exact ⟨rfl, rfl, rfl⟩
  | hear e => exact .refl _
  | dispose => exact .refl _

theorem visit (h : p.Recalls variant past) (v : Visit) :
    (p.visit v).1.Recalls variant (v :: past) where
  variant := (p.visit_bound v).1.trans h.variant
  scope := by
    rw [(p.visit_bound v).2, History.scope?]
    cases v.deed <;> first | rfl | exact h.scope
  modules := by
    rw [h.modules_visit, h.modules, History.environment?]
    cases v.environment? past <;> rfl
  settings := by
    have now := h.settings_visit v
    rw [History.settings?]
    cases observed : v.settings? variant past with
    | none =>
      rw [observed, Option.getD_none] at now
      exact (now.congr_left _).mpr h.settings
    | some i => rwa [observed] at now

end Recalls

theorem recalls_provider (variant : Variant) (past : History) :
    (past.provider variant).Recalls variant past := by
  induction past with
  | nil => exact recalls_new variant
  | cons v earlier ih => exact ih.visit v

namespace History

theorem Bound.environment? (bound : past.Bound) : ∃ modules, past.environment? = some modules := by
  obtain ⟨v, there, scope, modules, deed, read⟩ := bound
  have reads (earlier : History) : v.environment? earlier = some modules := by
    simp [Visit.environment?, Visit.target?, deed, read, Except.toOption]
  induction past with
  | nil => simp at there
  | cons u earlier ih =>
    rcases List.mem_cons.mp there with rfl | there
    · exact ⟨modules, by simp [History.environment?, reads]⟩
    · obtain ⟨known, last⟩ := ih there
      cases now : u.environment? earlier <;> simp [History.environment?, now, last]

theorem Bound.settings? (bound : past.Bound) (variant : Variant) :
    ∃ i, past.settings? variant = some i := by
  obtain ⟨v, there, scope, modules, deed, read⟩ := bound
  have observes (earlier : History) : v.settings? variant earlier =
      some (Options.inputs v.host variant scope.resource modules) := by
    simp [Visit.settings?, Visit.environment?, Visit.target?, deed, read, Except.toOption]
  induction past with
  | nil => simp at there
  | cons u earlier ih =>
    rcases List.mem_cons.mp there with rfl | there
    · exact ⟨_, by rw [History.settings?, observes]; rfl⟩
    · obtain ⟨known, last⟩ := ih there
      cases now : u.settings? variant earlier <;> simp [History.settings?, now, last]

/-- What was last read stays so in an outage. -/
theorem environment?_append {outage : History} (unread : outage.Outage) (past : History) :
    (outage ++ past).environment? = past.environment? := by
  induction outage with
  | nil => rfl
  | cons v later ih =>
    have failed : v.environment? (later ++ past) = none := by
      rw [Visit.environment?, Option.bind_eq_none_iff]
      intro resource _
      cases read : v.host.modules resource with
      | error => rfl
      | ok modules => exact absurd read (unread v List.mem_cons_self resource modules)
    rw [List.cons_append, environment?, failed, Option.none_or]
    exact ih fun u there => unread u (List.mem_cons_of_mem v there)

end History

/-- A visit that cannot read the environment it asks for announces nothing and leaves all that was
seen as it was. -/
theorem visit_failed {resource : Option Uri} {e : OptionsError} (h : p.Recalls variant past)
    (asked : v.target? past = some resource) (failed : v.host.modules resource = .error e) :
    (p.visit v).2 = 0 ∧ (p.visit v).1.seen = p.seen := by
  obtain ⟨deed, host, clock⟩ := v
  cases deed with
  | bind scope =>
    obtain rfl : scope.resource = resource := by simpa [Visit.target?] using asked
    exact ⟨rfl, by simp [visit, seen_bindScope, failed, Except.toOption]⟩
  | options =>
    obtain ⟨scope, bound, rfl⟩ : ∃ scope, past.scope? = some scope ∧ scope.resource = resource := by
      simpa [Visit.target?] using asked
    exact ⟨rfl, by simp [visit, seen_options, h.scope, bound, failed, Except.toOption]⟩
  | duty duty =>
    cases duty with
    | listen => simp [Visit.target?] at asked
    | checkSettings => simp [Visit.target?] at asked
    | checkEnvironment =>
      obtain rfl : past.resource = resource := by simpa [Visit.target?] using asked
      rw [visit_duty, act_checkEnvironment_error (h.resource ▸ failed)]
      exact ⟨rfl, rfl⟩
  | hear e => simp [Visit.target?] at asked
  | dispose => simp [Visit.target?] at asked

/-- A check of the environment compares it with what was last read. -/
theorem Recalls.checkEnvironment {modules now : String} (h : p.Recalls variant past)
    (known : past.environment? = some modules) {host : Host}
    (read : host.modules past.resource = .ok now) (clock : Clock) :
    (p.act host clock .checkEnvironment).2 = if now = modules then 0 else 1 := by
  have seen : p.seen.modules = modules := by rw [h.modules, known, Option.getD_some]
  rw [act_checkEnvironment (h.resource ▸ read), seen, ite_not]
  exact if_congr eq_comm rfl rfl

/-- A check of the settings compares what comes from them with what was last observed. -/
theorem Recalls.checkSettings (h : p.Recalls variant past)
    (known : past.settings? variant = some i) (host : Host) (clock : Clock) :
    (p.act host clock .checkSettings).2 =
      if SameSettings i (Options.inputs host variant past.resource "") then 0 else 1 := by
  have seen : SameSettings p.seen i := by simpa [known] using h.settings
  rw [act_checkSettings, h.variant, h.resource, ite_not]
  simp only [eq_inputs_iff p.seen host variant past.resource "", seen.congr_left]

/-- Whatever has been done with a provider that was bound at some time, a check announces a change
exactly if it finds something else than was last found by a binding, by reading the options or by a
check: one of the environment compares the environment, one of the settings all that comes from
them. Whoever cannot read the environment announces nothing and leaves all that was seen as it was,
so that the first check after an outage announces what has changed meanwhile. -/
theorem changes_noticed_since_last_reading (variant : Variant) (past : History) (bound : past.Bound)
    (host : Host) (clock : Clock) :
    ∃ modules known, past.environment? = some modules ∧ past.settings? variant = some known ∧
      (∀ now, host.modules past.resource = .ok now →
        ((past.provider variant).act host clock .checkEnvironment).2 =
          if now = modules then 0 else 1) ∧
      (((past.provider variant).act host clock .checkSettings).2 =
        if SameSettings known (Options.inputs host variant past.resource "") then 0 else 1) ∧
      (∀ v : Visit, ∀ resource e, v.target? past = some resource →
        v.host.modules resource = .error e →
          ((past.provider variant).visit v).2 = 0 ∧
            ((past.provider variant).visit v).1.seen = (past.provider variant).seen) ∧
      ∀ outage : History, outage.Outage →
        ∀ now, host.modules (outage ++ past).resource = .ok now →
          ((History.provider variant (outage ++ past)).act host clock .checkEnvironment).2 =
            if now = modules then 0 else 1 := by
  obtain ⟨modules, read⟩ := bound.environment?
  obtain ⟨known, observed⟩ := bound.settings? variant
  have recalls := recalls_provider variant
  refine ⟨modules, known, read, observed,
    fun now finds => (recalls past).checkEnvironment read finds clock,
    (recalls past).checkSettings observed host clock,
    fun v resource e asked failed => visit_failed (recalls past) asked failed,
    fun outage unread now finds => ?_⟩
  have kept := (History.environment?_append unread past).trans read
  exact (recalls (outage ++ past)).checkEnvironment kept finds clock

/-- The environment as it is set, or why it cannot be read. -/
def environmentHost (modules : Except String String) : Host :=
  { Manager.Moment.plainHost with
    environment := fun _ => modules.map fun value => [(Environment.modulePath, value)] }

/-- A provider is bound, and then the environment cannot be read. -/
def outagePast : History :=
  [⟨.duty .checkEnvironment, environmentHost (.error "gone"), {}⟩,
    ⟨.bind ⟨none, none, ⟨"/usr/bin/python", none⟩⟩, environmentHost (.ok "lib"), {}⟩]

/-- The check after that announces what has become of it. -/
theorem change_noticed_after_outage :
    outagePast.Bound ∧
      ((outagePast.provider .simple).act (environmentHost (.ok "src")) {}
        .checkEnvironment).2 = 1 := by
  have bound : outagePast.Bound :=
    ⟨_, List.mem_cons_of_mem _ List.mem_cons_self, _, "lib", rfl, rfl⟩
  obtain ⟨modules, known, last, -, checks, -⟩ :=
    changes_noticed_since_last_reading .simple outagePast bound (environmentHost (.ok "src")) {}
  obtain rfl : modules = "lib" := by
    have read : outagePast.environment? = some "lib" := rfl
    exact Option.some.inj (last.symm.trans read)
  exact ⟨bound, (checks "src" rfl).trans (if_neg (by decide))⟩

end LanguageBroker.Provider
