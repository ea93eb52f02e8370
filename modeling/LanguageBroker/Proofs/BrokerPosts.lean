import LanguageBroker.Proofs.ServerOwners

/-!
What activations have their managers for. The manager of an activation is for the variant that the
activation tries or has found, and a full server's manager is bound to the activation's scope.
-/

namespace LanguageBroker

/-- The variant of the manager that the activation has to do with. -/
def Activation.Stage.variant? : Activation.Stage → Option Variant
  | .startingFull variant _ _ | .cleaningFull variant _ _ _ => some variant
  | .startingSimple .. | .cleaningSimple .. => some .simple
  | .concluding (.ok record) | .settled (.ok record) => some record.variant
  | _ => none

namespace Activation.Stage

variable {stage old : Activation.Stage}

/-- Whatever the stage has to do with, the old one had to do with in the same way. -/
structure Inherits (stage old : Activation.Stage) : Prop where
  manager : ∀ {m}, stage.manager? = some m → old.manager? = some m ∧ stage.variant? = old.variant?
  tries : ∀ {variant}, stage.tries? = some variant →
    variant.isFull ∨ old.tries? = some variant

theorem Inherits.refl (stage : Activation.Stage) : stage.Inherits stage :=
  ⟨fun manager => ⟨manager, rfl⟩, .inr⟩

theorem Inherits.of_idle (manager : stage.manager? = none) (tries : stage.tries? = none) :
    stage.Inherits old := ⟨by simp [manager], by simp [tries]⟩

theorem variant?_of_record? {r : Record} (record : stage.record? = some r) :
    stage.variant? = some r.variant := by
  cases stage with
  | concluding result | settled result => cases result <;> simp_all [record?, variant?]
  | _ => simp [record?] at record

theorem variant?_of_starts? {m i : ManagerId} {j k : JobId} (starts : old.starts? = some (m, j))
    (settles : stage.settles? = some (i, k)) (lined : stage.isLined = old.isLined)
    (tries : stage.tries? = old.tries?) : stage.variant? = old.variant? := by
  cases old <;> simp [starts?] at starts <;> cases stage <;> simp [settles?] at settles <;>
    simp_all [isLined, tries?, variant?]

end Activation.Stage

namespace Broker

variable {b c d : Broker} {a : ActivationId} {m : ManagerId} {lost : Prop}
  {sight : Option Sight} {scope : Scope} {stage : Activation.Stage}

theorem stage?_of_file (found : b.files[a]? = some (scope, stage)) : b.stage? a = some stage := by
  simp [stage?, found]

/-- How an activation has come to its stage. -/
inductive Post (b c : Broker) (scope : Scope) (stage : Activation.Stage)
    (old : Activation.Stage) : Prop
  | inherits (same : stage.Inherits old) : Post b c scope stage old
  | shared (r : Record) (record : stage = .concluding (.ok r)) (simple : b.simple = some r) :
      Post b c scope stage old
  | launched (variant : Variant) (manager : stage.manager? = some b.managers.length)
      (about : stage.variant? = some variant) (tries : ∀ v, stage.tries? = some v →
        old.tries? = some v) (managers : c.managers = b.managers ++ [starting variant scope]) :
      Post b c scope stage old

private theorem file_put {s : Broker} {i : ActivationId} {x : Activation}
    {new : Activation.Stage} (found : b.activations[i]? = some x) (files : s.files = b.files)
    (here : (s.putActivation i new).files[a]? = some (scope, stage))
    (post : scope = x.scope → stage = new → Post b c scope stage x.stage) :
    ∃ old, b.files[a]? = some (scope, old) ∧ Post b c scope stage old := by
  rw [files_putActivation, files, List.getElem?_modify] at here
  split at here
  · next same =>
    subst same
    have was : b.files[i]? = some (x.scope, x.stage) := by simp [Broker.files, found]
    rw [was] at here
    obtain ⟨rfl, rfl⟩ := Prod.mk.inj (Option.some.inj here)
    exact ⟨x.stage, was, post rfl rfl⟩
  · cases was : b.files[a]? with
    | none => simp [was] at here
    | some y =>
      obtain rfl : y = (scope, stage) := by simpa [was] using here
      exact ⟨stage, rfl, .inherits (.refl stage)⟩

/-- An activation is new, or has come to its stage in one of these ways. -/
theorem Change.post (change : Change sight b c) (found : c.files[a]? = some (scope, stage)) :
    stage = .fresh ∧ Locates b.site.host scope ∨
      ∃ old, b.files[a]? = some (scope, old) ∧ Post b c scope stage old := by
  have same (files : c.files = b.files) : stage = .fresh ∧ Locates b.site.host scope ∨
      ∃ old, b.files[a]? = some (scope, old) ∧ Post b c scope stage old :=
    .inr ⟨stage, files ▸ found, .inherits (.refl stage)⟩
  cases change with
  | turn hx before after moved tries =>
    refine .inr (file_put hx rfl found fun _ same => .inherits ⟨fun manager => ?_, fun tried => ?_⟩)
    · subst same
      simp [(Activation.Stage.of_isEarly after).1] at manager
    · exact tries _ (same ▸ tried)
  | queue hx =>
    exact .inr (file_put (s := b.joinLine _) hx rfl found fun _ same =>
      .inherits (same ▸ .of_idle rfl rfl))
  | @launchFull i x variant hx before =>
    refine .inr (file_put (s := { b with managers := _ }) hx rfl found fun about same => ?_)
    subst same about
    exact .launched variant rfl rfl (fun v tried => by rw [before]; exact tried) rfl
  | @launchSimple i x hx before =>
    refine .inr (file_put (s := { b with managers := _ }) hx rfl found fun about same => ?_)
    subst same about
    exact .launched .simple rfl rfl (fun v tried => by simp [Activation.Stage.tries?] at tried) rfl
  | @fail i x k j n y new hx before manager ended failed after lined tries =>
    refine .inr (file_put (s := b.setManager _ _) hx rfl found fun _ same => ?_)
    subst same
    have named := (Activation.Stage.manager?_of_starts? before).1
    have also := (Activation.Stage.manager?_of_settles? after).1
    refine .inherits ⟨fun manager => ⟨?_, ?_⟩, fun tried => .inr (tries ▸ tried)⟩
    · rw [named, ← also, manager]
    · exact Activation.Stage.variant?_of_starts? before after lined tries
  | win hx before =>
    refine .inr (file_put (s := b.setManager _ _) hx rfl found fun _ same => ?_)
    subst same
    rw [before]
    exact .inherits ⟨fun manager => ⟨manager, rfl⟩, by simp [Activation.Stage.tries?]⟩
  | @winSimple i x k j n y hx before =>
    refine .inr (file_put (s := { b.setManager k (n.forget j) with
      simple := some ⟨.simple, k⟩ }.leaveLine (.activation i)) hx rfl found fun _ same => ?_)
    subst same
    rw [before]
    exact .inherits ⟨fun manager => ⟨manager, rfl⟩, fun tried => .inr tried⟩
  | share hx before first shared =>
    exact .inr (file_put (s := b.leaveLine _) hx rfl found fun _ same => .shared _ same shared)
  | refuse hx =>
    exact .inr (file_put (s := b.leaveLine _) hx rfl found fun _ same =>
      .inherits (same ▸ .of_idle rfl rfl))
  | @fallBack i x variant k j cause n y hx =>
    exact .inr (file_put (s := (b.setManager k (n.forget j)).joinLine _) hx rfl found
      fun _ same => .inherits (same ▸ .of_idle rfl rfl))
  | @giveUp i x k j cause n y hx =>
    exact .inr (file_put (s := (b.setManager k (n.forget j)).leaveLine _) hx rfl found
      fun _ same => .inherits (same ▸ .of_idle rfl rfl))
  | @settle i x result hx before =>
    refine .inr (file_put (s := b) hx rfl found fun _ same => ?_)
    subst same
    rw [before]
    cases result <;> exact .inherits ⟨fun manager => ⟨manager, rfl⟩, fun tried => .inr tried⟩
  | @enter e x about new _ _ _ located =>
    rcases entry_cases b about with unchanged | ⟨_, begins⟩
    · rw [unchanged] at found
      exact .inr ⟨stage, found, .inherits (.refl stage)⟩
    · rw [begins] at found
      have here : (b.files ++ [(about, Activation.Stage.fresh)])[a]? = some (scope, stage) :=
        (congrArg (fun l => l[a]?) (files_append b about)).symm.trans found
      rw [List.getElem?_append] at here
      split at here
      · exact .inr ⟨stage, here, .inherits (.refl stage)⟩
      · obtain ⟨rfl, rfl⟩ := Prod.mk.inj (List.mem_singleton.mp (List.mem_of_getElem? here))
        exact .inl ⟨rfl, located⟩
  | forget e => exact same (files_forgetErrand b e).1
  | release => exact same (files_beginDisposal ..).1
  | discard => exact same (files_beginDisposal ..).1
  | _ => exact same rfl

structure Posted (b : Broker) : Prop where
  full : ∀ {a stage variant}, b.stage? a = some stage → stage.tries? = some variant →
    variant.isFull
  variant : ∀ {a : ActivationId} {stage : Activation.Stage} {m : ManagerId} {n : Manager},
    b.stage? a = some stage → stage.manager? = some m → b.managers[m]? = some n →
      stage.variant? = some n.variant
  aims : ∀ {a : ActivationId} {scope : Scope} {stage : Activation.Stage} {m : ManagerId}
    {n : Manager}, b.files[a]? = some (scope, stage) → stage.manager? = some m →
      b.managers[m]? = some n → n.variant.isFull → n.Aims scope

namespace Posted

theorem change (h : b.Posted) (sound : b.Sound) (change : Change sight b c) : c.Posted := by
  have staffing := sound.staffed.staffing sound.kept change
  -- a manager that an activation had to do with is an old one
  have before {m : ManagerId} {n : Manager} {a : ActivationId} {old : Activation.Stage}
      (at_old : b.stage? a = some old) (named : old.manager? = some m)
      (hn : c.managers[m]? = some n) :
      ∃ x, b.managers[m]? = some x ∧ x.Turn (sight = some .lost) b.site n := by
    rcases staffing.before hn with known | ⟨rfl, _⟩
    · exact known
    · exact absurd (sound.kept.within at_old named) (Nat.lt_irrefl _)
  have file {a : ActivationId} {stage : Activation.Stage} (at_stage : c.stage? a = some stage) :
      ∃ scope, c.files[a]? = some (scope, stage) := by
    obtain ⟨⟨scope, _⟩, here, rfl⟩ := Option.map_eq_some_iff.mp at_stage
    exact ⟨scope, here⟩
  -- only the simple server is shared
  have shared {r : Record} {n : Manager} (simple : b.simple = some r)
      (hn : c.managers[r.manager]? = some n) : r.variant = .simple ∧ n.variant = .simple := by
    obtain ⟨⟨i, other, at_other, record⟩, variant⟩ := sound.kept.simple simple
    have names := (Activation.Stage.manager?_of_record? record).1
    obtain ⟨x, hx, turn⟩ := before at_other names hn
    have about := h.variant at_other names hx
    rw [Activation.Stage.variant?_of_record? record, variant] at about
    exact ⟨variant, turn.variant.trans (Option.some.inj about).symm⟩
  refine ⟨fun {a stage v} at_stage tries => ?full, fun {a stage m n} at_stage named hn => ?variant,
    fun {a scope stage m n} here named hn full => ?aims⟩
  case full =>
    obtain ⟨scope, here⟩ := file at_stage
    rcases change.post here with ⟨rfl, _⟩ | ⟨old, was, post⟩
    · simp [Activation.Stage.tries?] at tries
    · cases post with
      | inherits same =>
        rcases same.tries tries with full | tried
        · exact full
        · exact h.full (stage?_of_file was) tried
      | shared r record simple => simp [record, Activation.Stage.tries?] at tries
      | launched _ _ _ tried _ => exact h.full (stage?_of_file was) (tried v tries)
  case variant =>
    obtain ⟨scope, here⟩ := file at_stage
    rcases change.post here with ⟨rfl, _⟩ | ⟨old, was, post⟩
    · simp [Activation.Stage.manager?] at named
    · have at_old := stage?_of_file was
      cases post with
      | inherits same =>
        obtain ⟨named, about⟩ := same.manager named
        obtain ⟨x, hx, turn⟩ := before at_old named hn
        rw [about, h.variant at_old named hx, turn.variant]
      | shared r record simple =>
        subst record
        obtain rfl := Option.some.inj named
        obtain ⟨variant, also⟩ := shared simple hn
        rw [also, ← variant]
        rfl
      | launched variant last about _ managers =>
        obtain rfl := Option.some.inj (last.symm.trans named)
        rw [managers, List.getElem?_append_right (Nat.le_refl _)] at hn
        obtain rfl : starting variant scope = n := by simpa using hn
        exact about
  case aims =>
    rcases change.post here with ⟨rfl, _⟩ | ⟨old, was, post⟩
    · simp [Activation.Stage.manager?] at named
    · have at_old := stage?_of_file was
      cases post with
      | inherits same =>
        obtain ⟨named, about⟩ := same.manager named
        obtain ⟨x, hx, turn⟩ := before at_old named hn
        exact turn.aims (sound.kept.lined hx) (h.aims was named hx (turn.variant ▸ full))
      | shared r record simple =>
        subst record
        obtain rfl := Option.some.inj named
        rw [(shared simple hn).2] at full
        simp [Variant.isFull] at full
      | launched variant last about _ managers =>
        obtain rfl := Option.some.inj (last.symm.trans named)
        rw [managers, List.getElem?_append_right (Nat.le_refl _)] at hn
        obtain rfl : starting variant scope = n := by simpa using hn
        exact Manager.aims_starting variant scope

theorem alike (h : b.Posted) (sound : b.Sound) (alike : Alike b c) : c.Posted := by
  have files : c.files = b.files := alike.activations
  have stages := stage?_congr (b := b) files
  refine ⟨fun at_stage tries => h.full (stages _ ▸ at_stage) tries, fun at_stage named hn => ?_,
    fun here named hn full => ?_⟩
  · obtain ⟨x, hx, aside⟩ := alike.before hn
    rw [h.variant (stages _ ▸ at_stage) named hx, aside.variant]
  · obtain ⟨x, hx, aside⟩ := alike.before hn
    have shift : x.Shift False _ := .aside aside
    exact shift.aims (sound.kept.lined hx) (h.aims (files ▸ here) named hx (aside.variant ▸ full))

end Posted

theorem posted_opening (host : Host) (plan : BackendName → Plan) (clock : Clock) :
    Posted (opening host plan clock) where
  full at_stage := by simp [opening, stage?, files] at at_stage
  variant at_stage := by simp [opening, stage?, files] at at_stage
  aims here := by simp [opening, files] at here

/-- The managers and servers are in order, and activations have the managers that they want. -/
structure Ordered (b : Broker) : Prop extends b.Sound where
  posted : b.Posted

namespace Ordered

theorem move (h : b.Ordered) (next : Move) : (b.move next).Ordered := by
  refine (h.kept.moves next).keeps h (fun h same => ?_) fun h change => ?_
  · exact ⟨h.toSound.alike same, h.posted.alike h.toSound same⟩
  · exact ⟨h.toSound.change change, h.posted.change h.toSound change⟩

theorem run (h : b.Ordered) (moves : List Move) : (b.run moves).Ordered :=
  run_induction (fun _ next h => h.move next) h moves

end Ordered

theorem ordered_opening (host : Host) (plan : BackendName → Plan) (clock : Clock) :
    Ordered (opening host plan clock) :=
  ⟨sound_opening host plan clock, posted_opening host plan clock⟩

end Broker

end LanguageBroker
