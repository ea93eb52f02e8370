import LanguageBroker.Proofs.ActivationReport
import LanguageBroker.Proofs.ScopeServers

/-!
Who has got hold of the simple server. Whoever has it, to start one, stands first in line, and then
no server is shared. So there is one manager in front at a time: that of the server that is shared,
or that of the activation that starts one.
-/

namespace LanguageBroker

/-- Has the activation got hold of the simple server, to start one? -/
def Activation.Stage.holdsSimple : Activation.Stage → Bool
  | .startingSimple .. | .cleaningSimple .. => true
  | _ => false

namespace Activation.Stage

variable {stage : Activation.Stage} {m : ManagerId} {j : JobId}

theorem isLined_of_holdsSimple (holds : stage.holdsSimple) : stage.isLined := by
  cases stage <;> simp_all [holdsSimple, isLined]

theorem holdsSimple_of_starts? (starts : stage.starts? = some (m, j)) (lined : stage.isLined) :
    stage.holdsSimple := by
  cases stage <;> simp_all [starts?, isLined, holdsSimple]

theorem manager?_of_holdsSimple (holds : stage.holdsSimple) : ∃ m, stage.manager? = some m := by
  cases stage <;> simp_all [holdsSimple, manager?]

/-- An activation that has to do with a simple server has got hold of it or has found one. -/
theorem of_simple (simple : stage.variant? = some .simple)
    (full : ∀ variant, stage.tries? = some variant → variant.isFull) :
    stage.holdsSimple ∨ ∃ r, stage.record? = some r ∧ r.variant = .simple := by
  cases stage with
  | startingFull variant | cleaningFull variant =>
    obtain rfl := Option.some.inj simple
    simpa [Variant.isFull] using full _ rfl
  | startingSimple | cleaningSimple => exact .inl rfl
  | concluding result | settled result =>
    cases result with
    | ok r => exact .inr ⟨r, rfl, Option.some.inj simple⟩
    | error cause => simp [variant?] at simple
  | _ => simp [variant?] at simple

end Activation.Stage

namespace Broker

variable {b c d : Broker} {a : ActivationId} {m : ManagerId} {r : Record} {s : BackendId}
  {sight : Option Sight} {stage : Activation.Stage}

/-! Who has got hold of the simple server. -/

/-- How an activation has come by what it has to do with the simple server. -/
inductive Access (b c : Broker) (a : ActivationId) (stage : Activation.Stage) : Prop
  | before {old : Activation.Stage} (found : b.stage? a = some old)
      (holds : stage.holdsSimple → old.holdsSimple)
      (record : ∀ {r}, stage.record? = some r → old.record? = some r) : Access b c a stage
  | fresh (begun : stage = .fresh) : Access b c a stage
  /-- A full server has started. -/
  | won {variant : Variant} {m : ManagerId} {j : JobId}
      (found : b.stage? a = some (.startingFull variant m j))
      (after : stage = .concluding (.ok ⟨variant, m⟩)) : Access b c a stage
  /-- It shares the server from now on. -/
  | shares {r : Record} (after : stage = .concluding (.ok r)) (shared : c.simple = some r) :
      Access b c a stage
  /-- It has got hold of the server and starts one. -/
  | gets {m : ManagerId} {j : JobId} (after : stage = .startingSimple m j)
      (first : b.isFirst (.activation a)) (free : ∀ r, b.simple = some r → b.isDisposed r.manager)
      (simple : c.simple = b.simple) (line : c.simpleLine = b.simpleLine) : Access b c a stage

private theorem access_put {s : Broker} {i : ActivationId} {x : Activation} {new : Activation.Stage}
    (found : b.activations[i]? = some x) (files : s.files = b.files)
    (here : (s.putActivation i new).stage? a = some stage)
    (own : a = i → stage = new → Access b c a new) : Access b c a stage := by
  rw [stage?_putActivation ((stage?_congr files i).trans (stage?_of_activation found))] at here
  split at here
  · next same =>
    obtain rfl := Option.some.inj here
    exact own same rfl
  · exact .before ((stage?_congr files a).symm.trans here) id id

theorem Change.access (change : Change sight b c) (found : c.stage? a = some stage) :
    Access b c a stage := by
  have same (files : c.files = b.files) : Access b c a stage :=
    .before ((stage?_congr files a).symm.trans found) id id
  -- an activation that goes on without hold of the server
  have idle {i : ActivationId} {x : Activation} {new : Activation.Stage}
      (hx : b.activations[i]? = some x) (here : a = i) (holds : new.holdsSimple = false)
      (record : ∀ {r}, new.record? = some r → x.stage.record? = some r) : Access b c a new :=
    .before (here ▸ stage?_of_activation hx) (by simp [holds]) record
  cases change with
  | turn hx before after =>
    obtain ⟨named, record, _, _⟩ := Activation.Stage.of_isEarly after
    refine access_put hx rfl found fun here _ => idle hx here ?_ (by simp [record])
    by_contra holds
    obtain ⟨m, has⟩ := Activation.Stage.manager?_of_holdsSimple (by simpa using holds)
    simp [named] at has
  | queue hx =>
    exact access_put (s := b.joinLine _) hx rfl found fun here _ =>
      idle hx here rfl (by simp [Activation.Stage.record?])
  | launchFull hx =>
    exact access_put (s := { b with managers := _ }) hx rfl found fun here _ =>
      idle hx here rfl (by simp [Activation.Stage.record?])
  | launchSimple hx before first free =>
    exact access_put (s := { b with managers := _ }) hx rfl found fun here _ =>
      .gets rfl (here ▸ first) free rfl rfl
  | fail hx before manager _ _ after lined =>
    refine access_put (s := b.setManager _ _) hx rfl found fun here _ => ?_
    refine .before (here ▸ stage?_of_activation hx) (fun holds => ?_)
      (by simp [(Activation.Stage.manager?_of_settles? after).2.1])
    exact Activation.Stage.holdsSimple_of_starts? before
      (lined ▸ Activation.Stage.isLined_of_holdsSimple holds)
  | win hx before =>
    exact access_put (s := b.setManager _ _) hx rfl found fun here _ =>
      .won (here ▸ before ▸ stage?_of_activation hx) rfl
  | @winSimple i x m j n y hx =>
    exact access_put (s := { b.setManager m (n.forget j) with
      simple := some ⟨.simple, m⟩ }.leaveLine (.activation i)) hx rfl found fun _ _ =>
        .shares rfl rfl
  | share hx before first shared =>
    exact access_put (s := b.leaveLine _) hx rfl found fun _ _ => .shares rfl shared
  | refuse hx =>
    exact access_put (s := b.leaveLine _) hx rfl found fun here _ =>
      idle hx here rfl (by simp [Activation.Stage.record?])
  | @fallBack i x variant m j cause n y hx =>
    exact access_put (s := (b.setManager m (n.forget j)).joinLine _) hx rfl found fun here _ =>
      idle hx here rfl (by simp [Activation.Stage.record?])
  | @giveUp i x m j cause n y hx =>
    exact access_put (s := (b.setManager m (n.forget j)).leaveLine _) hx rfl found fun here _ =>
      idle hx here rfl (by simp [Activation.Stage.record?])
  | @settle i x result hx before =>
    refine access_put (s := b) hx rfl found fun here _ => idle hx here rfl fun {r} record => ?_
    rw [before]
    cases result <;> exact record
  | @enter e x scope =>
    rcases entry_cases b scope with same | ⟨_, same⟩
    · rw [same] at found
      exact .before found id id
    · rw [same] at found
      have stages := stage?_append b scope (b.cache ++ [(scope.key, b.activations.length)])
      have at_stage := (stages a).symm.trans found
      split at at_stage
      · exact .fresh (Option.some.inj at_stage).symm
      · exact .before at_stage id id
  | forget e => exact same (files_forgetErrand b e).1
  | release => exact same (files_beginDisposal ..).1
  | discard => exact same (files_beginDisposal ..).1
  | _ => exact same rfl

private theorem head?_filter {t : Ticket} {l : List Ticket} {p : Ticket → Bool}
    (head : l.head? = some t) (stays : p t) : (l.filter p).head? = some t := by
  obtain ⟨rest, rfl⟩ := List.head?_eq_some_iff.mp head
  simp [stays]

/-- Whoever stands first in line does so until it is out of it. -/
theorem Lining.isFirst (lining : Lining b c) (first : b.isFirst (.activation a))
    (found : c.stage? a = some stage) (lined : stage.isLined) : c.isFirst (.activation a) := by
  simp only [Broker.isFirst, beq_iff_eq] at first ⊢
  cases lining with
  | rest line => rw [line, first]
  | join _ _ line => rw [line, List.head?_append, first]; rfl
  | @part i other out line stages =>
    have differs : a ≠ i := by
      rintro rfl
      rw [stages, if_pos rfl] at found
      obtain rfl := Option.some.inj found
      simp [out] at lined
    rw [line]
    exact head?_filter first (by simpa using differs)
  | leave line => rw [line]; exact head?_filter first (by simp)
  | come _ _ line => rw [line, List.head?_append, first]; rfl

/-- Two that stand first in line are the same. -/
theorem isFirst_unique {i : ActivationId} (one : b.isFirst (.activation a))
    (two : b.isFirst (.activation i)) : a = i := by
  simp only [isFirst, beq_iff_eq] at one two
  simpa using Option.some.inj (one.symm.trans two)

/-- Whoever has got hold of the simple server stands first in line, and no server is shared. The
manager of the one that is shared is not disposed of. -/
structure Led (b : Broker) : Prop where
  alive : ∀ {r n}, b.simple = some r → b.managers[r.manager]? = some n → ¬ n.IsDoomed
  first : ∀ {a stage}, b.stage? a = some stage → stage.holdsSimple → b.isFirst (.activation a)
  free : ∀ {a stage}, b.stage? a = some stage → stage.holdsSimple → b.simple = none

namespace Led

theorem change (led : b.Led) (h : b.Kept) (change : Change sight b c) : c.Led := by
  refine ⟨change.not_doomed_of_simple h led.alive, fun {a stage} found holds => ?first,
    fun {a stage} found holds => ?free⟩
  case first =>
    cases change.access found with
    | before was had =>
      exact change.lining.isFirst (led.first was (had holds)) found
        (Activation.Stage.isLined_of_holdsSimple holds)
    | gets _ first _ _ line =>
      unfold isFirst at first ⊢
      rwa [line]
    | fresh after | won _ after | shares after =>
      simp [after, Activation.Stage.holdsSimple] at holds
  case free =>
    cases change.access found with
    | @before old was had =>
      rw [Option.eq_none_iff_forall_ne_some]
      intro r shared
      rcases change.simple h shared with before |
        ⟨i, other, j, at_other, starts, lined, after, _⟩
      · simp [led.free was (had holds)] at before
      · -- whoever has started the server was first in line and is out of it
        have also := Activation.Stage.holdsSimple_of_starts? starts lined
        obtain rfl := isFirst_unique (led.first was (had holds)) (led.first at_other also)
        obtain rfl := Option.some.inj (found.symm.trans after)
        simp [Activation.Stage.holdsSimple] at holds
    | gets _ _ free simple =>
      rw [simple, Option.eq_none_iff_forall_ne_some]
      intro r shared
      have manager := List.getElem?_eq_getElem (h.recorded_within (h.simple shared).1)
      refine led.alive shared manager (.inl ?_)
      simpa [isDisposed, manager] using free r shared
    | fresh after | won _ after | shares after =>
      simp [after, Activation.Stage.holdsSimple] at holds

theorem alike (led : b.Led) (alike : Alike b c) : c.Led where
  alive shared manager doomed := by
    obtain ⟨x, hx, aside⟩ := alike.before manager
    exact led.alive (alike.simple ▸ shared) hx (doomed_of_aside aside.mild doomed)
  first {a stage} found holds := by
    have first := led.first ((stage?_congr alike.activations a).symm.trans found) holds
    unfold isFirst at first ⊢
    rwa [alike.line]
  free {a stage} found holds :=
    alike.simple.trans (led.free ((stage?_congr alike.activations a).symm.trans found) holds)

end Led

/-- The manager of the server that is shared, or of the one that an activation starts because none
is. -/
def Fronts (b : Broker) (m : ManagerId) : Prop :=
  b.simple = some ⟨.simple, m⟩ ∨ b.simple = none ∧ ∃ a stage, b.stage? a = some stage ∧
    stage.holdsSimple ∧ stage.manager? = some m

theorem Led.fronts_unique (led : b.Led) {i : ManagerId} (one : b.Fronts m) (two : b.Fronts i) :
    m = i := by
  rcases one with shared | ⟨none, a, stage, found, holds, named⟩ <;>
    rcases two with also | ⟨free, k, other, at_other, has, names⟩
  · exact congrArg Record.manager (Option.some.inj (shared.symm.trans also))
  · simp [shared] at free
  · simp [also] at none
  · obtain rfl := isFirst_unique (led.first found holds) (led.first at_other has)
    obtain rfl := Option.some.inj (found.symm.trans at_other)
    exact Option.some.inj (named.symm.trans names)

/-- The broker is in order, also for what the simple server is concerned. -/
structure Guarded (b : Broker) : Prop extends b.Ordered where
  led : b.Led

namespace Guarded

theorem change (h : b.Guarded) (change : Change sight b c) : c.Guarded :=
  ⟨⟨h.toSound.change change, h.posted.change h.toSound change⟩, h.led.change h.kept change⟩

theorem alike (h : b.Guarded) (alike : Alike b c) : c.Guarded :=
  ⟨⟨h.toSound.alike alike, h.posted.alike h.toSound alike⟩, h.led.alike alike⟩

theorem run (h : b.Guarded) (moves : List Move) : (b.run moves).Guarded :=
  run_induction (fun _ next h => (h.kept.moves next).keeps h (fun h same => h.alike same)
    fun h change => h.change change) h moves

end Guarded

theorem guarded_opening (host : Host) (plan : BackendName → Plan) (clock : Clock) :
    Guarded (opening host plan clock) where
  toOrdered := ordered_opening host plan clock
  led := ⟨fun shared => by simp [opening] at shared,
    fun found => by simp [opening, stage?, files] at found,
    fun found => by simp [opening, stage?, files] at found⟩

end Broker

end LanguageBroker
