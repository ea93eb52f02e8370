import LanguageBroker.Proofs.BrokerMoves

/-!
Everything that one move can do to a broker, as far as its managers, activations, cache, simple
server and errands go. Whatever is proved of a broker's life is proved once for each of these
changes.
-/

namespace LanguageBroker.Broker

/-- The same but for what the managers do aside, for times and for what is only told outside. -/
structure Alike (b c : Broker) : Prop where
  activations : c.activations.map (fun x => (x.scope, x.stage)) =
    b.activations.map fun x => (x.scope, x.stage)
  cache : c.cache = b.cache
  simple : c.simple = b.simple
  line : c.simpleLine = b.simpleLine
  errands : c.errands.map (fun x => (x.id, x.task, x.stage)) =
    b.errands.map fun x => (x.id, x.task, x.stage)
  next : c.nextErrand = b.nextErrand
  length : c.managers.length = b.managers.length
  managers : ∀ {m : ManagerId} {x y}, b.managers[m]? = some x → c.managers[m]? = some y →
    x.Aside x.renews y
  site : b.site.Calm c.site
  /-- The watch has taken on no errands but sweeps of its own. -/
  watched : ∀ {e}, c.isWatched e → b.isWatched e ∨
    ∃ stage, (e, .sweep .interpreters, stage) ∈ c.errands.map fun x => (x.id, x.task, x.stage)

def setManager (b : Broker) (m : ManagerId) (x : Manager) : Broker :=
  { b with managers := b.managers.set m x }

/-- A manager whose first start is asked for. -/
def starting (variant : Variant) (scope : Scope) : Manager :=
  ((Manager.new variant).ask (.start scope)).1

/-- A new manager is to start a server for the activation. -/
def launch (b : Broker) (a : ActivationId) (variant : Variant) (scope : Scope)
    (stage : ManagerId → JobId → Activation.Stage) : Broker :=
  { b with managers := b.managers ++ [starting variant scope] }.putActivation a
    (stage b.managers.length 1)

/-- The scope is that of a resource in the surroundings. -/
def Locates (host : Host) (scope : Scope) : Prop :=
  ∃ resource interpreter, locate host resource interpreter = .ok scope

/-- What one step does. `sight` is what a sweep makes in it of what it has found. -/
inductive Change (sight : Option Sight) (b : Broker) : Broker → Prop
  | rest : Change sight b b
  /-- A job of a manager takes a step. -/
  | job {m : ManagerId} {x n : Manager} {y : Job} {t : Site} {clock : Clock}
      (manager : b.managers[m]? = some x) (found : x.job? y.id = some y)
      (ready : x.canStep clock y) (step : x.JobStep b.site y n t) :
      Change sight b { b.setManager m n with site := t }
  /-- An activation tries something. -/
  | turn {a : ActivationId} {x : Activation} {stage : Activation.Stage}
      (found : b.activations[a]? = some x) (before : x.stage.isEarly) (after : stage.isEarly)
      (moved : stage ≠ .fresh)
      (tries : ∀ variant, stage.tries? = some variant →
        variant.isFull ∨ x.stage.tries? = some variant) : Change sight b (b.putActivation a stage)
  /-- An activation comes for the simple server. -/
  | queue {a : ActivationId} {x : Activation} (found : b.activations[a]? = some x)
      (before : x.stage.isEarly) : Change sight b (b.turnToSimple a)
  /-- The full server of an activation is about to be started. -/
  | launchFull {a : ActivationId} {x : Activation} {variant : Variant}
      (found : b.activations[a]? = some x) (before : x.stage = .launchingFull variant) :
      Change sight b (b.launch a variant x.scope (.startingFull variant))
  /-- An activation that has got hold of the simple server starts one. -/
  | launchSimple {a : ActivationId} {x : Activation} (found : b.activations[a]? = some x)
      (before : x.stage = .queuedSimple) (first : b.isFirst (.activation a))
      (free : ∀ r, b.simple = some r → b.isDisposed r.manager) :
      Change sight b (b.launch a .simple x.scope .startingSimple)
  /-- A first start has failed, and its manager is to be disposed of. -/
  | fail {a : ActivationId} {x : Activation} {m : ManagerId} {j : JobId} {n : Manager} {y : Job}
      {stage : Activation.Stage} (found : b.activations[a]? = some x)
      (before : x.stage.starts? = some (m, j)) (manager : b.managers[m]? = some n)
      (ended : n.job? j = some y) (failed : ∃ cause, y.stage = .done (.failed cause))
      (after : stage.settles? = some (m, ((n.forget j).ask .dispose).2))
      (same : stage.isLined = x.stage.isLined) (tries : stage.tries? = x.stage.tries?) :
      Change sight b ((b.setManager m ((n.forget j).ask .dispose).1).putActivation a stage)
  /-- A full server has started. -/
  | win {a : ActivationId} {x : Activation} {variant : Variant} {m : ManagerId} {j : JobId}
      {n : Manager} {y : Job} (found : b.activations[a]? = some x)
      (before : x.stage = .startingFull variant m j) (manager : b.managers[m]? = some n)
      (ended : n.job? j = some y) (done : y.isDone) :
      Change sight b
        ((b.setManager m (n.forget j)).putActivation a (.concluding (.ok ⟨variant, m⟩)))
  /-- The simple server has started, and is shared from now on. -/
  | winSimple {a : ActivationId} {x : Activation} {m : ManagerId} {j : JobId} {n : Manager}
      {y : Job} (found : b.activations[a]? = some x) (before : x.stage = .startingSimple m j)
      (manager : b.managers[m]? = some n) (ended : n.job? j = some y) (done : y.isDone) :
      Change sight b (({ b.setManager m (n.forget j) with
        simple := some ⟨.simple, m⟩ }.leaveLine (.activation a)).putActivation a
          (.concluding (.ok ⟨.simple, m⟩)))
  /-- An activation that has got hold of the simple server shares it. -/
  | share {a : ActivationId} {x : Activation} {r : Record} (found : b.activations[a]? = some x)
      (before : x.stage = .queuedSimple) (first : b.isFirst (.activation a))
      (shared : b.simple = some r) (live : b.isDisposed r.manager = false) :
      Change sight b ((b.leaveLine (.activation a)).putActivation a (.concluding (.ok r)))
  /-- There are no simple servers. -/
  | refuse {a : ActivationId} {x : Activation} {cause : ActivationError}
      (found : b.activations[a]? = some x) (before : x.stage = .queuedSimple) :
      Change sight b ((b.leaveLine (.activation a)).putActivation a (.concluding (.error cause)))
  /-- The manager of a full server that did not start is disposed of. -/
  | fallBack {a : ActivationId} {x : Activation} {variant : Variant} {m : ManagerId} {j : JobId}
      {cause : ActivationError} {n : Manager} {y : Job} (found : b.activations[a]? = some x)
      (before : x.stage = .cleaningFull variant m j cause) (manager : b.managers[m]? = some n)
      (ended : n.job? j = some y) (done : y.isDone) :
      Change sight b ((b.setManager m (n.forget j)).turnToSimple a)
  /-- The manager of a simple server that did not start is disposed of. -/
  | giveUp {a : ActivationId} {x : Activation} {m : ManagerId} {j : JobId}
      {cause : ActivationError} {n : Manager} {y : Job} (found : b.activations[a]? = some x)
      (before : x.stage = .cleaningSimple m j cause) (manager : b.managers[m]? = some n)
      (ended : n.job? j = some y) (done : y.isDone) :
      Change sight b (((b.setManager m (n.forget j)).leaveLine (.activation a)).putActivation a
        (.concluding (.error cause)))
  /-- An activation is over. -/
  | settle {a : ActivationId} {x : Activation} {result : Except ActivationError Record}
      (found : b.activations[a]? = some x) (before : x.stage = .concluding result) :
      Change sight b (b.putActivation a (.settled result))
  | entrust {task : Errand.Task} (known : b.knows task) : Change sight b (b.entrust task).1
  | forget (e : ErrandId)
      (free : ∀ x, b.errand? e = some x → x.stage.isLaden → sight = some .lost) :
      Change sight b (b.forgetErrand e)
  /-- An errand finds the activation of its scope. -/
  | enter {e : ErrandId} {x : Errand} {scope : Scope} {stage : Errand.Stage}
      (found : b.errand? e = some x) (before : x.stage = .fresh)
      (after : stage = .awaiting (b.entry scope).2 ∨
        stage = .done (.prepared (b.entry scope).2))
      (located : Locates b.site.host scope) :
      Change sight b ((b.entry scope).1.putErrand e stage)
  /-- An errand hears how its activation has ended. -/
  | tell {e : ErrandId} {x : Errand} {a : ActivationId} {outcome : Errand.Outcome}
      (found : b.errand? e = some x) (before : x.stage = .awaiting a)
      (result : (∃ r, b.result? a = some (.ok r) ∧ outcome = .found r) ∨
        ∃ c, b.result? a = some (.error c) ∧ outcome = .failed c) :
      Change sight b (b.putErrand e (.done outcome))
  | pass {e : ErrandId} {x : Errand} {stage : Errand.Stage} (found : b.errand? e = some x)
      (passes : x.stage.Passes stage)
      (kept : ∀ r ∈ x.stage.records, r ∈ stage.records ∨ b.isInUse r.manager)
      (idle : x.stage.job? = none) :
      Change sight b (b.putErrand e stage)
  /-- An errand asks a manager for its server. -/
  | inquire {e : ErrandId} {x : Errand} {r : Record} {n : Manager}
      (found : b.errand? e = some x) (before : x.stage = .fresh) (task : x.task.record? = some r)
      (manager : b.managers[r.manager]? = some n) :
      Change sight b ((b.setManager r.manager (n.ask .lookUp).1).putErrand e
        (.asking r.manager (n.ask .lookUp).2))
  /-- A job that an errand waited for is over. -/
  | answer {e : ErrandId} {x : Errand} {m : ManagerId} {j : JobId} {stage : Errand.Stage}
      {n : Manager} {y : Job} (found : b.errand? e = some x)
      (before : x.stage.job? = some (m, j)) (manager : b.managers[m]? = some n)
      (ended : n.job? j = some y) (done : y.isDone) (passes : x.stage.Passes stage)
      (kept : x.stage.records ⊆ stage.records) :
      Change sight b ((b.forgetJob m j).putErrand e stage)
  /-- An evicted activation is over. -/
  | gather {e : ErrandId} {x : Errand} {a : ActivationId} {left : List ActivationId}
      {records : List Record} {evicted : List ScopeKey} (found : b.errand? e = some x)
      (before : x.stage = .gathering (a :: left) records evicted) (ended : (b.result? a).isSome) :
      Change sight b (b.putErrand e (.gathering left (b.gather a records) evicted))
  | evict {e : ErrandId} {stale : List ScopeKey}
      (before : ∀ x, b.errand? e = some x → x.stage.isSeeking)
      (there : b.errand? e = none → sight = some .lost) :
      Change sight b (b.beginEviction e stale)
  /-- An errand sees no use of a simple server and comes for it. -/
  | look {e : ErrandId} {x : Errand} {r : Record} {left : List Record} {evicted : List ScopeKey}
      (found : b.errand? e = some x) (before : x.stage = .releasing (r :: left) evicted)
      (simple : r.variant = .simple) (unused : b.isInUse r.manager = false)
      (here : sight = some (.unused r.manager)) :
      Change sight b ((b.joinLine (.errand e)).putErrand e (.queuedSimple r left evicted))
  /-- An errand disposes of a full server. -/
  | release {e : ErrandId} {x : Errand} {r : Record} {left : List Record}
      {evicted : List ScopeKey} (found : b.errand? e = some x)
      (before : x.stage = .releasing (r :: left) evicted) (full : r.variant ≠ .simple) :
      Change sight b (b.beginDisposal e r.manager left evicted)
  /-- An errand has got hold of the simple server and disposes of it. -/
  | discard {e : ErrandId} {x : Errand} {r : Record} {left : List Record}
      {evicted : List ScopeKey} (found : b.errand? e = some x)
      (before : x.stage = .queuedSimple r left evicted) (first : b.isFirst (.errand e))
      (here : sight = some (.dropped r.manager)) :
      Change sight b ((b.dropSimple e r).beginDisposal e r.manager left evicted)

namespace Alike

variable {b c d : Broker}

/-- Only the managers differ, and what does not matter. -/
theorem of_managers (activations : c.activations.map (fun x => (x.scope, x.stage)) =
      b.activations.map fun x => (x.scope, x.stage))
    (cache : c.cache = b.cache) (simple : c.simple = b.simple) (line : c.simpleLine = b.simpleLine)
    (errands : c.errands.map (fun x => (x.id, x.task, x.stage)) =
      b.errands.map fun x => (x.id, x.task, x.stage))
    (next : c.nextErrand = b.nextErrand) (managers : c.managers = b.managers)
    (site : b.site.Calm c.site)
    (watched : ∀ {e}, c.isWatched e → b.isWatched e ∨
      ∃ stage, (e, .sweep .interpreters, stage) ∈ c.errands.map (fun x => (x.id, x.task, x.stage))
      := by exact .inl) :
    Alike b c where
  activations := activations
  cache := cache
  simple := simple
  line := line
  errands := errands
  next := next
  length := by rw [managers]
  managers hx hy := by
    rw [managers, hx] at hy
    obtain rfl := Option.some.inj hy
    exact .of_jobs rfl rfl rfl rfl rfl rfl rfl rfl id
  site := site
  watched := watched

theorem later (h : Alike b c) {m : ManagerId} {x : Manager} (found : b.managers[m]? = some x) :
    ∃ y, c.managers[m]? = some y ∧ x.Aside x.renews y := by
  have inside : m < c.managers.length := h.length ▸ (List.getElem?_eq_some_iff.mp found).1
  have here := List.getElem?_eq_getElem inside
  exact ⟨_, here, h.managers found here⟩

theorem before (h : Alike b c) {m : ManagerId} {y : Manager} (found : c.managers[m]? = some y) :
    ∃ x, b.managers[m]? = some x ∧ x.Aside x.renews y := by
  have inside : m < b.managers.length := h.length ▸ (List.getElem?_eq_some_iff.mp found).1
  have here := List.getElem?_eq_getElem inside
  exact ⟨_, here, h.managers here found⟩

theorem refl (b : Broker) : Alike b b := of_managers rfl rfl rfl rfl rfl rfl rfl (.refl _)

theorem trans (h : Alike b c) (h' : Alike c d) : Alike b d where
  activations := h'.activations.trans h.activations
  cache := h'.cache.trans h.cache
  simple := h'.simple.trans h.simple
  line := h'.line.trans h.line
  errands := h'.errands.trans h.errands
  next := h'.next.trans h.next
  length := h'.length.trans h.length
  managers hx hz := by
    obtain ⟨y, hy, aside⟩ := h'.before hz
    exact (h.managers hx hy).renews aside
  site := h.site.trans h'.site
  watched watched := by
    rcases h'.watched watched with before | new
    · rw [h'.errands]
      exact h.watched before
    · exact .inr new

/-- The managers out of reach are silenced. -/
theorem tidy (b : Broker) : Alike b b.tidy where
  activations := rfl
  cache := rfl
  simple := rfl
  line := rfl
  errands := rfl
  next := rfl
  length := by simp [Broker.tidy]
  managers {m x y} hx hy := by
    simp only [Broker.tidy, List.getElem?_map, List.getElem?_zipIdx, hx, Option.map_some,
      Option.some.injEq] at hy
    obtain rfl := hy
    split
    · exact .of_jobs rfl rfl rfl rfl rfl rfl rfl rfl fun _ => rfl
    · exact .of_jobs rfl rfl rfl rfl rfl rfl rfl rfl id
  site := .refl _
  watched := .inl

/-- One manager does something aside. -/
theorem setManager {m : ManagerId} {x n : Manager} (found : b.managers[m]? = some x)
    (aside : x.Aside x.renews n) : Alike b (b.setManager m n) where
  activations := rfl
  cache := rfl
  simple := rfl
  line := rfl
  errands := rfl
  next := rfl
  length := by simp [Broker.setManager]
  managers {i y z} hy hz := by
    simp only [Broker.setManager, List.getElem?_set] at hz
    split at hz
    · next here =>
      subst here
      obtain rfl := Option.some.inj (found.symm.trans hy)
      split at hz
      · obtain rfl := Option.some.inj hz
        exact aside
      · simp at hz
    · obtain rfl := Option.some.inj (hy.symm.trans hz)
      exact .of_jobs rfl rfl rfl rfl rfl rfl rfl rfl id
  site := .refl _
  watched := .inl

end Alike

end LanguageBroker.Broker
