import LanguageBroker.Proofs.BrokerEnd

/-!
The full servers of one key. Each that is live is the one server of one activation of that key, so
there are as many as activations that have one. An activation that is out of the cache has its
server until the sweep that has evicted it disposes of it; meanwhile another activation may be
begun for the key and start one.
-/

namespace LanguageBroker

namespace Site

theorem made_of_isLive {s : Site} {c : BackendId} (live : s.isLive c) : c < s.backends.length := by
  by_contra beyond
  have none : s.starts c = 0 := tally_of_ge (Nat.le_of_not_lt beyond) _
  exact absurd live.1 (by omega)

end Site

namespace Broker

/-- The activation's manager has the server. -/
def Owns (b : Broker) (a : ActivationId) (c : BackendId) : Prop :=
  ∃ stage m n, b.stage? a = some stage ∧ stage.manager? = some m ∧
    b.managers[m]? = some n ∧ n.Has c

/-- Is a sweep on its way with something that it is to dispose of? -/
def isSweeping (b : Broker) : Bool :=
  (b.errands.any fun x => x.stage.isLaden) ||
    b.managers.any fun n => n.jobs.any fun x => x.task = .dispose && !x.isDone

/-- A live full server of the key. -/
structure Serving (b : Broker) (key : ScopeKey) (c : BackendId) : Prop where
  live : b.site.isLive c
  named : ∃ y, b.site.backend? c = some y ∧ y.name.key = key ∧ y.name.variant.isFull

variable {b : Broker} {a i : ActivationId} {m : ManagerId} {c s : BackendId} {key : ScopeKey}

theorem Owns.unique (h : b.Sound) (one : b.Owns a c) (two : b.Owns a s) : c = s := by
  obtain ⟨stage, m, n, at_stage, named, manager, has⟩ := one
  obtain ⟨_, _, _, also, names, same, also_has⟩ := two
  obtain rfl := Option.some.inj (at_stage.symm.trans also)
  obtain rfl := Option.some.inj (named.symm.trans names)
  obtain rfl := Option.some.inj (manager.symm.trans same)
  exact (h.staffed.clear manager).has_unique (h.kept.lined manager) has also_has

namespace Ordered

/-- A live full server belongs to an activation of its key, and to no other. -/
theorem owner (h : b.Ordered) (serving : b.Serving key c) :
    ∃ a scope stage, b.files[a]? = some (scope, stage) ∧ scope.key = key ∧ b.Owns a c ∧
      ∀ i, b.Owns i c → i = a := by
  obtain ⟨y, hy, rfl, full⟩ := serving.named
  obtain ⟨m, n, manager, has⟩ := h.stocked.kept (Site.made_of_isLive serving.live) serving.live.2
  obtain ⟨_, x, aim, hx, variant, bound, about⟩ := h.stocked.has manager has
  obtain rfl := Option.some.inj (hy.symm.trans hx)
  rcases h.kept.quiet manager with quiet | ⟨a, stage, at_stage, named⟩
  · exact absurd has (quiet.has c)
  · obtain ⟨⟨scope, _⟩, here, rfl⟩ := Option.map_eq_some_iff.mp at_stage
    have aims := h.posted.aims here named manager (variant ▸ full)
    obtain rfl := aims.bound bound
    refine ⟨a, aim, _, here, about.symm, ⟨_, m, n, at_stage, named, manager, has⟩, ?_⟩
    rintro i ⟨other, k, z, at_other, names, also, has'⟩
    obtain rfl := h.stocked.apart manager also has has'
    rcases h.kept.alone at_other at_stage names named with same | ⟨shares, _⟩
    · exact same
    · -- only simple servers are found by several activations
      have known := h.posted.variant at_other names manager
      rw [Activation.Stage.variant?_of_record? shares, ← variant] at known
      obtain simple : Variant.simple = y.name.variant := Option.some.inj known
      simp [← simple, Variant.isFull] at full

end Ordered

/-- Does a sweep wait for the activation or see to its manager? -/
def IsSwept (b : Broker) (a : ActivationId) : Prop :=
  b.Awaited a ∨ ∃ stage m, b.stage? a = some stage ∧ stage.manager? = some m ∧
    (b.Lists m ∨ ∃ n, b.managers[m]? = some n ∧ n.IsDoomed)

/-- As long as no sweep is given up, whoever has a full server is cached or a sweep sees to it. -/
theorem Tended.isIn_or_isSwept (h : b.Tended) (serving : b.Serving key c) (owns : b.Owns a c) :
    b.IsIn a ∨ b.IsSwept a := by
  obtain ⟨o, _, _, _, _, _, only⟩ := h.toOrdered.owner serving
  obtain rfl := only a owns
  obtain ⟨stage, m, n, at_stage, named, manager, has⟩ := owns
  have held_or_swept (held : b.Held a) : b.IsIn a ∨ b.IsSwept a := held.imp_right .inl
  have swept (sees : b.Lists m ∨ ∃ n, b.managers[m]? = some n ∧ n.IsDoomed) :
      b.IsIn a ∨ b.IsSwept a := .inr (.inr ⟨stage, m, at_stage, named, sees⟩)
  rcases h.minded at_stage with held | ⟨settled, minded⟩
  · exact held_or_swept held
  · obtain ⟨r, record, rfl⟩ := Activation.Stage.record?_of_isSettled settled named
    cases minded r record with
    | listed listed => exact swept (.inl listed)
    | doomed also doomed => exact swept (.inr ⟨_, also, doomed⟩)
    | @found i other k held at_other found same =>
      have names := (Activation.Stage.manager?_of_record? found).1
      obtain rfl := only i ⟨other, r.manager, n, at_other, same ▸ names, manager, has⟩
      exact held_or_swept held

theorem Tended.not_isSwept (h : b.Tended) (calm : b.isSweeping = false) (owns : b.Owns a c) :
    ¬ b.IsSwept a := by
  simp only [isSweeping, Bool.or_eq_false_iff, List.any_eq_false] at calm
  have light {e : ErrandId} {stage : Errand.Stage} (found : b.errandStage? e = some stage) :
      stage.isLaden = false := by
    obtain ⟨x, hx, rfl⟩ := Option.map_eq_some_iff.mp found
    simpa using calm.1 x (List.mem_of_find?_eq_some hx)
  rintro (⟨e, stage, found, mem⟩ | ⟨stage, m, at_stage, named, ⟨e, other, r, found, mem, _⟩ |
    ⟨n, manager, doomed⟩⟩)
  · simp [(Errand.Stage.of_light (light found)).2] at mem
  · simp [(Errand.Stage.of_light (light found)).1] at mem
  · obtain ⟨_, k, n', also, names, same, has⟩ := owns
    obtain rfl := Option.some.inj (at_stage.symm.trans also)
    obtain rfl := Option.some.inj (named.symm.trans names)
    obtain rfl := Option.some.inj (manager.symm.trans same)
    have finished {j : JobId} {x : Job} (hx : n.job? j = some x) (task : x.task = .dispose) :
        x.isDone := by
      have jobs := calm.2 n (List.mem_of_getElem? manager)
      simp only [List.any_eq_true, not_exists, not_and] at jobs
      simpa [task] using jobs x (List.mem_of_find?_eq_some hx)
    have disposed := (h.staffed.clear manager).disposed doomed finished
    exact ((h.shut manager).barren disposed finished).has c has

/-- Two activations of one key are not both in the cache. -/
theorem Filed.isIn_unique (h : b.Filed) {scope other : Scope} {stage stage' : Activation.Stage}
    (one : b.files[a]? = some (scope, stage)) (two : b.files[i]? = some (other, stage'))
    (same : scope.key = other.key) (inside : b.IsIn a) (also : b.IsIn i) : a = i := by
  obtain ⟨key, entry⟩ := inside
  obtain ⟨key', entry'⟩ := also
  obtain ⟨x, hx, rfl⟩ := h.entry entry
  obtain ⟨y, hy, rfl⟩ := h.entry entry'
  obtain rfl := Option.some.inj (one.symm.trans hx)
  obtain rfl := Option.some.inj (two.symm.trans hy)
  have found := h.lookup entry
  rw [show scope.key = other.key from same] at found
  exact Option.some.inj (found.symm.trans (h.lookup entry'))

/-- Every live full server is the one server of one activation of its key. Of two that are live for
one key, one belongs to an activation that is out of the cache, and as long as no sweep is given up,
a sweep sees to that activation. So there is no more than one for each key while no sweep is on its
way. -/
theorem full_server_belongs_to_activation (host : Host) (plan : BackendName → Plan) (clock : Clock)
    (moves : List Move) :
    let b := (opening host plan clock).run moves
    (∀ key c, b.Serving key c → ∃ a scope stage, b.files[a]? = some (scope, stage) ∧
      scope.key = key ∧ b.Owns a c ∧ (∀ i, b.Owns i c → i = a) ∧ ∀ s, b.Owns a s → s = c) ∧
    (∀ key c s a i, b.Serving key c → b.Serving key s → c ≠ s → b.Owns a c → b.Owns i s →
      a ≠ i ∧ ¬ (b.IsIn a ∧ b.IsIn i)) ∧
    (never givesUp (opening host plan clock) moves →
      (∀ key c a, b.Serving key c → b.Owns a c → b.IsIn a ∨ b.IsSwept a) ∧
      (b.isSweeping = false → ∀ key c s, b.Serving key c → b.Serving key s → c = s)) := by
  intro b
  have ordered : b.Ordered := (ordered_opening host plan clock).run moves
  have apart (key : ScopeKey) (c s : BackendId) (a i : ActivationId) (one : b.Serving key c)
      (two : b.Serving key s) (other : c ≠ s) (owns : b.Owns a c) (also : b.Owns i s) :
      a ≠ i ∧ ¬ (b.IsIn a ∧ b.IsIn i) := by
    have differs : a ≠ i := by
      rintro rfl
      exact other (owns.unique ordered.toSound also)
    obtain ⟨o, scope, stage, here, bound, _, only⟩ := ordered.owner one
    obtain ⟨p, scope', stage', there, bound', _, only'⟩ := ordered.owner two
    obtain rfl := only a owns
    obtain rfl := only' i also
    exact ⟨differs, fun both => differs (ordered.filed.isIn_unique here there
      (bound.trans bound'.symm) both.1 both.2)⟩
  refine ⟨fun key c serving => ?_, apart, fun careful => ?_⟩
  · obtain ⟨a, scope, stage, here, bound, owns, only⟩ := ordered.owner serving
    exact ⟨a, scope, stage, here, bound, owns, only,
      fun s also => also.unique ordered.toSound owns⟩
  · have tended : b.Tended := (tended_opening host plan clock).run careful
    refine ⟨fun key c a serving owns => tended.isIn_or_isSwept serving owns,
      fun calm key c s one two => ?_⟩
    by_contra other
    obtain ⟨a, _, _, _, _, owns, _⟩ := ordered.owner one
    obtain ⟨i, _, _, _, _, also, _⟩ := ordered.owner two
    refine (apart key c s a i one two other owns also).2 ⟨?_, ?_⟩
    · exact (tended.isIn_or_isSwept one owns).resolve_right (tended.not_isSwept calm owns)
    · exact (tended.isIn_or_isSwept two also).resolve_right (tended.not_isSwept calm also)

/-- A lookup starts a full server, and the interpreters have changed. -/
def stale : List Move := coming ++ [.entrust (.sweep .interpreters)]

/-- The sweep evicts the activation, and another lookup starts a full server of the same key. -/
def again : List Move :=
  List.replicate 2 (.errand 1) ++ [.entrust (.find none (some python)), .errand 2] ++
    List.replicate 8 (.agent (.activation 1))

/-- The first activation is over, and the sweep disposes of what it has found. -/
def clearing : List Move :=
  List.replicate 2 (.agent (.activation 0)) ++ List.replicate 8 (.errand 1)

private theorem move_stale : ((opening fullHost (fun _ => {}) {}).run stale).move (.errand 1) =
    (((opening fullHost (fun _ => {}) {}).run stale).ticked.putErrand 1
      (.surveying [.of none python] [] [])).tidy :=
  move_survey (e := 1) _ (by decide) rfl rfl rfl (by decide)

/-- Two servers of one key are live while the sweep waits for the activation of the first, and one
is left when the sweep is over. -/
theorem two_servers_during_sweep :
    let b := (opening fullHost (fun _ => {}) {}).run (stale ++ .errand 1 :: again)
    let d := (opening fullHost (fun _ => {}) {}).run (stale ++ .errand 1 :: (again ++ clearing))
    (b.Serving (.of none python) 0 ∧ b.Serving (.of none python) 1 ∧ b.isSweeping) ∧
    (¬ (b.IsIn 0 ∧ b.IsIn 1) ∧ (b.IsIn 0 ∨ b.IsSwept 0)) ∧
    d.isSweeping = false ∧ d.Serving (.of none python) 1 ∧
      ∀ s, d.Serving (.of none python) s → s = 1 := by
  intro b d
  have run (moves : List Move) : (opening fullHost (fun _ => {}) {}).run
      (stale ++ .errand 1 :: moves) = (((opening fullHost (fun _ => {}) {}).run stale).move
        (.errand 1)).run moves := by
    rw [run_append, run_cons]
  rw [move_stale] at run
  have first : b.Serving (.of none python) 0 := by
    rw [show b = _ from run again]
    exact ⟨⟨by decide +kernel, by decide +kernel⟩, _, rfl, rfl, rfl⟩
  have second : b.Serving (.of none python) 1 := by
    rw [show b = _ from run again]
    exact ⟨⟨by decide +kernel, by decide +kernel⟩, _, rfl, rfl, rfl⟩
  have sweeping : b.isSweeping := by
    rw [show b = _ from run again]
    decide
  have owns : b.Owns 0 0 := by
    rw [show b = _ from run again]
    exact ⟨_, 0, _, rfl, rfl, rfl, .inl rfl⟩
  have also : b.Owns 1 1 := by
    rw [show b = _ from run again]
    exact ⟨_, 1, _, rfl, rfl, rfl, .inl rfl⟩
  have careful : never givesUp (opening fullHost (fun _ => {}) {})
      (stale ++ .errand 1 :: (again ++ clearing)) := by
    rw [never_append, never, move_stale]
    decide
  have early : never givesUp (opening fullHost (fun _ => {}) {}) (stale ++ .errand 1 :: again) := by
    rw [← List.cons_append, ← List.append_assoc, never_append, Bool.and_eq_true] at careful
    exact careful.1
  have calm : d.isSweeping = false := by
    rw [show d = _ from run (again ++ clearing)]
    decide
  have left : d.Serving (.of none python) 1 := by
    rw [show d = _ from run (again ++ clearing)]
    exact ⟨⟨by decide +kernel, by decide +kernel⟩, _, rfl, rfl, rfl⟩
  obtain ⟨_, apart, sees⟩ := full_server_belongs_to_activation fullHost (fun _ => {}) {}
    (stale ++ .errand 1 :: again)
  obtain ⟨_, _, alone⟩ := full_server_belongs_to_activation fullHost (fun _ => {}) {}
    (stale ++ .errand 1 :: (again ++ clearing))
  refine ⟨⟨first, second, sweeping⟩, ⟨(apart _ 0 1 0 1 first second (by simp) owns also).2,
    (sees early).1 _ 0 0 first owns⟩, calm, left, fun s serving => ?_⟩
  exact (alone careful).2 calm _ s 1 serving left

end Broker

end LanguageBroker
