import LanguageBroker.Proofs.SimpleLead

/-!
How activations start the simple server. As long as no sweep drops it, one manager has one simple
server at a time: that of the activation that has got hold of it, until its start has succeeded, and
then the one that all activations share. An activation whose start has failed leaves nothing to the
next one in line.
-/

namespace LanguageBroker

theorem Variant.ne_simple {variant : Variant} (full : variant.isFull) : variant ≠ .simple := by
  rintro rfl
  simp [isFull] at full

/-- A simple server has started, so the activation had got hold of it and has found it now. -/
theorem Activation.Step.of_won {old stage : Activation.Stage} {k : Log} {m : ManagerId}
    (step : Activation.Step old k stage) (won : .start ⟨.simple, m⟩ none ∈ k.answers)
    (full : ∀ variant, old.tries? = some variant → variant.isFull) :
    (∃ j, old = .startingSimple m j) ∧ stage = .concluding (.ok ⟨.simple, m⟩) := by
  cases step with
  | win =>
    obtain ⟨same, _⟩ : Variant.simple = _ ∧ m = _ := by simpa using won
    exact absurd same.symm (Variant.ne_simple (full _ rfl))
  | winSimple =>
    obtain rfl : m = _ := by simpa using won
    exact ⟨⟨_, rfl⟩, rfl⟩
  | _ => simp at won

/-- An activation that has failed has tried to get a simple server once, and failed as this try. -/
theorem Verdict.simple_tries {prefers supported : Bool} {variant : Variant} {tries : List Attempt}
    {cause : ActivationError} (verdict : Verdict prefers variant supported tries (.error cause))
    (full : variant.isFull) :
    tries.filter (·.1 = .simple) = [(.simple, .error cause)] := by
  have other := Variant.ne_simple full
  cases verdict with
  | simple before => cases before <;> simp [other]

/-- The first start by which a try has failed. -/
theorem Log.start_of_tries {l : Log} {e : ManagerError}
    (tried : (.simple, .error (.start .simple e)) ∈ l.tries) :
    ∃ m, .start ⟨.simple, m⟩ (some e) ∈ l.answers := by
  obtain ⟨answer, mem, about⟩ := List.mem_filterMap.mp tried
  unfold Answer.attempt? at about
  split at about <;> simp at about
  next record cause =>
    obtain ⟨variant, m⟩ := record
    obtain ⟨rfl, _, rfl⟩ := about
    exact ⟨m, mem⟩

/-- An activation makes one manager for a simple server at most. -/
theorem Log.simple_made {l : Log} {variant : Variant} {r : Record} (full : variant.isFull)
    (variants : l.variants.Sublist [variant, .simple]) (made : r ∈ l.made)
    (simple : r.variant = .simple) : l.made.filter (·.variant = .simple) = [r] := by
  have other := Variant.ne_simple full
  have most : (l.made.filter (·.variant = .simple)).length ≤ 1 := by
    have count := variants.count_le (a := Variant.simple)
    simpa [Log.variants, List.count, List.countP_eq_length_filter, List.filter_map, other,
      Function.comp_def, BEq.beq] using count
  have mem : r ∈ l.made.filter (·.variant = .simple) := by simp [made, simple]
  obtain ⟨x, only⟩ := List.length_eq_one_iff.mp
    (Nat.le_antisymm most (List.length_pos_of_mem mem))
  rw [only] at mem ⊢
  rw [List.mem_singleton.mp mem]

namespace Broker

variable {b c d : Broker} {a : ActivationId} {m : ManagerId} {r : Record} {s : BackendId}
  {sight : Option Sight} {stage : Activation.Stage}

/-! Runs in which no sweep drops the simple server. -/

/-- Does a sweep drop a simple server? -/
def drops (b : Broker) (next : Move) : Bool :=
  match b.sightOf? next with
  | some (.dropped _) => true
  | _ => false

/-- The simple servers that were found and are not shared are gone for good. -/
def Cleared (b : Broker) : Prop :=
  ∀ {r}, b.IsRecorded r → r.variant = .simple → b.simple = some r ∨ b.IsQuiet r.manager

theorem cleared_opening (host : Host) (plan : BackendName → Plan) (clock : Clock) :
    Cleared (opening host plan clock) := by
  rintro r ⟨a, stage, found, _⟩
  simp [opening, stage?, files] at found

/-- A manager that may have a simple server is the one in front. -/
theorem Guarded.fronts (h : b.Guarded) (cleared : b.Cleared) {n : Manager}
    (manager : b.managers[m]? = some n) (simple : n.variant = .simple) (busy : ¬ n.Quiet) :
    b.Fronts m := by
  obtain ⟨a, stage, found, named⟩ := (h.kept.quiet manager).resolve_left busy
  have about := (h.posted.variant found named manager).trans (congrArg some simple)
  rcases Activation.Stage.of_simple about fun _ => h.posted.full found with
    holds | ⟨r, record, variant⟩
  · exact .inr ⟨h.led.free found holds, a, stage, found, holds, named⟩
  · obtain rfl : r.manager = m :=
      Option.some.inj ((Activation.Stage.manager?_of_record? record).1.symm.trans named)
    rcases cleared ⟨a, stage, found, record⟩ variant with shared | ⟨k, also, quiet⟩
    · exact .inl (by rw [← variant]; exact shared)
    · obtain rfl := Option.some.inj (manager.symm.trans also)
      exact absurd quiet busy

/-- The server stays shared until a sweep drops it. -/
theorem Change.simple_stays (led : b.Led) (change : Change sight b c)
    (careful : ∀ m, sight ≠ some (.dropped m)) (shared : b.simple = some r) :
    c.simple = some r := by
  cases change with
  | winSimple found before =>
    have free := led.free (stage?_of_activation found) (by rw [before]; rfl)
    simp [free] at shared
  | @enter e x scope =>
    have same : (b.entry scope).1.simple = b.simple := by
      rcases entry_cases b scope with same | ⟨_, same⟩ <;> rw [same]
    exact same.trans shared
  | forget e =>
    have same : (b.forgetErrand e).simple = b.simple := by
      rcases forgetErrand_cases b e with ⟨_, same⟩ | ⟨_, _, _, _, _, same⟩ <;> rw [same] <;> rfl
    exact same.trans shared
  | release => exact (simple_beginDisposal ..).1.trans shared
  | discard _ _ _ here => exact absurd here (careful _)
  | _ => exact shared

/-- No server was dropped since: one that was shared is shared, and what activations have found of
simple servers since is the one that is shared. -/
structure Undropped (base b : Broker) : Prop extends b.Guarded where
  stays : ∀ {r}, base.simple = some r → b.simple = some r
  found : ∀ {a stage r}, b.stage? a = some stage → stage.record? = some r →
    r.variant = .simple → b.simple = some r ∨ base.IsQuiet r.manager ∧
      ∃ old, base.stage? a = some old ∧ old.record? = some r

namespace Undropped

theorem refl (h : b.Guarded) (cleared : b.Cleared) : Undropped b b where
  toGuarded := h
  stays := id
  found {a stage _} at_stage record simple :=
    (cleared ⟨a, stage, at_stage, record⟩ simple).imp_right
      fun quiet => ⟨quiet, stage, at_stage, record⟩

theorem change (h : Undropped b c) (change : Change sight c d)
    (careful : ∀ m, sight ≠ some (.dropped m)) : Undropped b d where
  toGuarded := h.toGuarded.change change
  stays shared := change.simple_stays h.led careful (h.stays shared)
  found {a stage r} at_stage record simple := by
    cases change.access at_stage with
    | before was _ had =>
      exact (h.found was (had record) simple).imp_left (change.simple_stays h.led careful)
    | fresh after => simp [after, Activation.Stage.record?] at record
    | @won variant m j was after =>
      subst after
      obtain rfl := Option.some.inj record
      exact absurd simple (Variant.ne_simple (h.posted.full was rfl))
    | shares after shared =>
      subst after
      obtain rfl := Option.some.inj record
      exact .inl shared
    | gets after => simp [after, Activation.Stage.record?] at record

theorem alike (h : Undropped b c) (alike : Alike c d) : Undropped b d where
  toGuarded := h.toGuarded.alike alike
  stays shared := alike.simple.trans (h.stays shared)
  found {a stage r} at_stage record simple := by
    rw [alike.simple]
    exact h.found ((stage?_congr alike.activations a).symm.trans at_stage) record simple

theorem run (h : Undropped b c) {moves : List Move} (careful : never drops c moves) :
    Undropped b (c.run moves) := by
  induction moves generalizing c with
  | nil => exact h
  | cons next moves ih =>
    simp only [never, Bool.and_eq_true, Bool.not_eq_true'] at careful
    refine ih ?_ careful.2
    have fine (m : ManagerId) : c.fate? next ≠ some (.dropped m) := by
      intro fate
      simp [drops, sightOf?_of_fate? fate (by simp)] at careful
    exact (h.kept.moves next).split h (fun h same => h.alike same)
      (fun h change => h.change change (by simp)) fun h change => h.change change fine

theorem cleared (h : Undropped b c) (quiet : ∀ {m}, b.IsQuiet m → c.IsQuiet m) : c.Cleared := by
  rintro r ⟨a, stage, at_stage, record⟩ simple
  exact (h.found at_stage record simple).imp_right fun gone => quiet gone.1

end Undropped

/-! A sweep drops nothing unless it has evicted something. -/

/-- Does the move take an activation out of the cache? -/
def evicts (b : Broker) (next : Move) : Bool :=
  b.cache.any fun entry => !(b.move next).cache.contains entry

/-- No sweep is on its way with anything that it is to dispose of or waits for. -/
structure Unburdened (b : Broker) : Prop where
  records : ∀ {e stage}, b.errandStage? e = some stage → stage.records = []
  evicted : ∀ {e stage}, b.errandStage? e = some stage → stage.evicted = []

namespace Unburdened

theorem change (h : b.Unburdened) (filed : b.Filed) (change : Change sight b c)
    (keeps : ∀ {a}, b.IsIn a → ¬ c.IsOut a) : c.Unburdened := by
  have both {e : ErrandId} {stage : Errand.Stage} (found : c.errandStage? e = some stage) :
      stage.records = [] ∧ stage.evicted = [] := by
    cases change.stride filed found with
    | stays same => exact ⟨h.records same, h.evicted same⟩
    | empty records _ evicted =>
      refine ⟨records, List.eq_nil_iff_forall_not_mem.mpr fun a mem => ?_⟩
      exact keeps (evicted a mem).1 (evicted a mem).2
    | fewer before records evicted =>
      exact ⟨List.subset_nil.mp (h.records before ▸ records),
        List.subset_nil.mp (h.evicted before ▸ evicted)⟩
    | gather before => simpa [Errand.Stage.evicted] using h.evicted before
    | look before => simpa [Errand.Stage.records] using h.records before
  exact ⟨fun found => (both found).1, fun found => (both found).2⟩

private theorem alone (h : b.Unburdened) (filed : b.Filed) {e w : ErrandId} {x : Errand}
    {stale : List ScopeKey} (found : b.errand? e = some x) (fresh : x.stage = .fresh)
    (keeps : ∀ {a}, b.IsIn a → ¬ ((b.forgetErrand w).beginEviction e stale).IsOut a) :
    ((b.forgetErrand w).beginEviction e stale).Unburdened := by
  obtain ⟨files, cache⟩ := files_forgetErrand b w
  have forgets : Change (some .lost) b (b.forgetErrand w) := .forget w fun _ _ _ => rfl
  have evicts : Change (some .lost) (b.forgetErrand w)
      ((b.forgetErrand w).beginEviction e stale) := .evict_of_fresh found fresh fun _ => rfl
  have forgotten : (b.forgetErrand w).Unburdened :=
    h.change filed forgets fun inside out => out.1 (by simpa only [IsIn, cache] using inside)
  exact forgotten.change (filed.filing (.rest files cache)) evicts
    fun inside => keeps (by simpa only [IsIn, cache] using inside)

theorem alike (h : b.Unburdened) (alike : Alike b c) : c.Unburdened where
  records {e _} found := h.records ((alike.errandStage? e).symm.trans found)
  evicted {e _} found := h.evicted ((alike.errandStage? e).symm.trans found)

theorem move (h : b.Unburdened) (kept : b.Kept) (filed : b.Filed) {next : Move}
    (none : b.evicts next = false) : (b.move next).Unburdened := by
  -- whoever is out after a part of the move is out after the whole
  have keeps {a : ActivationId} (inside : b.IsIn a) {c : Broker} (alike : Alike c (b.move next)) :
      ¬ c.IsOut a := by
    intro out
    obtain ⟨key, entry⟩ := inside
    refine (out.filing alike.filing).1 ⟨key, ?_⟩
    simpa using List.any_eq_false.mp none _ entry
  cases kept.moves next with
  | @one s c _ change alike =>
    have here : Unburdened { b with site := s } := ⟨h.records, h.evicted⟩
    exact (here.change (filed.filing (.rest rfl rfl)) change fun inside => keeps inside alike).alike
      alike
  | @alone s _ _ _ _ _ found fresh _ _ _ alike =>
    have here : Unburdened { b with site := s } := ⟨h.records, h.evicted⟩
    exact (here.alone (filed.filing (.rest rfl rfl)) found fresh fun inside => keeps inside
      alike).alike alike

/-- In a run in which nothing is evicted no sweep drops a server. -/
theorem never_drops (h : b.Unburdened) (kept : b.Kept) (filed : b.Filed) {moves : List Move}
    (none : never evicts b moves) : never drops b moves := by
  induction moves generalizing b with
  | nil => rfl
  | cons next moves ih =>
    simp only [never, Bool.and_eq_true, Bool.not_eq_true'] at none ⊢
    refine ⟨?_, ih (h.move kept filed none.1) (kept.move next) ?_ none.2⟩
    · by_contra dropped
      unfold drops at dropped
      split at dropped
      · next m drops =>
        obtain ⟨e, r, left, evicted, _, found, _, _⟩ := dropped_of_sightOf? drops
        simpa [Errand.Stage.records] using h.records found
      · simp at dropped
    · exact filed.filing (kept.moves next).filing

end Unburdened

theorem unburdened_opening (host : Host) (plan : BackendName → Plan) (clock : Clock) :
    Unburdened (opening host plan clock) where
  records found := by simp [opening, errandStage?, errand?] at found
  evicted found := by simp [opening, errandStage?, errand?] at found

/-! Whose simple servers there are. -/

/-- A server of the variant that scopes share. -/
def IsSimple (b : Broker) (s : BackendId) : Prop :=
  ∃ y, b.site.backend? s = some y ∧ y.name.variant = .simple

/-- The start of the server is under way. -/
def IsStarting (b : Broker) (s : BackendId) : Prop :=
  ∃ (m : ManagerId) (n : Manager) (x : Job) (due : Deadline) (options : Options),
    b.managers[m]? = some n ∧ n.job? x.id = some x ∧ x.stage = .starting s due options

/-- The manager makes the server in a move, with a job that works its options out. -/
structure Makes (b : Broker) (next : Move) (m : ManagerId) (x : Job) (s : BackendId) : Prop where
  job : ∃ n scope, b.managers[m]? = some n ∧ n.job? x.id = some x ∧ x.stage = .launching scope
  has : ∃ n, (b.move next).managers[m]? = some n ∧ n.Has s

/-- Whatever is live or on its way to be so is some manager's. -/
theorem Stocked.has_of_busy (h : b.Stocked) (busy : b.site.isLive s ∨ b.IsStarting s) :
    ∃ (m : ManagerId) (n : Manager), b.managers[m]? = some n ∧ n.Has s := by
  rcases busy with live | ⟨m, n, x, due, options, manager, job, stage⟩
  · exact h.kept (Site.made_of_isLive live) live.2
  · exact ⟨m, n, manager, .inr ⟨x.id, x, job, by rw [stage]; rfl⟩⟩

/-- One manager has all the simple servers that there are, and it has one. -/
theorem Guarded.simple_unique (h : b.Guarded) (cleared : b.Cleared) {t : BackendId}
    (one : b.IsSimple s) (two : b.IsSimple t) (up : b.site.isLive s ∨ b.IsStarting s)
    (also : b.site.isLive t ∨ b.IsStarting t) : s = t := by
  have front {s : BackendId} (simple : b.IsSimple s) (busy : b.site.isLive s ∨ b.IsStarting s) :
      ∃ (m : ManagerId) (n : Manager), b.managers[m]? = some n ∧ n.Has s ∧ b.Fronts m := by
    obtain ⟨y, found, variant⟩ := simple
    obtain ⟨m, n, manager, has⟩ := h.stocked.has_of_busy busy
    obtain ⟨_, z, _, here, about, _⟩ := h.stocked.has manager has
    obtain rfl := Option.some.inj (found.symm.trans here)
    exact ⟨m, n, manager, has, h.fronts cleared manager (about.symm.trans variant)
      fun quiet => quiet.has s has⟩
  obtain ⟨m, n, manager, has, fronts⟩ := front one up
  obtain ⟨i, k, found, other, leads⟩ := front two also
  obtain rfl := h.led.fronts_unique fronts leads
  obtain rfl := Option.some.inj (manager.symm.trans found)
  exact (h.staffed.clear manager).has_unique (h.kept.lined manager) has other

/-- In the surroundings the manager works out options, and a server is started with them. -/
def Equips (n : Manager) (host : Host) (life : List BackendEvent) : Prop :=
  ∃ aim options inputs, n.provider.scope = some aim ∧
    Options.make host n.provider.variant aim = .ok (options, inputs) ∧
    life = [.create, .start options]

/-- A new server was made and started by a manager of its variant. -/
theorem Sound.makes (h : b.Sound) {next : Move} {y : Backend} (new : b.site.backend? s = none)
    (found : (b.move next).site.backend? s = some y) :
    ∃ m x n, b.Makes next m x s ∧ b.managers[m]? = some n ∧ n.variant = y.name.variant ∧
      (∃ scope, x.stage = .launching scope ∧ y.name.key = scope.key) ∧
      Equips n (b.lookout next) ((b.move next).site.life y.name) := by
  have late := List.getElem?_eq_none_iff.mp new
  have made := Site.lt_of_backend? found
  -- outside the step of a job no servers are made
  have none {c : Broker} (calm : b.site.Calm c.site) (alike : Alike c (b.move next)) : False := by
    rw [alike.site.length, calm.length] at made
    exact Nat.lt_irrefl _ (Nat.lt_of_lt_of_le made late)
  cases h.kept.moves next with
  | @alone t w e x stale calm _ _ _ _ _ alike =>
    refine (none (c := (({ b with site := t } : Broker).forgetErrand w).beginEviction e stale)
      ?_ alike).elim
    have site : (({ b with site := t } : Broker).forgetErrand w).site = t := by
      rcases forgetErrand_cases ({ b with site := t } : Broker) w with
        ⟨_, same⟩ | ⟨_, _, _, _, _, same⟩ <;> rw [same] <;> rfl
    exact site.symm ▸ calm
  | @one t c calm change alike host =>
    have sound : Sound { b with site := t } :=
      h.alike (.of_managers rfl rfl rfl rfl rfl rfl rfl calm)
    cases sound.staffed.staffing sound.kept change with
    | shift _ site => exact (none (calm.trans site) alike).elim
    | add _ _ _ site => exact (none (site.symm ▸ calm) alike).elim
    | @step m x n j u clock manager job ready step managers site =>
      have stocked := sound.stocked
      have keeping := (h.staffed.clear manager).keeping (h.kept.lined manager) stocked.named job
        (fun has => stocked.lt_of_has manager has) step
      subst site
      cases keeping with
      | still length | shut _ length =>
        rw [alike.site.length, length, calm.length] at made
        exact absurd (Nat.lt_of_lt_of_le made late) (Nat.lt_irrefl _)
      | @made new z scope stage last length _ here variant key _ has built =>
        obtain rfl : s = new := by
          rw [alike.site.length, length, calm.length] at made
          rw [calm.length] at last
          exact (Nat.le_antisymm (Nat.le_of_lt_succ made) late).trans last.symm
        have own : c.managers[m]? = some n := by
          rw [managers, List.getElem?_set_self (List.getElem?_eq_some_iff.mp manager).1]
        obtain ⟨k, later, aside⟩ := alike.later own
        have name := alike.site.names s
        rw [found, here] at name
        have name : y.name = z.name := Option.some.inj name
        obtain ⟨aim, options, inputs, bound, worked, _, events⟩ := built
        refine ⟨m, j, x, ⟨⟨x, scope, manager, job, stage⟩,
          ⟨k, later, (aside.has s).mpr ((has s).mpr rfl)⟩⟩, manager, by rw [name, variant],
          ⟨scope, stage, by rw [name, key]⟩, aim, options, inputs, bound, host ▸ worked, ?_⟩
        rw [alike.site.life, name, Site.life, events]
        rfl

/-- A simple server is made by the manager in front, for the first start of the activation that has
got hold of the server, while none is shared, or for a restart. -/
theorem Guarded.makes_simple (h : b.Guarded) (cleared : b.Cleared) {next : Move}
    (new : b.site.backend? s = none) (simple : (b.move next).IsSimple s) :
    ∃ m x, b.Makes next m x s ∧
      ((b.simple = none ∧ ∃ a, b.stage? a = some (.startingSimple m x.id)) ∨
        x.task = .restart ∧ b.Fronts m) := by
  obtain ⟨y, found, about⟩ := simple
  obtain ⟨m, x, n, makes, manager, variant, _⟩ := h.toSound.makes new found
  obtain ⟨k, scope, also, job, stage⟩ := makes.job
  obtain rfl := Option.some.inj (manager.symm.trans also)
  have simple : n.variant = .simple := variant.trans about
  have fronts := h.fronts cleared manager simple fun quiet => by
    simpa [Job.mayMake, stage] using quiet.makes job
  refine ⟨m, x, makes, ?_⟩
  cases task : x.task with
  | restart => exact .inr ⟨rfl, fronts⟩
  | lookUp | dispose =>
    have fits := (h.kept.lined manager).fits job
    simp [Job.fits, stage, task] at fits
  | start aim =>
    have start : x.isStart := by simp [Job.isStart, task]
    rcases h.staffed.begun manager with begun | ⟨a, other, j, at_stage, starts⟩
    · simp [begun job] at start
    · have named := (Activation.Stage.manager?_of_starts? starts).1
      have about := (h.posted.variant at_stage named manager).trans (congrArg some simple)
      obtain rfl := (h.kept.starting at_stage starts manager).only job start
      have holds : other.holdsSimple := by
        rcases Activation.Stage.of_simple about fun _ => h.posted.full at_stage with
          holds | ⟨r, record, _⟩
        · exact holds
        · simp [(Activation.Stage.manager?_of_starts? starts).2.1] at record
      refine .inl ⟨h.led.free at_stage holds, a, ?_⟩
      cases other <;> simp_all [Activation.Stage.starts?, Activation.Stage.holdsSimple]

/-! What activations have made of their own. -/

/-- What an activation makes in its turn is new. -/
theorem turnLog_made (mem : r ∈ (b.turnLog a).made) : b.managers.length ≤ r.manager ∧
    r.manager < (b.move (.agent (.activation a))).managers.length := by
  obtain ⟨n, found, _⟩ := mem_roster (List.mem_of_mem_drop mem)
  refine ⟨?_, (List.getElem?_eq_some_iff.mp found).1⟩
  obtain ⟨k, at_place⟩ := List.mem_iff_getElem?.mp mem
  simp only [turnLog, List.getElem?_drop, roster, List.getElem?_map, List.getElem?_zipIdx,
    Option.map_eq_some_iff] at at_place
  obtain ⟨_, ⟨_, _, rfl⟩, rfl⟩ := at_place
  simp

/-- Every manager was made by one activation. -/
structure Hired (b : Broker) (logs : ActivationId → Log) : Prop where
  within : ∀ {a r}, r ∈ (logs a).made → r.manager < b.managers.length
  own : ∀ {a i r s}, r ∈ (logs a).made → s ∈ (logs i).made → r.manager = s.manager → a = i

theorem Hired.move {logs : ActivationId → Log} (hired : b.Hired logs) (h : b.Sound)
    (next : Move) :
    (b.move next).Hired fun a => logs a ++ if next.isTurnOf a then b.turnLog a else {} := by
  have stays {m : ManagerId} (inside : m < b.managers.length) :
      m < (b.move next).managers.length := by
    obtain ⟨n, found, _⟩ := h.manager_move (List.getElem?_eq_getElem inside) next
    exact (List.getElem?_eq_some_iff.mp found).1
  -- a record is an old one, or the move is the activation's turn
  have cases {a : ActivationId} {r : Record}
      (mem : r ∈ (logs a ++ if next.isTurnOf a then b.turnLog a else {}).made) :
      r ∈ (logs a).made ∨ next = .agent (.activation a) ∧ b.managers.length ≤ r.manager ∧
        r.manager < (b.move next).managers.length := by
    rcases List.mem_append.mp mem with old | new
    · exact .inl old
    · split at new
      · next own =>
        obtain rfl := Move.eq_of_isTurnOf own
        exact .inr ⟨rfl, turnLog_made new⟩
      · simp at new
  refine ⟨fun mem => ?_, fun {a i r s} one two same => ?_⟩
  · rcases cases mem with old | ⟨_, _, inside⟩
    · exact stays (hired.within old)
    · exact inside
  · rcases cases one with old | ⟨turn, late, _⟩ <;> rcases cases two with also | ⟨turns, new, _⟩
    · exact hired.own old also same
    · exact absurd (same ▸ hired.within old) (Nat.not_lt.mpr new)
    · exact absurd (same ▸ hired.within also) (Nat.not_lt.mpr late)
    · simpa using turn.symm.trans turns

theorem hired_run (host : Host) (plan : BackendName → Plan) (clock : Clock) (moves : List Move) :
    ((opening host plan clock).run moves).Hired
      fun a => (opening host plan clock).log a moves := by
  induction moves using List.reverseRecOn with
  | nil => exact ⟨fun mem => by simp [log] at mem, fun mem => by simp [log] at mem⟩
  | append_singleton moves next ih =>
    simp only [run_append, run_cons, run_nil, log_concat]
    exact ih.move ((sound_opening host plan clock).run moves) next

/-- An activation whose first start of a simple server has succeeded shares that server. -/
private theorem Undropped.wins (h : Undropped b c) (quiet : ∀ {m}, b.IsQuiet m → c.IsQuiet m)
    (won : .start ⟨.simple, m⟩ none ∈ (c.turnLog a).answers) :
    (c.move (.agent (.activation a))).simple = some ⟨.simple, m⟩ := by
  have stays : never drops c [.agent (.activation a)] := rfl
  have later := h.run stays
  rcases turn_move h.kept a with ⟨_, log⟩ | ⟨old, stage, found, step, files, _⟩
  · simp [log] at won
  obtain ⟨⟨j, rfl⟩, rfl⟩ := step.of_won won fun _ => h.posted.full found
  have after : (c.run [.agent (.activation a)]).stage? a =
      some (.concluding (.ok ⟨.simple, m⟩)) := by
    rw [run_cons, run_nil, stage?_of_files found files, if_pos rfl]
  refine (later.found after rfl rfl).resolve_right fun gone => ?_
  -- the manager was not gone before its first start
  obtain ⟨n, manager, gone⟩ := quiet gone.1
  simpa [gone.disposed] using (h.kept.starting found rfl manager).live

/-- Since a first start of a simple server has succeeded, its server is shared. -/
theorem Guarded.shared_of_won (h : b.Guarded) (cleared : b.Cleared) {moves : List Move}
    (careful : never drops b moves) (won : .start ⟨.simple, m⟩ none ∈ (b.log a moves).answers) :
    (b.run moves).simple = some ⟨.simple, m⟩ := by
  induction moves using List.reverseRecOn with
  | nil => simp [log] at won
  | append_singleton moves next ih =>
    rw [never_append, Bool.and_eq_true] at careful
    have past : Undropped b (b.run moves) := (Undropped.refl h cleared).run careful.1
    have quiet {m : ManagerId} (gone : b.IsQuiet m) : (b.run moves).IsQuiet m :=
      gone.run h.toSound moves
    rw [run_append, run_cons, run_nil]
    rw [log_concat, Log.answers_append, List.mem_append] at won
    rcases won with before | now
    · have since := Undropped.refl past.toGuarded (past.cleared quiet)
      exact (since.run careful.2).stays (ih careful.1 before)
    · split at now
      · next own =>
        obtain rfl := Move.eq_of_isTurnOf own
        exact past.wins quiet now
      · simp at now

/-- As long as no sweep drops the simple server, one simple server is live or being started at a
time. While none is shared, the activation that has got hold of it starts one. Since a first start
has succeeded its server is shared, whoever finds a simple server finds that one, and another one is
made only when the manager restarts. An activation that has failed has tried to get a simple server
once, and if a start has failed it was that of a manager of its own, which is gone. No sweep drops
anything if none was on its way and nothing is evicted. -/
theorem activations_share_one_simple_server (host : Host) (plan : BackendName → Plan)
    (clock : Clock) (past moves : List Move) :
    let b := (opening host plan clock).run past
    let d := b.run moves
    let log (a : ActivationId) := (opening host plan clock).log a (past ++ moves)
    (b.Unburdened → never evicts b moves → never drops b moves) ∧
    (b.Cleared → never drops b moves →
      (∀ s t, d.IsSimple s → d.IsSimple t → d.site.isLive s ∨ d.IsStarting s →
        d.site.isLive t ∨ d.IsStarting t → s = t) ∧
      (∀ next s, d.site.backend? s = none → (d.move next).IsSimple s → ∃ m x, d.Makes next m x s ∧
        ((d.simple = none ∧ ∃ a, d.stage? a = some (.startingSimple m x.id)) ∨
          x.task = .restart ∧ d.Fronts m)) ∧
      (∀ m, (b.simple = some ⟨.simple, m⟩ ∨
          ∃ a, .start ⟨.simple, m⟩ none ∈ (b.log a moves).answers) →
        d.simple = some ⟨.simple, m⟩ ∧
        ∀ next s, d.site.backend? s = none → (d.move next).IsSimple s →
          ∃ x, d.Makes next m x s ∧ x.task = .restart) ∧
      ∀ a r, (b.stage? a).bind (·.record?) = none → d.result? a = some (.ok r) →
        r.variant = .simple → d.simple = some r) ∧
    ∀ a cause, d.result? a = some (.error cause) →
      (log a).tries.filter (·.1 = .simple) = [(.simple, .error cause)] ∧
      ∀ e, cause = .start .simple e → ∃ m, .start ⟨.simple, m⟩ (some e) ∈ (log a).answers ∧
        (log a).made.filter (·.variant = .simple) = [⟨.simple, m⟩] ∧ d.IsQuiet m ∧
        ∀ i, i ≠ a → ∀ r ∈ (log i).made, r.manager ≠ m := by
  intro b d log
  have whole : d = (opening host plan clock).run (past ++ moves) := (run_append ..).symm
  have guarded : b.Guarded := (guarded_opening host plan clock).run past
  refine ⟨fun idle none => idle.never_drops guarded.kept guarded.filed none,
    fun cleared careful => ?_, fun a cause failed => ?_⟩
  · have since : Undropped b d := (Undropped.refl guarded cleared).run careful
    have clear : d.Cleared := since.cleared fun gone => gone.run guarded.toSound moves
    refine ⟨fun s t one two up also => since.simple_unique clear one two up also,
      fun next s new simple => since.makes_simple clear new simple, fun m won => ?_,
      fun a r out found simple => ?_⟩
    · have shared : d.simple = some ⟨.simple, m⟩ := by
        rcases won with before | ⟨a, won⟩
        · exact since.stays before
        · exact guarded.shared_of_won cleared careful won
      refine ⟨shared, fun next s new simple => ?_⟩
      obtain ⟨k, x, makes, ⟨free, _⟩ | ⟨restart, fronts⟩⟩ := since.makes_simple clear new simple
      · simp [shared] at free
      · obtain rfl := since.led.fronts_unique fronts (.inl shared)
        exact ⟨x, makes, restart⟩
    · refine (since.found (result?_eq_some.mp found) rfl simple).resolve_right ?_
      rintro ⟨_, old, was, record⟩
      simp [was, record] at out
  · obtain ⟨reports, _⟩ := reports_run host plan clock (past ++ moves)
    have hired := hired_run host plan clock (past ++ moves)
    rw [← whole] at reports hired
    have ended := result?_eq_some.mp failed
    obtain ⟨prefers, variant, supported, fits⟩ := (reports a).fits ended (by simp)
    have tries := fits.stands.1.simple_tries fits.full
    refine ⟨tries, fun e same => ?_⟩
    subst same
    have tried : (.simple, .error (.start .simple e)) ∈ (log a).tries := by
      refine List.mem_of_mem_filter (p := fun x => x.1 = .simple) ?_
      rw [tries]
      exact List.mem_singleton_self _
    obtain ⟨m, started⟩ := Log.start_of_tries tried
    have made := fits.started started
    refine ⟨m, started, Log.simple_made fits.full fits.variants made rfl, ?_,
      fun i other r also same => other (hired.own also made same)⟩
    refine ((reports a).known _ made).resolve_right ?_
    rintro ⟨stage, found, named⟩
    obtain rfl := Option.some.inj (found.symm.trans ended)
    simp [Activation.Stage.manager?] at named

/-- The simple server does not come up for one of the interpreters. -/
def faultyPlan (name : BackendName) : Plan :=
  if name.key = .of none python then { startFailure := some .connectionClosed } else {}

/-- Activations for three interpreters come for the simple server one after the other. -/
def queueing : List Move :=
  [.entrust (.find none (some python)), .entrust (.find none (some newPython)),
    .entrust (.find none (some ⟨"/usr/bin/pypy3", none⟩)), .errand 0, .errand 1, .errand 2,
    .agent (.activation 0), .agent (.activation 1), .agent (.activation 2)]

/-- They get hold of it one after the other. -/
def handing : List Move :=
  List.replicate 12 (.agent (.activation 0)) ++ List.replicate 8 (.agent (.activation 1)) ++
    List.replicate 2 (.agent (.activation 2))

/-- The first one fails, the second one starts a server anew, and the third one shares it. -/
theorem next_in_line_starts_anew :
    let d := (opening simpleHost faultyPlan {}).run (queueing ++ handing)
    let log := (opening simpleHost faultyPlan {}).log 0 (queueing ++ handing)
    never drops (opening simpleHost faultyPlan {}) (queueing ++ handing) ∧
    d.result? 0 = some (.error (.start .simple (.backend .connectionClosed))) ∧
    log.tries.filter (·.1 = .simple) =
      [(.simple, .error (.start .simple (.backend .connectionClosed)))] ∧
    (∃ m, log.made.filter (·.variant = .simple) = [⟨.simple, m⟩] ∧ d.IsQuiet m) ∧
    d.result? 1 = some (.ok ⟨.simple, 1⟩) ∧ d.result? 2 = some (.ok ⟨.simple, 1⟩) ∧
    d.simple = some ⟨.simple, 1⟩ ∧ d.site.isLive 1 ∧
    ∀ s, d.IsSimple s → d.site.isLive s → s = 1 := by
  intro d log
  have failed : d.result? 0 = some (.error (.start .simple (.backend .connectionClosed))) := by
    decide +kernel
  have second : d.result? 1 = some (.ok ⟨.simple, 1⟩) := by decide +kernel
  have third : d.result? 2 = some (.ok ⟨.simple, 1⟩) := by decide +kernel
  have none : never evicts (opening simpleHost faultyPlan {}) (queueing ++ handing) := by
    decide +kernel
  have live : d.site.isLive 1 := ⟨by decide +kernel, by decide +kernel⟩
  have simple : d.IsSimple 1 := by
    have about : (d.site.backend? 1).any fun y => y.name.variant = .simple := by decide +kernel
    obtain ⟨y, found, variant⟩ := (Option.any_eq_true _ _).mp about
    exact ⟨y, found, by simpa using variant⟩
  obtain ⟨idle, share, fails⟩ := activations_share_one_simple_server simpleHost faultyPlan {} []
    (queueing ++ handing)
  have careful := idle (unburdened_opening simpleHost faultyPlan {}) none
  obtain ⟨one, _, _, found⟩ := share (cleared_opening simpleHost faultyPlan {}) careful
  obtain ⟨tries, own⟩ := fails 0 _ failed
  obtain ⟨m, _, made, quiet, _⟩ := own _ rfl
  exact ⟨careful, failed, tries, ⟨m, made, quiet⟩, second, third,
    found 1 ⟨.simple, 1⟩ rfl second rfl, live,
    fun s about up => one s 1 about simple (.inl up) (.inl live)⟩

end Broker

end LanguageBroker
