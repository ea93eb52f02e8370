import LanguageBroker.Proofs.StaleScopes

/-!
Sweeps after a change of interpreters. Such a sweep asks for the active interpreter of each cached
key's folder, whatever resource the key was looked up for and whether its interpreter was given
along. It evicts the keys with another interpreter, and no others, and disposes of nothing else.
-/

namespace LanguageBroker.Broker

/-- Is another interpreter than the key's active for its folder? Not if that cannot be found out. -/
def deviates (h : Host) (key : ScopeKey) : Bool :=
  (activePath h key.folder).any fun current => current ≠ key.interpreter

/-- Is the key cached although another interpreter is active for its folder? -/
def isOutdated (b : Broker) (key : ScopeKey) : Bool := b.isCached key && deviates b.site.host key

variable {b c d : Broker} {a : ActivationId} {e : ErrandId} {g h : Host} {next : Move}
  {keys left stale : List ScopeKey} {active : List (String × Option String)} {key : ScopeKey}

/-- The activations that are taken out of the cache with the keys. -/
def entriesOf (b : Broker) (stale : List ScopeKey) : List ActivationId :=
  (stale.filter b.isCached).filterMap fun key => b.cache.lookup key

theorem activePath_congr (same : g.interpreter = h.interpreter) (folder : String) :
    activePath g folder = activePath h folder := by
  simp only [activePath, same]

/-! Looking at the keys. -/

/-- What a sweep knows when it has looked at all keys but some. -/
structure Surveys (h : Host) (keys left : List ScopeKey) (active : List (String × Option String))
    (stale : List ScopeKey) : Prop where
  answers : ∀ {folder path}, active.lookup folder = some path → path = activePath h folder
  seen : ∃ seen, keys = seen ++ left ∧ stale = seen.filter (deviates h)

namespace Surveys

theorem start (h : Host) (keys : List ScopeKey) : Surveys h keys keys [] [] :=
  ⟨by simp, [], rfl, rfl⟩

theorem all (surveys : Surveys h keys [] active stale) : stale = keys.filter (deviates h) := by
  obtain ⟨seen, same, stale⟩ := surveys.seen
  rw [stale, same, List.append_nil]

theorem add (surveys : Surveys h keys (key :: left) active stale)
    {known : List (String × Option String)} (answers : ∀ {folder path},
      known.lookup folder = some path → path = activePath h folder) :
    Surveys h keys left known (if deviates h key then stale ++ [key] else stale) := by
  obtain ⟨seen, whole, old⟩ := surveys.seen
  refine ⟨answers, seen ++ [key], by simp [whole], ?_⟩
  rw [List.filter_append, ← old]
  cases here : deviates h key <;> simp [here]

/-- The answer for the key's folder is known already, or is asked for now. -/
theorem survey (surveys : Surveys h keys (key :: left) active stale)
    (same : b.site.host.interpreter = h.interpreter) (e : ErrandId) :
    ∃ known more, b.survey e key left active stale =
        b.putErrand e (.surveying left known more) ∧ Surveys h keys left known more := by
  cases found : active.lookup key.folder with
  | some path =>
    refine ⟨active, _, ?_, surveys.add surveys.answers⟩
    obtain rfl := surveys.answers found
    cases answer : activePath h key.folder <;> simp [Broker.survey, found, deviates, answer]
  | none =>
    refine ⟨(key.folder, activePath h key.folder) :: active, _, ?_, surveys.add ?_⟩
    · have asked := activePath_congr same key.folder
      cases answer : activePath h key.folder <;>
        simp [Broker.survey, found, deviates, asked, answer]
    · intro folder path found
      by_cases here : folder = key.folder
      · subst here
        rw [List.lookup_cons_self] at found
        exact (Option.some.inj found).symm
      · rw [List.lookup_cons, beq_eq_false_iff_ne.mpr here] at found
        exact surveys.answers found

end Surveys

/-! The turns of a sweep. -/

theorem cache_beginEviction (b : Broker) (e : ErrandId) (stale : List ScopeKey) :
    (b.beginEviction e stale).cache = b.cache.filter fun x => !stale.contains x.1 := by
  refine List.filter_congr fun x mem => ?_
  have cached : b.isCached x.1 :=
    mem_keys.mp ((ScopeKey.mem_sorted _).mpr (List.mem_map_of_mem mem))
  simp [List.contains_eq_mem, List.mem_filter, cached]

theorem mem_entriesOf (h : b.Filed) :
    a ∈ b.entriesOf stale ↔ ∃ key ∈ stale, (key, a) ∈ b.cache := by
  simp only [entriesOf, List.mem_filterMap, List.mem_filter]
  constructor
  · rintro ⟨key, ⟨mem, _⟩, found⟩
    exact ⟨key, mem, mem_cache_of_lookup found⟩
  · rintro ⟨key, mem, entry⟩
    have found := h.lookup entry
    exact ⟨key, ⟨mem, by simp [isCached, found]⟩, found⟩

theorem contains_outdated (b : Broker) (key : ScopeKey) :
    (b.keys.filter (deviates b.site.host)).contains key = b.isOutdated key := by
  rw [Bool.eq_iff_iff, List.contains_iff_mem, List.mem_filter, mem_keys, isOutdated,
    Bool.and_eq_true]

/-- An activation's scope stays what it is. -/
theorem Kept.scope_run (h : b.Kept) {scope : Scope}
    (found : (b.files[a]?).map Prod.fst = some scope) (moves : List Move) :
    ((b.run moves).files[a]?).map Prod.fst = some scope := by
  have all : (b.run moves).Kept ∧ ((b.run moves).files[a]?).map Prod.fst = some scope := by
    refine run_induction (P := fun c => c.Kept ∧ (c.files[a]?).map Prod.fst = some scope)
      (fun b next before => ⟨before.1.move next, ?_⟩) ⟨h, found⟩ moves
    obtain ⟨x, hx, rfl⟩ := Option.map_eq_some_iff.mp before.2
    obtain ⟨y, hy, same⟩ := (before.1.moves next).filing.scope hx
    rw [hy, ← same]
    rfl
  exact all.2

theorem errandOutcome?_of_stage {outcome : Errand.Outcome}
    (done : b.errandStage? e = some (.done outcome)) : b.errandOutcome? e = some outcome := by
  obtain ⟨⟨id, task, stage, since, cancelled⟩, found, rfl⟩ := Option.map_eq_some_iff.mp done
  simp [errandOutcome?, found]

/-- A sweep that has nothing to wait for and nothing to dispose of is over two turns later. -/
theorem swept_of_empty {evicted : List ScopeKey} (turn : b.turn? next = some e)
    (found : b.errandStage? e = some (.gathering [] [] evicted)) :
    (b.run [next, next]).errandOutcome? e = some (.swept evicted) := by
  have put {b : Broker} {old : Errand.Stage} (new : Errand.Stage)
      (found : b.errandStage? e = some old)
      (turn : b.turn? next = some e) (runs : b.canRun e)
      (step : b.ticked.stepErrand e = b.ticked.putErrand e new) :
      (b.move next).errandStage? e = some new ∧ (b.move next).turn? next = some e := by
    rw [move_of_turn turn runs, step]
    refine ⟨?_, (turn?_congr (b := b) rfl next).trans turn⟩
    rw [(Alike.tidy _).errandStage?, errandStage?_putErrand]
    exact (congrArg _ found).trans (by simp)
  obtain ⟨x, hx, stage⟩ := Option.map_eq_some_iff.mp found
  have also : b.ticked.errand? e = some x := hx
  obtain ⟨found, turn⟩ := put (.releasing [] evicted) found turn
    (by simp [canRun, hx, stage]) (by simp only [stepErrand, also, stage])
  obtain ⟨y, hy, stage⟩ := Option.map_eq_some_iff.mp found
  have also : (b.move next).ticked.errand? e = some y := hy
  obtain ⟨found, _⟩ := put (.done (.swept evicted)) found turn
    (by simp [canRun, hy, stage]) (by simp only [stepErrand, also, stage, finish])
  exact errandOutcome?_of_stage found

/-- An errand of a run has its number. -/
theorem lt_nextErrand_run {host : Host} {plan : BackendName → Plan} {clock : Clock}
    {moves : List Move} {stage : Errand.Stage}
    (found : ((opening host plan clock).run moves).errandStage? e = some stage) :
    e < ((opening host plan clock).run moves).nextErrand := by
  obtain ⟨x, hx, _⟩ := Option.map_eq_some_iff.mp found
  exact ((watchful_opening host plan clock).run (kept_opening host plan clock) moves).numbered _
    (mem_posts hx)

theorem Kept.old_move (h : b.Kept) (old : e < b.nextErrand) (next : Move) :
    e < (b.move next).nextErrand :=
  (h.moves next).keeps (P := fun c => e < c.nextErrand) old (fun old same => same.next ▸ old)
    fun old change => Nat.lt_of_lt_of_le old change.posting.later

theorem Kept.away_run (h : b.Kept) (old : e < b.nextErrand) (away : b.errandStage? e = none)
    (moves : List Move) : (b.run moves).errandStage? e = none := by
  have all : ((b.run moves).Kept ∧ e < (b.run moves).nextErrand) ∧
      (b.run moves).errandStage? e = none := by
    refine run_induction (P := fun c => (c.Kept ∧ e < c.nextErrand) ∧ c.errandStage? e = none)
      (fun b next before => ?_) ⟨⟨h, old⟩, away⟩ moves
    refine ⟨⟨before.1.1.move next, before.1.1.old_move before.1.2 next⟩, ?_⟩
    exact ((before.1.1.moves next).keeps (P := fun c => e < c.nextErrand ∧
      c.errandStage? e = none) ⟨before.1.2, before.2⟩
      (fun ⟨old, away⟩ same => ⟨same.next ▸ old, (same.errandStage? e).trans away⟩)
      fun ⟨old, away⟩ change => ⟨Nat.lt_of_lt_of_le old change.posting.later,
        change.posting.away old away⟩).2
  exact all.2

/-- The sweep of the keys has evicted nothing yet, and still has some of them to look at. -/
def Looks (b : Broker) (h : Host) (e : ErrandId) (keys left : List ScopeKey) : Prop :=
  ∃ active stale, b.errandStage? e = some (.surveying left active stale) ∧
    Surveys h keys left active stale

namespace Looks

theorem runs (looks : b.Looks h e keys left) : b.canRun e := by
  obtain ⟨active, stale, found, _⟩ := looks
  obtain ⟨x, hx, stage⟩ := Option.map_eq_some_iff.mp found
  simp [canRun, hx, stage]

/-- A sweep looks at the next key. -/
theorem turn (looks : b.Looks h e keys (key :: left)) (turn : b.turn? next = some e)
    (same : b.site.host.interpreter = h.interpreter) :
    (b.move next).Looks h e keys left ∧ (b.move next).cache = b.cache ∧
      (b.move next).turn? next = some e ∧ (b.move next).site.host = b.site.host := by
  obtain ⟨active, stale, found, surveys⟩ := id looks
  obtain ⟨x, hx, stage⟩ := Option.map_eq_some_iff.mp found
  obtain ⟨known, more, step, surveys⟩ := surveys.survey (b := b.ticked) same e
  have also : b.ticked.errand? e = some x := hx
  have moved : b.move next = (b.ticked.putErrand e (.surveying left known more)).tidy := by
    rw [move_of_turn turn looks.runs, stepErrand, also]
    simp only [stage, step]
  rw [moved]
  refine ⟨⟨known, more, ?_, surveys⟩, rfl, (turn?_congr (b := b) rfl next).trans turn, rfl⟩
  rw [(Alike.tidy _).errandStage?, errandStage?_putErrand]
  exact (congrArg _ found).trans (by simp)

/-- A sweep that has looked at all keys evicts those with another interpreter. -/
theorem evicts (looks : b.Looks h e keys []) (turn : b.turn? next = some e) :
    b.move next = (b.ticked.beginEviction e (keys.filter (deviates h))).tidy := by
  obtain ⟨active, stale, found, surveys⟩ := id looks
  obtain ⟨x, hx, stage⟩ := Option.map_eq_some_iff.mp found
  have also : b.ticked.errand? e = some x := hx
  rw [move_of_turn turn looks.runs, stepErrand, also, ← surveys.all]
  simp only [stage]

/-- Left to itself, a sweep looks at one key after the other. -/
theorem runs_out (looks : b.Looks h e keys left) (turn : b.turn? next = some e)
    (same : b.site.host.interpreter = h.interpreter) :
    (b.run (List.replicate left.length next)).Looks h e keys [] ∧
      (b.run (List.replicate left.length next)).cache = b.cache ∧
      (b.run (List.replicate left.length next)).turn? next = some e := by
  induction left generalizing b with
  | nil => exact ⟨looks, rfl, turn⟩
  | cons key left ih =>
    obtain ⟨looks, cache, turn, host⟩ := looks.turn turn same
    obtain ⟨looks, also, turn⟩ := ih looks turn (host ▸ same)
    rw [List.length_cons, List.replicate_succ, run_cons]
    exact ⟨looks, also.trans cache, turn⟩

/-- Until it has evicted, a sweep leaves the surroundings as they are. -/
theorem host_run (looks : b.Looks h e keys left) (turn : b.turn? next = some e)
    (same : b.site.host.interpreter = h.interpreter) {n : Nat} (early : n ≤ left.length + 1) :
    (b.run (List.replicate n next)).site.host = b.site.host := by
  induction n generalizing b left with
  | zero => rfl
  | succ n ih =>
    rw [List.replicate_succ, run_cons]
    cases left with
    | nil =>
      obtain rfl : n = 0 := by simpa using early
      rw [looks.evicts turn]
      rfl
    | cons key left =>
      obtain ⟨looks, _, turn, host⟩ := looks.turn turn same
      exact (ih looks turn (host ▸ same) (by simpa using early)).trans host

/-- A sweep that has nothing to evict is over two turns later. -/
theorem swept (looks : b.Looks h e keys []) (turn : b.turn? next = some e)
    (fits : keys.filter (deviates h) = []) :
    (b.run [next, next, next]).errandOutcome? e = some (.swept []) := by
  obtain ⟨active, stale, found, _⟩ := id looks
  have step := looks.evicts turn
  rw [fits] at step
  refine swept_of_empty (b := b.move next) ?_ ?_
  · rw [step]
    exact (turn?_congr (b := b) rfl next).trans turn
  · rw [step, (Alike.tidy _).errandStage?, beginEviction, errandStage?_putErrand]
    exact (congrArg _ found).trans (by simp)

/-- The eviction. The sweep has the activations of the evicted keys in hand. -/
theorem evicted (looks : b.Looks h e keys []) (turn : b.turn? next = some e) :
    (b.move next).cache =
        b.cache.filter (fun x => !(keys.filter (deviates h)).contains x.1) ∧
      (b.move next).Sweeping e ((keys.filter (deviates h)).filter b.isCached)
        (b.entriesOf (keys.filter (deviates h))) := by
  obtain ⟨active, stale, found, _⟩ := id looks
  have sweeping := (sweeping_beginEviction (b := b.ticked) found (keys.filter (deviates h))).alike
    (.tidy _)
  rw [looks.evicts turn]
  exact ⟨cache_beginEviction b.ticked e _, sweeping⟩

end Looks

/-- One of the moves is the sweep's turn in which it has evicted the keys with another interpreter,
and it has their activations in hand. -/
def HasEvicted (b : Broker) (h : Host) (e : ErrandId) (keys : List ScopeKey) (moves : List Move) :
    Prop :=
  ∃ front turn, front ++ [turn] <+: moves ∧ (b.run front).turn? turn = some e ∧
    (b.run front).Looks h e keys [] ∧
    (b.run moves).Sweeping e ((keys.filter (deviates h)).filter (b.run front).isCached)
      ((b.run front).entriesOf (keys.filter (deviates h)))

theorem HasEvicted.cons {moves : List Move} (evicted : (b.move next).HasEvicted h e keys moves) :
    b.HasEvicted h e keys (next :: moves) := by
  obtain ⟨front, turn, inside, turns⟩ := evicted
  exact ⟨next :: front, turn, List.cons_prefix_cons.mpr ⟨rfl, inside⟩, turns⟩

theorem Sweeping.disposes {m : ManagerId} {j : JobId} {records : List Record}
    {evicted : List ScopeKey} {gone : List ActivationId} (sweeping : b.Sweeping e keys gone)
    (sound : b.Sound) (disposing : b.errandStage? e = some (.disposing m j records evicted)) :
    ∃ a ∈ gone, ∃ r, b.stage? a = some (.settled (.ok r)) ∧ r.manager = m ∧
      ∀ i s, b.result? i = some (.ok s) → s.variant.isFull → s.manager = m → i = a := by
  obtain ⟨a, mem, stage, r, at_stage, record, same⟩ :=
    sweeping.sees disposing List.mem_cons_self
  rcases sweeping.hand mem with ⟨other, found, waits⟩ | ⟨result, settled, _⟩
  · obtain rfl := Option.some.inj (disposing.symm.trans found)
    simp [Errand.Stage.evicted] at waits
  · obtain rfl := Option.some.inj (settled.symm.trans at_stage)
    obtain rfl : result = .ok r := by cases result <;> simp_all [Activation.Stage.record?]
    refine ⟨a, mem, r, settled, same, fun i s ended full also => ?_⟩
    have won : b.FoundFull i m := also ▸ .of_settled (result?_eq_some.mp ended) full
    have named := (Activation.Stage.manager?_of_record? record).1
    exact (won.only sound.kept at_stage (same ▸ named)).symm

/-- Where the sweep disposes of a manager, an activation whose key deviates has found it, and no
other one has if its server is a full one. -/
theorem HasEvicted.disposes {moves : List Move} {m : ManagerId} {j : JobId} {records : List Record}
    {gone : List ScopeKey} (evicted : b.HasEvicted h e keys moves) (sound : b.Sound)
    (disposing : (b.run moves).errandStage? e = some (.disposing m j records gone)) :
    ∃ a scope r, (b.run moves).files[a]? = some (scope, .settled (.ok r)) ∧ r.manager = m ∧
      scope.key ∈ keys.filter (deviates h) ∧
      ∀ i s, (b.run moves).result? i = some (.ok s) → s.variant.isFull → s.manager = m →
        i = a := by
  obtain ⟨front, turn, ⟨rest, rfl⟩, _, _, sweeping⟩ := evicted
  obtain ⟨a, mem, r, settled, same, only⟩ := sweeping.disposes (sound.run _) disposing
  have between := sound.run front
  obtain ⟨key, stale, entry⟩ := (mem_entriesOf between.filed).mp mem
  obtain ⟨⟨scope, stage⟩, file, about⟩ := between.filed.entry entry
  have still := between.kept.scope_run (congrArg (Option.map Prod.fst) file) (turn :: rest)
  rw [← run_append, List.append_cons] at still
  obtain ⟨⟨_, other⟩, here, rfl⟩ := Option.map_eq_some_iff.mp still
  obtain rfl := Option.some.inj ((stage?_of_file here).symm.trans settled)
  exact ⟨a, _, r, here, same, about ▸ stale, only⟩

/-- In the moves that follow the sweep goes on to look, or it evicts, or it is put away. -/
theorem Looks.run (looks : b.Looks h e keys left) (sound : b.Sound) (custody : b.Custody)
    (old : e < b.nextErrand) {moves : List Move} (same : ∀ front, front <+: moves →
      (b.run front).site.host.interpreter = h.interpreter) :
    (∃ left, (b.run moves).Looks h e keys left) ∨ b.HasEvicted h e keys moves ∨
      (b.run moves).errandStage? e = none := by
  induction moves generalizing b left with
  | nil => exact .inl ⟨left, looks⟩
  | cons next moves ih =>
    have sound' := sound.move next
    have custody' : (b.move next).Custody := custody.run sound [next]
    have old' := sound.kept.old_move old next
    have later {left : List ScopeKey} (looks : (b.move next).Looks h e keys left) :=
      (ih looks sound' custody' old' fun front inside => same (next :: front)
        (List.cons_prefix_cons.mpr ⟨rfl, inside⟩)).imp_right (Or.imp_left HasEvicted.cons)
    by_cases turn : b.turn? next = some e
    · cases left with
      | nil =>
        rcases (looks.evicted turn).2.run custody' sound' old' moves with sweeping | away
        · exact .inr (.inl ⟨[], next, ⟨moves, rfl⟩, turn, looks, sweeping⟩)
        · exact .inr (.inr away)
      | cons key left => exact later (looks.turn turn (same [] List.nil_prefix)).1
    · obtain ⟨active, stale, found, surveys⟩ := looks
      rcases leaves_move found rfl turn with still | away
      · exact later ⟨active, stale, still.trans found, surveys⟩
      · exact .inr (.inr (sound'.kept.away_run old' away moves))

/-- Each of its turns leaves the cache as it is or takes out the keys with another interpreter. -/
theorem Looks.cache_turn (looks : b.Looks h e keys left) (sound : b.Sound) (custody : b.Custody)
    (old : e < b.nextErrand) {front : List Move} (same : ∀ before, before <+: front →
      (b.run before).site.host.interpreter = h.interpreter)
    (turn : (b.run front).turn? next = some e) :
    ((b.run front).move next).cache = (b.run front).cache ∨
      ((b.run front).move next).cache =
        (b.run front).cache.filter fun x => !(keys.filter (deviates h)).contains x.1 := by
  rcases looks.run sound custody old same with ⟨left, looks⟩ | evicted | away
  · cases left with
    | nil => exact .inr (looks.evicted turn).1
    | cons key left => exact .inl (looks.turn turn (same front (List.prefix_refl front))).2.1
  · obtain ⟨_, _, _, _, _, sweeping⟩ := evicted
    exact .inl (cache_turn_of_sweeping turn (.inl sweeping))
  · have goes : (b.run front).Sweeping e [] [] ∨ (b.run front).errandStage? e = none := .inr away
    exact .inl (cache_turn_of_sweeping turn goes)

/-- While it still looks, or when it is put away, it has come to no end and disposes of nothing. -/
theorem Looks.has_evicted (looks : b.Looks h e keys left) (sound : b.Sound) (custody : b.Custody)
    (old : e < b.nextErrand) {moves : List Move} (same : ∀ front, front <+: moves →
      (b.run front).site.host.interpreter = h.interpreter) {stage : Errand.Stage}
    (found : (b.run moves).errandStage? e = some stage)
    (further : ∀ left active stale, stage ≠ .surveying left active stale) :
    b.HasEvicted h e keys moves := by
  rcases looks.run sound custody old same with ⟨left, active, stale, surveys, _⟩ | evicted | away
  · exact absurd (Option.some.inj (found.symm.trans surveys)) (further left active stale)
  · exact evicted
  · exact absurd (away.symm.trans found) (by simp)

/-- A sweep after a change of interpreters begins by listing all cached keys. -/
theorem move_of_fresh {x : Errand} (turn : b.turn? next = some e) (found : b.errand? e = some x)
    (stage : x.stage = .fresh) (task : x.task = .sweep .interpreters) :
    b.move next = (b.ticked.putErrand e (.surveying b.keys [] [])).tidy := by
  have runs : b.canRun e := by simp [canRun, found, stage]
  have also : b.ticked.errand? e = some x := found
  rw [move_of_turn turn runs, stepErrand, also]
  simp only [stage, task, beginErrand]
  rfl

/-- Then it has them all to look at. -/
theorem looks_of_fresh {x : Errand} (turn : b.turn? next = some e) (found : b.errand? e = some x)
    (stage : x.stage = .fresh) (task : x.task = .sweep .interpreters) :
    (b.move next).Looks b.site.host e b.keys b.keys ∧ (b.move next).cache = b.cache ∧
      (b.move next).turn? next = some e ∧ (b.move next).site.host = b.site.host := by
  rw [move_of_fresh turn found stage task]
  refine ⟨⟨[], [], ?_, .start b.site.host b.keys⟩, rfl, (turn?_congr (b := b) rfl next).trans turn,
    rfl⟩
  rw [(Alike.tidy _).errandStage?, errandStage?_putErrand]
  exact (congrArg _ (errandStage?_of_errand found)).trans (by simp)

/-- While the interpreters stay as they are, a sweep after a change of interpreters takes just those
keys out of the cache that were cached when it began and whose interpreter is not the active one of
their folder. It does so in one turn, which comes after it has looked at every key. It disposes of
no manager but those that activations evicted by it have found, and of no full server that another
activation has found. So where every cached key has the active interpreter of its folder, the sweep
evicts and disposes of nothing, and comes to its end. -/
theorem sweep_of_interpreters (host : Host) (plan : BackendName → Plan) (clock : Clock)
    (past : List Move) (next : Move) (e : ErrandId) (x : Errand) (later : List Move) :
    let b := (opening host plan clock).run past
    let c := b.move next
    let d := c.run later
    b.turn? next = some e → b.errand? e = some x → x.stage = .fresh →
    x.task = .sweep .interpreters →
    (∀ front, front <+: later →
      (c.run front).site.host.interpreter = b.site.host.interpreter) →
      (c.cache = b.cache ∧ (c.run (List.replicate (b.keys.length + 1) next)).cache =
        b.cache.filter fun entry => !b.isOutdated entry.1) ∧
      (∀ front turn, front ++ [turn] <+: later → (c.run front).turn? turn = some e →
        ((c.run front).move turn).cache = (c.run front).cache ∨
          ((c.run front).move turn).cache =
            (c.run front).cache.filter fun entry => !b.isOutdated entry.1) ∧
      (∀ evicted, d.errandOutcome? e = some (.swept evicted) →
        ∃ front turn, front ++ [turn] <+: later ∧ (c.run front).turn? turn = some e ∧
          ((c.run front).move turn).cache =
            (c.run front).cache.filter (fun entry => !b.isOutdated entry.1) ∧
          ∀ key, key ∈ evicted ↔ b.isOutdated key ∧ (c.run front).isCached key) ∧
      (∀ m j left evicted, d.errandStage? e = some (.disposing m j left evicted) →
        ∃ a scope r, d.files[a]? = some (scope, .settled (.ok r)) ∧ r.manager = m ∧
          b.isOutdated scope.key ∧
          ∀ i s, d.result? i = some (.ok s) → s.variant.isFull → s.manager = m → i = a) ∧
      ((∀ key, b.isCached key → deviates b.site.host key = false) →
        (∀ front turn, front ++ [turn] <+: later → (c.run front).turn? turn = some e →
          ((c.run front).move turn).cache = (c.run front).cache) ∧
        (∀ m j left evicted, d.errandStage? e ≠ some (.disposing m j left evicted)) ∧
        (c.run (List.replicate (b.keys.length + 3) next)).errandOutcome? e =
          some (.swept [])) := by
  intro b c d turn found stage task same
  have sound : b.Sound := (sound_opening host plan clock).run past
  have since : c = (opening host plan clock).run (past ++ [next]) := by
    rw [run_append, run_cons, run_nil]
  have sound' : c.Sound := sound.move _
  have custody : c.Custody :=
    since ▸ (custody_opening host plan clock).run (sound_opening host plan clock) _
  obtain ⟨looks, cache, turn, host'⟩ := looks_of_fresh turn found stage task
  have old : e < c.nextErrand := by
    obtain ⟨_, _, found, _⟩ := looks
    have found : c.errandStage? e = _ := found
    exact since ▸ lt_nextErrand_run (since ▸ found)
  have still (front : List Move) (inside : front <+: later) :
      (c.run front).site.host.interpreter = b.site.host.interpreter := same front inside
  have turned {front : List Move} {turn : Move} (inside : front ++ [turn] <+: later)
      (turns : (c.run front).turn? turn = some e) :
      ((c.run front).move turn).cache = (c.run front).cache ∨
        ((c.run front).move turn).cache =
          (c.run front).cache.filter fun entry => !b.isOutdated entry.1 := by
    have before := (List.prefix_append front [turn]).trans inside
    simpa only [contains_outdated] using
      looks.cache_turn sound' custody old (fun other part => still other (part.trans before)) turns
  have disposes {m : ManagerId} {j : JobId} {left : List Record} {evicted : List ScopeKey}
      (disposing : d.errandStage? e = some (.disposing m j left evicted)) :
      ∃ a scope r, d.files[a]? = some (scope, .settled (.ok r)) ∧ r.manager = m ∧
        b.isOutdated scope.key ∧
        ∀ i s, d.result? i = some (.ok s) → s.variant.isFull → s.manager = m → i = a := by
    have evicted := looks.has_evicted sound' custody old still disposing (by simp)
    simpa only [← List.contains_iff_mem, contains_outdated] using
      evicted.disposes sound' disposing
  refine ⟨⟨cache, ?left_alone⟩, fun front turn inside turns => turned inside turns,
    fun evicted swept => ?swept, fun m j left evicted disposing => disposes disposing,
    fun fits => ?fits⟩
  case left_alone =>
    obtain ⟨looks, also, turn⟩ := looks.runs_out turn (congrArg _ host')
    have evicts := (looks.evicted turn).1
    simp only [also, cache, contains_outdated] at evicts
    rw [List.replicate_succ', run_append]
    exact evicts
  case swept =>
    have ended := errandStage?_of_outcome swept
    obtain ⟨front, turn, inside, turns, looks, sweeping⟩ :=
      looks.has_evicted sound' custody old still ended (by simp)
    have evicts := (looks.evicted turns).1
    simp only [contains_outdated] at evicts
    refine ⟨front, turn, inside, turns, evicts, fun key => ?_⟩
    rw [(sweeping.ended ended).1, List.mem_filter, ← List.contains_iff_mem, contains_outdated]
  case fits =>
    have none (key : ScopeKey) : b.isOutdated key = false := by
      cases cached : b.isCached key with
      | false => simp [isOutdated, cached]
      | true => simp [isOutdated, fits key cached]
    refine ⟨fun front turn inside turns => ?_, fun m j left evicted disposing => ?_, ?_⟩
    · simpa [none] using turned inside turns
    · obtain ⟨a, scope, r, _, _, stale, _⟩ := disposes disposing
      simp [none] at stale
    · obtain ⟨looks, _, turn⟩ := looks.runs_out turn (congrArg _ host')
      have stale : b.keys.filter (deviates b.site.host) = [] :=
        List.filter_eq_nil_iff.mpr fun key mem => by simp [fits key (mem_keys.mp mem)]
      rw [List.replicate_add, run_append]
      exact looks.swept turn stale

/-- One interpreter is active for a file, and another one for its folder and for all other files. -/
def mixedHost : Host :=
  { fullHost with
    folders := [outerFolder]
    interpreter := fun resource =>
      .ok (some (if resource = some outerScript then python else newPython)) }

/-- The file is looked up with an interpreter that is given along and with its own, and another file
of the folder with its own, which is the folder's. Both servers of the file come up. -/
def lookingUp : List Move :=
  [.entrust (.find (some outerScript) (some ⟨"/usr/bin/pypy", none⟩)), .errand 0,
    .entrust (.find (some outerScript) none), .errand 1,
    .entrust (.prepare (some script) none), .errand 2] ++
    List.replicate 10 (.agent (.activation 0)) ++ List.replicate 10 (.agent (.activation 1))

/-- Then a sweep is entrusted. -/
def aboutToSweep : Broker :=
  (opening mixedHost (fun _ => {}) {}).run (lookingUp ++ [.entrust (.sweep .interpreters)])

private theorem errand?_aboutToSweep :
    aboutToSweep.errand? 3 = some { id := 3, task := .sweep .interpreters } := by
  have numbered : ((opening mixedHost (fun _ => {}) {}).run lookingUp).IsNumbered :=
    ((watchful_opening ..).run (kept_opening ..) lookingUp).numbered
  have next : ((opening mixedHost (fun _ => {}) {}).run lookingUp).nextErrand = 3 := by
    decide +kernel
  rw [aboutToSweep, run_append]
  generalize (opening mixedHost (fun _ => {}) {}).run lookingUp = b at numbered next
  have found := numbered.errand?_entrust (.sweep .interpreters)
  rw [next] at found
  simpa only [run_cons, run_nil, move, knows, if_true] using found

/-- The keys are looked at in their order. -/
private theorem move_aboutToSweep : aboutToSweep.move (.errand 3) =
    (aboutToSweep.ticked.putErrand 3 (.surveying [⟨"file:///a", "/usr/bin/pypy"⟩,
      ⟨"file:///a", "/usr/bin/python"⟩, ⟨"file:///a", "/usr/bin/python3"⟩] [] [])).tidy := by
  have keys : (aboutToSweep.cache.map (·.1)).eraseReps = [⟨"file:///a", "/usr/bin/pypy"⟩,
      ⟨"file:///a", "/usr/bin/python"⟩, ⟨"file:///a", "/usr/bin/python3"⟩] := by decide +kernel
  rw [move_survey (e := 3) _ (by decide +kernel) errand?_aboutToSweep rfl rfl (by decide +kernel),
    keys]

/-- The surroundings never change and always have an answer, and the files are looked up with the
interpreters that are active for them. Still a sweep takes both activations of the one file out of
the cache and disposes of their servers. -/
theorem sweep_evicts_though_nothing_changed :
    let b := aboutToSweep
    let c := b.run (List.replicate 19 (.errand 3))
    (∀ resource, ∃ i, mixedHost.interpreter resource = .ok (some i)) ∧
      (∀ host plan, .change host plan ∉ lookingUp) ∧
    (b.cache = [(⟨"file:///a", "/usr/bin/pypy"⟩, 0), (⟨"file:///a", "/usr/bin/python"⟩, 1),
        (⟨"file:///a", "/usr/bin/python3"⟩, 2)] ∧
      b.result? 0 = some (.ok ⟨.fullB, 0⟩) ∧ b.result? 1 = some (.ok ⟨.fullB, 1⟩) ∧
      b.isDisposed 0 = false ∧ b.isDisposed 1 = false) ∧
    c.cache = [(⟨"file:///a", "/usr/bin/python3"⟩, 2)] ∧ c.isDisposed 0 ∧ c.isDisposed 1 := by
  intro b c
  have begun : c = ((b.ticked.putErrand 3
        (.surveying [⟨"file:///a", "/usr/bin/pypy"⟩, ⟨"file:///a", "/usr/bin/python"⟩,
          ⟨"file:///a", "/usr/bin/python3"⟩] [] [])).tidy).run (List.replicate 18 (.errand 3)) := by
    rw [← move_aboutToSweep, ← run_cons, ← List.replicate_succ]
  have cache : c.cache = [(⟨"file:///a", "/usr/bin/python3"⟩, 2)] := by
    rw [begun]
    decide +kernel
  have first : c.isDisposed 0 := by
    rw [begun]
    decide +kernel
  have second : c.isDisposed 1 := by
    rw [begun]
    decide +kernel
  have ended : b.result? 0 = some (.ok ⟨.fullB, 0⟩) ∧ b.result? 1 = some (.ok ⟨.fullB, 1⟩) :=
    ⟨by decide +kernel, by decide +kernel⟩
  exact ⟨fun resource => ⟨_, rfl⟩, by simp [lookingUp],
    ⟨by decide +kernel, ended.1, ended.2, by decide +kernel, by decide +kernel⟩, cache, first,
    second⟩

/-- The activation whose interpreter is the one of the folder is the only one that stays. -/
theorem sweep_keeps_active_interpreter :
    let b := aboutToSweep
    let c := b.move (.errand 3)
    (b.turn? (.errand 3) = some 3 ∧
      b.errand? 3 = some { id := 3, task := .sweep .interpreters } ∧
      ∀ front, front <+: List.replicate 4 (.errand 3) →
        (c.run front).site.host.interpreter = b.site.host.interpreter) ∧
    (c.run (List.replicate 4 (.errand 3))).cache =
      b.cache.filter (fun entry => !b.isOutdated entry.1) ∧
    b.cache.filter (fun entry => !b.isOutdated entry.1) =
      [(⟨"file:///a", "/usr/bin/python3"⟩, 2)] := by
  have turn : aboutToSweep.turn? (.errand 3) = some 3 := by decide +kernel
  have keys : aboutToSweep.keys.length = 3 := by
    rw [keys_of_sorted aboutToSweep (by decide +kernel)]
    decide +kernel
  have kept : aboutToSweep.cache.filter (fun entry => !aboutToSweep.isOutdated entry.1) =
      [(⟨"file:///a", "/usr/bin/python3"⟩, 2)] := by decide +kernel
  obtain ⟨looks, _, turns, host⟩ := looks_of_fresh turn errand?_aboutToSweep rfl rfl
  have same (front : List Move) (inside : front <+: List.replicate 4 (.errand 3)) :
      ((aboutToSweep.move (.errand 3)).run front).site.host.interpreter =
        aboutToSweep.site.host.interpreter := by
    obtain ⟨short, same⟩ := List.prefix_replicate_iff.mp inside
    rw [same, looks.host_run turns (congrArg _ host) (by omega), host]
  have all := sweep_of_interpreters mixedHost (fun _ => {}) {}
    (lookingUp ++ [.entrust (.sweep .interpreters)]) (.errand 3) 3
    { id := 3, task := .sweep .interpreters } (List.replicate 4 (.errand 3))
  rw [← aboutToSweep] at all
  have cache := (all turn errand?_aboutToSweep rfl rfl same).1.2
  rw [keys] at cache
  exact ⟨⟨turn, errand?_aboutToSweep, same⟩, cache, kept⟩

end LanguageBroker.Broker
