import LanguageBroker.Proofs.OverlookedServer
import LanguageBroker.Proofs.TendedServers

/-!
The end of a broker. When everything has been swept out and nothing is on its way any more, every
server was disposed of once, unless a sweep was given up before. What such a sweep was to dispose
of stays as it is: nobody else comes to it.
-/

namespace LanguageBroker

/-! The keys of the cache. -/

private theorem mem_loop {α : Type} [BEq α] [LawfulBEq α] {x : α} (a : α) (l kept : List α) :
    x ∈ List.eraseRepsBy.loop (fun x y => x == y) a l kept ↔ x = a ∨ x ∈ l ∨ x ∈ kept := by
  induction l generalizing a kept with
  | nil => simp [List.eraseRepsBy.loop, or_comm]
  | cons y l ih =>
    simp only [List.eraseRepsBy.loop]
    split
    · next same =>
      obtain rfl := eq_of_beq same
      rw [ih, List.mem_cons]
      tauto
    · rw [ih, List.mem_cons, List.mem_cons]
      tauto

private theorem mem_eraseReps {α : Type} [BEq α] [LawfulBEq α] {x : α} (l : List α) :
    x ∈ l.eraseReps ↔ x ∈ l := by
  cases l with
  | nil => rfl
  | cons a l =>
    refine (mem_loop a l []).trans ?_
    simp

theorem ScopeKey.mem_sorted {key : ScopeKey} (keys : List ScopeKey) :
    key ∈ ScopeKey.sorted keys ↔ key ∈ keys := by
  rw [sorted, mem_eraseReps, List.mem_mergeSort]

namespace Broker

variable {b c d : Broker} {a : ActivationId} {m : ManagerId} {e : ErrandId} {r : Record}
  {sight : Option Sight}

/-- Does a move begin to sweep everything out? -/
def sweepsAll (b : Broker) (next : Move) : Bool :=
  (b.turn? next).any fun e =>
    match b.errand? e with
    | some { stage := .fresh, task := .sweep .everything, .. } => true
    | _ => false

/-- Does a move begin an activation? -/
def begins (b : Broker) (next : Move) : Bool :=
  b.activations.length < (b.move next).activations.length

/-- Is nothing on its way any more? -/
def isStill (b : Broker) : Bool :=
  (b.managers.all fun n => n.jobs.all (·.isDone)) && (b.activations.all fun x => x.stage.isSettled)
    && b.errands.all fun x => !x.stage.isLaden

theorem isDone_of_isStill (still : b.isStill) {n : Manager} {j : JobId} {x : Job}
    (manager : b.managers[m]? = some n) (found : n.job? j = some x) : x.isDone := by
  simp only [isStill, Bool.and_eq_true, List.all_eq_true] at still
  exact still.1.1 n (List.mem_of_getElem? manager) x (List.mem_of_find?_eq_some found)

theorem isSettled_of_isStill (still : b.isStill) {stage : Activation.Stage}
    (at_stage : b.stage? a = some stage) : stage.isSettled := by
  obtain ⟨x, hx, rfl⟩ := activation_of_stage? at_stage
  simp only [isStill, Bool.and_eq_true, List.all_eq_true] at still
  exact still.1.2 x (List.mem_of_getElem? hx)

theorem isLaden_of_isStill (still : b.isStill) {stage : Errand.Stage}
    (found : b.errandStage? e = some stage) : stage.isLaden = false := by
  obtain ⟨x, hx, rfl⟩ := Option.map_eq_some_iff.mp found
  simp only [isStill, Bool.and_eq_true, List.all_eq_true, Bool.not_eq_true'] at still
  exact still.2 x (List.mem_of_find?_eq_some hx)

theorem mem_keys {key : ScopeKey} : key ∈ b.keys ↔ b.isCached key := by
  rw [keys, ScopeKey.mem_sorted, isCached, List.mem_map]
  constructor
  · rintro ⟨x, mem, rfl⟩
    cases found : b.cache.lookup x.1 with
    | some a => rfl
    | none => simpa using List.lookup_eq_none_iff.mp found x mem
  · intro cached
    obtain ⟨a, found⟩ := Option.isSome_iff_exists.mp cached
    exact ⟨_, mem_cache_of_lookup found, rfl⟩

theorem cache_of_evict (b : Broker) (e : ErrandId) : (b.beginEviction e b.keys).cache = [] := by
  refine List.filter_eq_nil_iff.mpr fun x hx => ?_
  have key : x.1 ∈ b.keys := (ScopeKey.mem_sorted _).mpr (List.mem_map_of_mem hx)
  simp [List.contains_eq_mem, key, mem_keys.mp key]

/-- After that the cache is empty. -/
theorem cache_of_sweepsAll (h : b.Watchful) {next : Move} (all : b.sweepsAll next) :
    (b.move next).cache = [] := by
  obtain ⟨e, turn, fresh⟩ := (Option.any_eq_true _ _).mp all
  split at fresh
  · next id _ _ found =>
    have at_post := mem_posts found
    cases next with
    | errand i =>
      simp only [turn?] at turn
      split at turn
      · simp at turn
      · next free =>
        obtain rfl := Option.some.inj turn
        have runs : b.canRun i := by simp [canRun, found]
        have here : b.ticked.errand? i = _ := found
        have emptied (c : Broker) :
            (({ c with watch := none } : Broker).beginEviction i c.keys).cache = [] :=
          cache_of_evict { c with watch := none } i
        simp only [move, runs, free, stepErrand, here, beginErrand]
        exact emptied _
    | agent a =>
      cases a with
      | watch =>
        obtain ⟨w, hw, sweep⟩ := Option.bind_eq_some_iff.mp turn
        have own : b.isWatched e := by simp [isWatched, hw, sweep]
        have kind := h.sweeps own at_post
        simp at kind
      | _ => simp [turn?] at turn
    | _ => simp [turn?] at turn
  · simp at fresh

theorem files_length (b : Broker) : b.files.length = b.activations.length := by simp [files]

/-- A cache that is empty stays so until an activation is begun. -/
theorem cache_run (h : b.Kept) (empty : b.cache = []) {moves : List Move}
    (none : never begins b moves) : (b.run moves).cache = [] := by
  induction moves generalizing b with
  | nil => exact empty
  | cons next moves ih =>
    simp only [never, Bool.and_eq_true, Bool.not_eq_true', begins, decide_eq_false_iff_not,
      ← files_length] at none
    refine ih (h.move next) ?_ (by simpa only [begins, ← files_length] using none.2)
    cases (h.moves next).filing with
    | rest _ cache => exact cache.trans empty
    | turn _ _ _ _ _ _ cache => exact cache.trans empty
    | begin scope _ files => exact absurd (by simp [files]) none.1
    | evict stale _ cache => rw [cache, empty, List.filter_nil]

/-- Nobody waits for anything any more. -/
structure Idle (b : Broker) : Prop where
  still : b.isStill
  empty : b.cache = []

namespace Idle

theorem not_held (idle : b.Idle) (a : ActivationId) : ¬ b.Held a := by
  rintro (⟨key, entry⟩ | ⟨e, stage, found, mem⟩)
  · simp [idle.empty] at entry
  · simp [(Errand.Stage.of_light (isLaden_of_isStill idle.still found)).2] at mem

theorem not_lists (idle : b.Idle) (m : ManagerId) : ¬ b.Lists m := by
  rintro ⟨e, stage, r, found, mem, _⟩
  simp [(Errand.Stage.of_light (isLaden_of_isStill idle.still found)).1] at mem

/-- A disposal that was asked for has come to its end. -/
theorem disposed (idle : b.Idle) (h : b.Sound) {n : Manager} (manager : b.managers[m]? = some n)
    (doomed : n.IsDoomed) : n.disposed :=
  (h.staffed.clear manager).disposed doomed fun hx _ => isDone_of_isStill idle.still manager hx

/-- Who has a server was found by an activation that is over. -/
theorem recorded (idle : b.Idle) (h : b.Sound) {n : Manager} {s : BackendId}
    (manager : b.managers[m]? = some n) (has : n.Has s) :
    ∃ a stage r, b.stage? a = some stage ∧ stage.record? = some r ∧ r.manager = m := by
  rcases h.kept.quiet manager with quiet | ⟨a, stage, at_stage, named⟩
  · exact absurd has (quiet.has s)
  · have settled := isSettled_of_isStill idle.still at_stage
    obtain ⟨r, record, same⟩ := Activation.Stage.record?_of_isSettled settled named
    exact ⟨a, stage, r, at_stage, record, same⟩

end Idle

theorem Stocked.live (h : b.Stocked) {s : BackendId} (left : b.site.disposals s ≠ 1) :
    b.site.disposals s = 0 := by
  have once := h.once s
  omega

/-- What no sweep waits for or lists and nobody can look up has been disposed of. -/
theorem Tended.disposed_once (h : b.Tended) (idle : b.Idle) {s : BackendId}
    (made : s < b.site.backends.length) : b.site.disposals s = 1 := by
  by_contra left
  obtain ⟨m, n, manager, has⟩ := h.stocked.kept made (h.stocked.live left)
  obtain ⟨a, stage, r, at_stage, record, rfl⟩ := idle.recorded h.toSound manager has
  rcases h.minded at_stage with held | ⟨_, minded⟩
  · exact idle.not_held a held
  · cases minded r record with
    | listed listed => exact idle.not_lists _ listed
    | found held => exact idle.not_held _ held
    | @doomed k also doomed =>
      obtain rfl := Option.some.inj (manager.symm.trans also)
      have disposed := idle.disposed h.toSound manager doomed
      have barren := (h.shut manager).barren disposed fun hx _ =>
        isDone_of_isStill idle.still manager hx
      exact barren.has s has

/-! What is lost. -/

/-- The manager is not disposed of, its activations are out of the cache, and no sweep waits for
them or lists it. -/
structure Forsaken (b : Broker) (m : ManagerId) : Prop where
  recorded : ∃ r, b.IsRecorded r ∧ r.manager = m
  live : ∀ {n : Manager}, b.managers[m]? = some n → ¬ n.IsDoomed
  unlisted : ¬ b.Lists m
  out : ∀ {a : ActivationId} {stage : Activation.Stage} {r : Record}, b.stage? a = some stage →
    stage.record? = some r → r.manager = m → ¬ b.Held a
  unshared : ∀ {r}, b.simple = some r → r.manager ≠ m

/-- A sweep waits for an activation that it has just evicted or has waited for before. -/
theorem Change.held_of_held (filed : b.Filed) (change : Change sight b c) (held : c.Held a)
    (old : a < b.files.length) : b.Held a := by
  rcases held with ⟨key, entry⟩ | ⟨e, stage, found, mem⟩
  · refine .inl ⟨key, ?_⟩
    cases change.filing with
    | rest _ cache => exact cache ▸ entry
    | turn _ _ _ _ _ _ cache => exact cache ▸ entry
    | begin scope _ _ cache =>
      rw [cache] at entry
      rcases List.mem_append.mp entry with entry | new
      · exact entry
      · obtain ⟨_, rfl⟩ := Prod.mk.inj (List.mem_singleton.mp new)
        exact absurd old (Nat.lt_irrefl _)
    | evict stale _ cache => exact (List.mem_filter.mp (cache ▸ entry)).1
  · cases change.stride filed found with
    | stays same => exact .inr ⟨e, stage, same, mem⟩
    | empty _ _ evicted => exact .inl (evicted a mem).1
    | fewer before _ evicted => exact .inr ⟨e, _, before, evicted mem⟩
    | gather before => exact .inr ⟨e, _, before, List.mem_cons_of_mem _ mem⟩
    | look => simp [Errand.Stage.evicted] at mem

namespace Forsaken

theorem change (forsaken : b.Forsaken m) (h : b.Kept) (filed : b.Filed)
    (change : Change sight b c) : c.Forsaken m := by
  obtain ⟨s, recorded, same⟩ := forsaken.recorded
  have filing := change.filing
  refine ⟨⟨s, ?_, same⟩, fun {n} manager doomed => ?_, ?_,
    fun {a stage r} at_stage record about held => ?_, fun {r} shared about => ?_⟩
  · obtain ⟨a, stage, at_stage, record⟩ := recorded
    obtain ⟨later, at_later, also⟩ := filing.record at_stage record
    exact ⟨a, later, at_later, also⟩
  · rcases change.doomed h manager doomed with ⟨x, hx, doomed⟩ |
      ⟨a, stage, j, at_stage, starts⟩ | ⟨e, stage, r, found, mem, about, _⟩
    · exact forsaken.live hx doomed
    · exact h.not_starts recorded at_stage (same ▸ starts)
    · exact forsaken.unlisted ⟨e, stage, r, found, mem, about⟩
  · rintro ⟨e, stage, r, found, mem, about⟩
    have lists {stage : Errand.Stage} (found : b.errandStage? e = some stage)
        (mem : r ∈ stage.records) : b.Lists m := ⟨e, stage, r, found, mem, about⟩
    cases change.stride filed found with
    | stays same => exact forsaken.unlisted (lists same mem)
    | empty records => simp [records] at mem
    | fewer before records => exact forsaken.unlisted (lists before (records mem))
    | gather before =>
      rcases mem_gather mem with old | ⟨other, at_other, record⟩
      · exact forsaken.unlisted (lists before old)
      · exact forsaken.out at_other record about (.inr ⟨e, _, before, List.mem_cons_self⟩)
    | look before => exact forsaken.unlisted (lists before mem)
  · obtain ⟨⟨scope, _⟩, here, rfl⟩ := Option.map_eq_some_iff.mp at_stage
    rcases change.post here with ⟨rfl, _⟩ | ⟨old, was, post⟩
    · simp [Activation.Stage.record?] at record
    · have at_old := stage?_of_file was
      have before := change.held_of_held filed held (lt_of_stage? at_old)
      have named := (Activation.Stage.manager?_of_record? record).1
      cases post with
      | inherits inherits =>
        -- the activation had found the manager before, as nobody else starts it
        obtain ⟨i, other, at_other, found⟩ := recorded
        have also := (Activation.Stage.manager?_of_record? found).1
        have was := (inherits.manager named).1
        rcases h.alone at_old at_other was (about.trans same.symm ▸ also) with rfl | ⟨simple, _⟩
        · obtain rfl := Option.some.inj (at_old.symm.trans at_other)
          exact forsaken.out at_old found same before
        · exact forsaken.out at_old simple about before
      | shared k concluding simple =>
        subst concluding
        obtain rfl := Option.some.inj record
        exact forsaken.unshared simple about
      | launched variant last =>
        have inside := h.recorded_within recorded
        have new : b.managers.length = r.manager := Option.some.inj (last.symm.trans named)
        rw [same, ← about, new] at inside
        exact Nat.lt_irrefl _ inside
  · rcases change.simple h shared with old | ⟨a, stage, j, at_stage, starts, _⟩
    · exact forsaken.unshared old about
    · exact h.not_starts recorded at_stage (same ▸ about ▸ starts)

theorem alike (forsaken : b.Forsaken m) (alike : Alike b c) : c.Forsaken m := by
  have stages := stage?_congr (b := b) alike.activations
  obtain ⟨s, recorded, same⟩ := forsaken.recorded
  refine ⟨⟨s, isRecorded_congr alike.activations recorded, same⟩, fun {n} manager doomed => ?_, ?_,
    fun {a stage r} at_stage record about held => ?_, fun {r} shared => ?_⟩
  · obtain ⟨x, hx, aside⟩ := alike.before manager
    exact forsaken.live hx (doomed_of_aside aside.mild doomed)
  · rintro ⟨e, stage, r, found, rest⟩
    exact forsaken.unlisted ⟨e, stage, r, alike.errandStage? e ▸ found, rest⟩
  · refine forsaken.out ((stages a).symm.trans at_stage) record about ?_
    rcases held with ⟨key, entry⟩ | ⟨e, stage, found, mem⟩
    · exact .inl ⟨key, alike.cache ▸ entry⟩
    · exact .inr ⟨e, stage, alike.errandStage? e ▸ found, mem⟩
  · exact forsaken.unshared (alike.simple ▸ shared)

theorem run (forsaken : b.Forsaken m) (h : b.Kept) (filed : b.Filed) (moves : List Move) :
    (b.run moves).Forsaken m := by
  have all : (b.run moves).Forsaken m ∧ (b.run moves).Kept ∧ (b.run moves).Filed := by
    refine run_induction (P := fun c => c.Forsaken m ∧ c.Kept ∧ c.Filed) ?_
      ⟨forsaken, h, filed⟩ moves
    rintro b next ⟨forsaken, h, filed⟩
    refine (h.moves next).keeps (P := fun c => c.Forsaken m ∧ c.Kept ∧ c.Filed)
      ⟨forsaken, h, filed⟩ ?_ ?_
    · rintro c d ⟨forsaken, h, filed⟩ same
      exact ⟨forsaken.alike same, h.alike same, filed.filing same.filing⟩
    · rintro sight c d ⟨forsaken, h, filed⟩ change
      exact ⟨forsaken.change h filed change, h.change change, filed.filing change.filing⟩
  exact all.1

/-- Nobody disposes of a manager that nobody comes to. -/
theorem isDisposed (forsaken : b.Forsaken m) (h : b.Kept) : b.isDisposed m = false := by
  obtain ⟨r, recorded, rfl⟩ := forsaken.recorded
  have manager := List.getElem?_eq_getElem (h.recorded_within recorded)
  by_contra disposed
  refine forsaken.live manager (.inl ?_)
  simpa [Broker.isDisposed, manager] using disposed

end Forsaken

/-- When nobody waits for anything any more, nobody comes to a manager that was left, unless it is
shared. -/
theorem Idle.forsaken (idle : b.Idle) (h : b.Sound) {n : Manager} {s : BackendId}
    (manager : b.managers[m]? = some n) (has : n.Has s) (live : n.disposed = false)
    (unshared : ∀ r, b.simple = some r → r.manager ≠ m) : b.Forsaken m where
  recorded := by
    obtain ⟨a, stage, r, at_stage, record, same⟩ := idle.recorded h manager has
    exact ⟨r, ⟨a, stage, at_stage, record⟩, same⟩
  live {k} also doomed := by
    obtain rfl := Option.some.inj (manager.symm.trans also)
    simpa [live] using idle.disposed h manager doomed
  unlisted := idle.not_lists m
  out _ _ _ := idle.not_held _
  unshared shared := unshared _ shared

/-- Once everything was swept out, no activation was begun afterwards and nothing is on its way any
more, every server was disposed of exactly once, if no sweep was ever given up before its end. If
one was, a server that was left has a manager whose disposal has not come to its end or will never
be asked for, unless it is the one that scopes share. -/
theorem sweep_of_everything_disposes (host : Host) (plan : BackendName → Plan) (clock : Clock)
    (past : List Move) (ends : Move) (rest : List Move) :
    let b := (opening host plan clock).run past
    let c := b.run (ends :: rest)
    b.sweepsAll ends → never begins (b.move ends) rest → c.isStill →
      (never givesUp (opening host plan clock) (past ++ ends :: rest) →
        ∀ s < c.site.backends.length, c.site.disposals s = 1) ∧
      ∀ s < c.site.backends.length, c.site.disposals s ≠ 1 →
        ∃ (m : ManagerId) (n : Manager), c.managers[m]? = some n ∧ n.Has s ∧
          (n.disposed ∨ (∃ r, c.simple = some r ∧ r.manager = m) ∨
            ∀ later, (c.run later).isDisposed m = false) := by
  intro b c all none still
  have watchful : b.Watchful :=
    (watchful_opening host plan clock).run (kept_opening host plan clock) past
  have sound : b.Sound := (sound_opening host plan clock).run past
  have empty := cache_of_sweepsAll watchful all
  have idle : c.Idle := ⟨still, cache_run (sound.kept.move ends) empty none⟩
  refine ⟨fun careful s made => ?_, fun s made left => ?_⟩
  · rw [never_append, Bool.and_eq_true] at careful
    have tended : b.Tended := (tended_opening host plan clock).run careful.1
    exact Tended.disposed_once (tended.run careful.2) idle made
  · have sound : c.Sound := sound.run (ends :: rest)
    obtain ⟨m, n, manager, has⟩ := sound.stocked.kept made (sound.stocked.live left)
    refine ⟨m, n, manager, has, ?_⟩
    by_cases disposed : n.disposed
    · exact .inl disposed
    · by_cases shared : ∃ r, c.simple = some r ∧ r.manager = m
      · exact .inr (.inl shared)
      · have forsaken := idle.forsaken sound manager has (by simpa using disposed)
          fun r hr same => shared ⟨r, hr, same⟩
        exact .inr (.inr fun later =>
          (forsaken.run sound.kept sound.filed later).isDisposed (sound.run later).kept)

/-- The watch begins the sweep that it has taken on. -/
private theorem watch_survey (b : Broker) {news : Inbox Unit} {x : Errand}
    (watch : b.watch = some { news, sweep := some e }) (found : b.errand? e = some x)
    (stage : x.stage = .fresh) (task : x.task = .sweep .interpreters)
    (sorted : (b.cache.map (·.1)).Pairwise fun k l => ScopeKey.le k l) :
    b.move (.agent .watch) = (b.ticked.putErrand e
      (.surveying (b.cache.map (·.1)).eraseReps [] [])).tidy := by
  have runs : b.canRun e := by simp [canRun, found, stage]
  have going : b.errandOutcome? e = none := by
    obtain ⟨id, task, _, _, _⟩ := x
    obtain rfl : _ = _ := stage
    simp [errandOutcome?, found]
  have also : b.ticked.errand? e = some x := found
  have still : b.ticked.errandOutcome? e = none := going
  have watched : b.ticked.watch = some { news, sweep := some e } := watch
  have keys : b.ticked.keys = (b.cache.map (·.1)).eraseReps := b.ticked.keys_of_sorted sorted
  simp [move, isReady, watch, canAwaitErrand, runs, act, stepWatch, watched, awaitErrand, still,
    stepErrand, also, stage, task, beginErrand, keys]

/-- The watch has ended with its sweep. -/
def unwatched (b : Broker) : Broker :=
  { (match b.watch.bind (·.sweep) with
    | some w => b.forgetErrand w
    | none => b) with watch := none }

/-- Everything begins to be swept out. -/
private theorem move_everything (b : Broker) {x : Errand} (free : b.isWatched e = false)
    (found : b.errand? e = some x) (stage : x.stage = .fresh) (task : x.task = .sweep .everything)
    (sorted : (b.cache.map (·.1)).Pairwise fun k l => ScopeKey.le k l) :
    b.move (.errand e) =
      (b.ticked.unwatched.beginEviction e (b.cache.map (·.1)).eraseReps).tidy := by
  have runs : b.canRun e := by simp [canRun, found, stage]
  have also : b.ticked.errand? e = some x := found
  have cache : b.ticked.unwatched.cache = b.cache := by
    unfold unwatched
    split
    · exact (files_forgetErrand b.ticked _).2
    · rfl
  have keys : b.ticked.unwatched.keys = (b.cache.map (·.1)).eraseReps :=
    cache ▸ b.ticked.unwatched.keys_of_sorted (cache ▸ sorted)
  simp only [move, runs, free, stepErrand, also, stage, task, beginErrand]
  rw [← keys]
  rfl

/-- Surroundings in which every server can be made. -/
def fullHost : Host := { simpleHost with prefersSimple := false }

/-- A lookup starts a full server, up to the last two steps of its activation. -/
def coming : List Move :=
  [.entrust (.find none (some python)), .errand 0] ++ List.replicate 8 (.agent (.activation 0))

/-- The lookup is over, and everything is to be swept out. -/
def ending : List Move :=
  coming ++ List.replicate 2 (.agent (.activation 0)) ++ [.entrust (.sweep .everything)]

/-- The interpreters have changed, and the watch has taken on a sweep. -/
def changing : List Move := coming ++ [.hear .interpreter, .agent .watch]

/-- The watch's sweep waits for the evicted activation, and everything is to be swept out. -/
def waiting : List Move := List.replicate 2 (.agent .watch) ++ [.entrust (.sweep .everything)]

/-- What follows when the watch's sweep is given up. -/
def tearing : List Move :=
  List.replicate 2 (.errand 2) ++ List.replicate 2 (.agent (.activation 0))

/-- The watch's sweep looks at its one key, and goes on until everything is to be swept out. -/
def surveying : Broker :=
  (((opening fullHost (fun _ => {}) {}).run changing).ticked.putErrand 1
    (.surveying [.of none python] [] [])).tidy.run waiting

private theorem surveying_eq : (opening fullHost (fun _ => {}) {}).run
    (changing ++ .agent .watch :: waiting) = surveying := by
  have looks := watch_survey (e := 1) ((opening fullHost (fun _ => {}) {}).run changing) rfl rfl
    rfl rfl (by decide)
  rw [run_append, run_cons, looks]
  rfl

private theorem move_surveying :
    surveying.move (.errand 2) = (surveying.ticked.unwatched.beginEviction 2 []).tidy :=
  move_everything (e := 2) surveying (x := ⟨2, .sweep .everything, .fresh, 0, false⟩) rfl rfl rfl
    rfl (by decide)

private theorem move_ending : ((opening fullHost (fun _ => {}) {}).run ending).move (.errand 1) =
    (((opening fullHost (fun _ => {}) {}).run ending).ticked.unwatched.beginEviction 1
      [.of none python]).tidy :=
  move_everything (e := 1) _ (by decide) rfl rfl rfl (by decide)

/-- The one server of a broker is disposed of when everything is swept out. When the sweep that
waits for its activation is given up before, the server is left. -/
theorem given_up_sweep_leaves_server :
    let clean := ((opening fullHost (fun _ => {}) {}).run ending).run
      (.errand 1 :: List.replicate 8 (.errand 1))
    let b := (opening fullHost (fun _ => {}) {}).run (changing ++ .agent .watch :: waiting)
    let torn := b.run (.errand 2 :: tearing)
    (clean.isStill ∧ clean.site.backends.length = 1 ∧ clean.site.disposals 0 = 1) ∧
    (b.sweepsAll (.errand 2) ∧ b.givesUp (.errand 2)) ∧
    torn.isStill ∧ torn.site.backends.length = 1 ∧ torn.site.disposals 0 = 0 ∧
      ∀ later, (torn.run later).isDisposed 0 = false := by
  intro clean b torn
  refine ⟨?_, ?_⟩
  · have careful : never givesUp (opening fullHost (fun _ => {}) {})
        (ending ++ .errand 1 :: List.replicate 8 (.errand 1)) := by
      rw [never_append, never, move_ending]
      decide
    have quiet : never begins (((opening fullHost (fun _ => {}) {}).run ending).move (.errand 1))
        (List.replicate 8 (.errand 1)) := by
      rw [move_ending]
      decide
    have same : clean = (((opening fullHost (fun _ => {}) {}).run ending).move (.errand 1)).run
        (List.replicate 8 (.errand 1)) := run_cons ..
    rw [move_ending] at same
    have still : clean.isStill := by
      rw [same]
      decide
    have one : clean.site.backends.length = 1 := by
      rw [same]
      rfl
    exact ⟨still, one, (sweep_of_everything_disposes fullHost (fun _ => {}) {} ending (.errand 1)
      (List.replicate 8 (.errand 1)) (by decide) quiet still).1 careful 0
        (by rw [show _ = 1 from one]; exact Nat.one_pos)⟩
  · have here : b = surveying := surveying_eq
    have quiet : never begins (b.move (.errand 2)) tearing := by
      rw [here, move_surveying]
      decide
    have after : torn = (b.move (.errand 2)).run tearing := run_cons ..
    rw [here, move_surveying] at after
    have still : torn.isStill := by
      rw [after]
      decide
    have one : torn.site.backends.length = 1 := by
      rw [after]
      rfl
    have live : torn.site.disposals 0 = 0 := by
      rw [after]
      decide
    have sweeps : b.sweepsAll (.errand 2) := by
      rw [here]
      rfl
    have tears : b.givesUp (.errand 2) := by
      rw [here]
      decide
    have managers : torn.managers.map (·.disposed) = [false] := by
      rw [after]
      rfl
    have unshared : torn.simple = none := by
      rw [after]
      rfl
    obtain ⟨m, n, manager, _, rest⟩ := (sweep_of_everything_disposes fullHost (fun _ => {}) {}
      (changing ++ .agent .watch :: waiting) (.errand 2) tearing sweeps quiet still).2 0
        (by rw [show _ = 1 from one]; exact Nat.one_pos)
        (by rw [show _ = 0 from live]; exact Nat.zero_ne_one)
    have flag : (torn.managers.map (·.disposed))[m]? = some n.disposed := by
      rw [List.getElem?_map, manager]
      rfl
    rw [managers] at flag
    obtain rfl : m = 0 := Nat.lt_one_iff.mp (List.getElem?_eq_some_iff.mp flag).1
    refine ⟨⟨sweeps, tears⟩, still, one, live, fun later => ?_⟩
    rcases rest with disposed | ⟨r, shared, _⟩ | forever
    · simp [disposed] at flag
    · exact absurd (unshared.symm.trans shared) (by simp)
    · exact forever later

end Broker

end LanguageBroker
