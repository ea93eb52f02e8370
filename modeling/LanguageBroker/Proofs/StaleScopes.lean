import LanguageBroker.Editor.Session
import LanguageBroker.Proofs.BrokerEnd
import LanguageBroker.Proofs.ErrandTurns
import LanguageBroker.Proofs.ServerFolders
import LanguageBroker.Proofs.SweepCustody

/-!
Folders that are closed. A sweep takes the keys of closed folders out of the cache, and no others.
When it is over, every full server that the evicted activations have found was disposed of once,
also where an activation was still on its way when it was evicted. The sweep disposes of no other
full server.
-/

namespace LanguageBroker

/-! The open folders. -/

namespace Workspace

/-- Some folders are closed, and then some are opened. -/
def change (folders : List Folder) (event : List Folder × List Folder) : List Folder :=
  add (remove folders event.1) event.2

/-- Is a folder of the URI open after a change, given whether one was before? -/
def opens (uri : Uri) (was : Bool) (event : List Folder × List Folder) : Bool :=
  (event.2.any fun f => f.uri = uri) || was && !event.1.any fun f => f.uri = uri

/-- Is a folder of the URI open after all the changes? -/
def isOpen (opened : List Folder) (events : List (List Folder × List Folder)) (uri : Uri) : Bool :=
  events.foldl (opens uri) (opened.any fun f => f.uri = uri)

theorem any_add (folders added : List Folder) (uri : Uri) :
    ((add folders added).any fun f => f.uri = uri) =
      ((folders.any fun f => f.uri = uri) || added.any fun f => f.uri = uri) := by
  induction added generalizing folders with
  | nil => simp [add]
  | cons f rest ih =>
    rw [add]
    split
    · next there =>
      rw [ih, List.any_cons]
      by_cases same : f.uri = uri
      · subst same
        simp [there]
      · simp [same]
    · rw [ih, List.any_append, List.any_cons, List.any_nil, Bool.or_false, List.any_cons,
        Bool.or_assoc]

theorem any_remove (folders removed : List Folder) (uri : Uri) :
    ((remove folders removed).any fun f => f.uri = uri) =
      ((folders.any fun f => f.uri = uri) && !removed.any fun f => f.uri = uri) := by
  rw [remove, List.any_filter]
  induction folders with
  | nil => simp
  | cons f rest ih =>
    rw [List.any_cons, List.any_cons, ih]
    by_cases same : f.uri = uri
    · subst same
      cases removed.any fun g => g.uri = f.uri <;> simp
    · simp [same]

theorem any_change (folders : List Folder) (event : List Folder × List Folder) (uri : Uri) :
    ((change folders event).any fun f => f.uri = uri) =
      opens uri (folders.any fun f => f.uri = uri) event := by
  rw [change, any_add, any_remove, opens, Bool.or_comm]

theorem any_changes (opened : List Folder) (events : List (List Folder × List Folder))
    (uri : Uri) :
    ((events.foldl change opened).any fun f => f.uri = uri) = isOpen opened events uri := by
  unfold isOpen
  induction events generalizing opened with
  | nil => rfl
  | cons event rest ih => rw [List.foldl_cons, List.foldl_cons, ih, any_change]

end Workspace

/-- What is entrusted is under way as a new errand. -/
theorem Broker.IsNumbered.errand?_entrust {b : Broker} (h : b.IsNumbered) (task : Errand.Task) :
    (b.entrust task).1.errand? b.nextErrand = some { id := b.nextErrand, task } := by
  have new : b.errands.find? (·.id = b.nextErrand) = none := by
    refine List.find?_eq_none.mpr fun x mem same => ?_
    have old := h _ (List.mem_map_of_mem mem)
    simp only [decide_eq_true_eq] at same
    exact absurd same (Nat.ne_of_lt old)
  simp only [entrust, errand?, List.find?_append, new]
  simp

/-- When the editor reports a change of folders, the surroundings answer for the new ones and a
sweep of closed folders is about to begin. -/
theorem Editor.Session.sweeps_changeFolders {s : Session} {host : Host}
    {plan : BackendName → Plan} {clock : Clock} {past : List Broker.Move}
    (run : s.broker = (Broker.opening host plan clock).run past) (number : Nat) (params : Json) :
    ∃ event : List Folder × List Folder,
      let after := s.changeFolders number params
      after.editor.folders = Workspace.change s.editor.folders event ∧
      after.broker.site.host = s.surroundings after.editor ∧
      after.broker = (Broker.opening host plan clock).run (past ++
        [.change (s.surroundings after.editor) s.broker.site.plan, .entrust (.sweep .folders)]) ∧
      after.broker.errand? s.broker.nextErrand =
        some { id := s.broker.nextErrand, task := .sweep .folders } := by
  refine ⟨(readFolders (params.path? ["event", "removed"]),
    readFolders (params.path? ["event", "added"])), rfl, rfl, ?_, ?_⟩
  · rw [Broker.run_append, ← run]
    rfl
  · have numbered : s.broker.IsNumbered := run ▸ ((Broker.watchful_opening host plan clock).run
      (Broker.kept_opening host plan clock) past).numbered
    exact Broker.IsNumbered.errand?_entrust
      (b := (s.broker.move (.change (s.surroundings _) s.broker.site.plan))) numbered _

namespace Broker

variable {b c d : Broker} {a : ActivationId} {m : ManagerId} {e : ErrandId} {s : BackendId}
  {sight : Option Sight} {lost : Prop}

theorem isClosed_iff {folders : List Folder} {key : ScopeKey} :
    isClosed folders key ↔ key.folder ≠ "" ∧
      ∀ uri, (folders.any fun f => f.uri = uri) → uri.text ≠ key.folder := by
  simp only [isClosed, Bool.and_eq_true, Bool.not_eq_true', ← Bool.not_eq_true, String.isEmpty_iff,
    List.all_eq_true, bne_iff_ne, List.any_eq_true, decide_eq_true_eq]
  refine and_congr_right fun _ => ⟨?_, ?_⟩
  · rintro apart _ ⟨f, mem, rfl⟩
    exact apart f mem
  · exact fun apart f mem => apart f.uri ⟨f, mem, rfl⟩

/-! What a manager has had. -/

/-- The server is the manager's, or was disposed of. -/
def Accounts (b : Broker) (m : ManagerId) (s : BackendId) : Prop :=
  (∃ n, b.managers[m]? = some n ∧ n.Has s) ∨ b.site.disposals s = 1

/-- The server was the manager's before the moves, between them or after them. -/
def HasHad (b : Broker) (moves : List Move) (m : ManagerId) (s : BackendId) : Prop :=
  ∃ past, past <+: moves ∧ ∃ n, (b.run past).managers[m]? = some n ∧ n.Has s

namespace Accounts

theorem staffing (accounts : b.Accounts m s) (h : b.Sound) (staffing : Staffing lost b c) :
    c.Accounts m s := by
  cases staffing with
  | shift length site managers =>
    refine accounts.imp ?_ (site.disposals s).trans
    rintro ⟨n, manager, has⟩
    have here := List.getElem?_eq_getElem (length ▸ (List.getElem?_eq_some_iff.mp manager).1)
    exact ⟨_, here, ((managers manager here).has (h.kept.lined manager) s).mpr has⟩
  | @step i x k y t clock manager found ready step managers site =>
    subst site
    have own : c.managers[i]? = some k := by
      rw [managers, List.getElem?_set_self (List.getElem?_eq_some_iff.mp manager).1]
    have lined := h.kept.lined manager
    have clear := h.staffed.clear manager
    have keeping := clear.keeping lined h.stocked.named found (h.stocked.lt_of_has manager) step
    rcases accounts with ⟨n, there, has⟩ | gone
    · by_cases same : i = m
      · subst same
        obtain rfl := Option.some.inj (manager.symm.trans there)
        cases keeping with
        | still _ _ same => exact .inl ⟨k, own, (same s).mpr has⟩
        | made _ _ _ _ _ _ _ before => exact absurd has (before s)
        | shut had _ disposals =>
          right
          rw [disposals, if_pos (clear.has_unique lined has had), (h.stocked.has manager has).1]
      · exact .inl ⟨n, by rw [managers, List.getElem?_set_ne same, there], has⟩
    · right
      cases keeping with
      | still _ disposals | made _ _ _ disposals => exact (disposals s).trans gone
      | @shut other had _ disposals =>
        have live := (h.stocked.has manager had).1
        rw [disposals, if_neg, gone]
        rintro rfl
        simp [gone] at live
  | add variant scope managers site =>
    rw [Accounts, managers, site]
    refine accounts.imp_left ?_
    rintro ⟨n, manager, has⟩
    exact ⟨n, (List.getElem?_append_left (List.getElem?_eq_some_iff.mp manager).1).trans manager,
      has⟩

theorem run (accounts : b.Accounts m s) (h : b.Sound) (moves : List Move) :
    (b.run moves).Accounts m s := by
  have all : (b.run moves).Sound ∧ (b.run moves).Accounts m s := by
    refine run_induction (P := fun c => c.Sound ∧ c.Accounts m s) (fun b next before => ?_)
      ⟨h, accounts⟩ moves
    refine (before.1.kept.moves next).keeps (P := fun c => c.Sound ∧ c.Accounts m s) before ?_ ?_
    · rintro c d ⟨h, accounts⟩ same
      have staffing : Staffing False c d := same.staffing
      exact ⟨h.alike same, accounts.staffing h staffing⟩
    · rintro sight c d ⟨h, accounts⟩ change
      exact ⟨h.change change, accounts.staffing h (h.staffed.staffing h.kept change)⟩
  exact all.2

end Accounts

/-- A manager that has no server any more has had all of its servers disposed of. -/
theorem HasHad.disposed {moves : List Move} (had : b.HasHad moves m s) (h : b.Sound) {n : Manager}
    (manager : (b.run moves).managers[m]? = some n) (none : ∀ s, ¬ n.Has s) :
    (b.run moves).site.disposals s = 1 := by
  obtain ⟨past, ⟨rest, rfl⟩, k, before, has⟩ := had
  have accounts : ((b.run past).run rest).Accounts m s :=
    Accounts.run (.inl ⟨k, before, has⟩) (h.run past) rest
  rw [← run_append] at accounts
  rcases accounts with ⟨x, also, has⟩ | gone
  · obtain rfl := Option.some.inj (manager.symm.trans also)
    exact absurd has (none s)
  · exact gone

/-! The keys that are evicted. -/

theorem filter_isCached (b : Broker) (p : ScopeKey → Bool) :
    (b.keys.filter p).filter b.isCached = b.keys.filter p :=
  List.filter_eq_self.mpr fun _ mem => mem_keys.mp (List.mem_filter.mp mem).1

/-- Some of the cached keys are taken out. -/
theorem beginEviction_filter (b : Broker) (e : ErrandId) (p : ScopeKey → Bool) :
    b.beginEviction e (b.keys.filter p) =
      ({ b with cache := b.cache.filter fun x => !p x.1 } : Broker).putErrand e
        (.gathering ((b.keys.filter p).filterMap fun key => b.cache.lookup key) []
          (b.keys.filter p)) := by
  have cache : (b.evict (b.keys.filter p)).cache = b.cache.filter fun x => !p x.1 := by
    refine List.filter_congr fun x mem => ?_
    have key : x.1 ∈ b.keys := (ScopeKey.mem_sorted _).mpr (List.mem_map_of_mem mem)
    simp [List.contains_eq_mem, List.mem_filter, key]
  simp only [beginEviction, filter_isCached, ← cache]
  rfl

/-- A sweep of closed folders begins. -/
theorem move_folders {x : Errand} (free : b.isWatched e = false) (found : b.errand? e = some x)
    (stage : x.stage = .fresh) (task : x.task = .sweep .folders) :
    b.move (.errand e) =
      (b.ticked.beginEviction e (b.keys.filter (isClosed b.site.host.folders))).tidy := by
  have runs : b.canRun e := by simp [canRun, found, stage]
  have also : b.ticked.errand? e = some x := found
  simp only [move, runs, free, stepErrand, also, stage, task, beginErrand]
  rfl

theorem Watchful.isWatched_folders (h : b.Watchful) {x : Errand} (found : b.errand? e = some x)
    (task : x.task = .sweep .folders) : b.isWatched e = false := by
  by_contra watched
  have kind := h.sweeps (by simpa using watched) (mem_posts found)
  simp [task] at kind

theorem cache_await (b : Broker) (m : ManagerId) (j : JobId) : (b.await m j).1.cache = b.cache := by
  unfold await
  split
  · rfl
  · unfold stepManager
    split <;> rfl

private theorem cache_reach (b : Broker) (e : ErrandId) (server : Option BackendId)
    (task : Errand.Task) : (b.reach e server task).cache = b.cache := by
  unfold reach
  split
  · split
    · rfl
    · split <;> rfl
  · rfl

/-- An errand that has begun changes the cache only when a sweep has looked at all keys. -/
theorem cache_stepErrand {x : Errand} (found : b.errand? e = some x)
    (begun : x.stage.isFresh = false)
    (busy : ∀ active stale, x.stage ≠ .surveying [] active stale) :
    (b.stepErrand e).cache = b.cache := by
  rw [stepErrand, found]
  obtain ⟨id, task, stage, time, cancelled⟩ := x
  cases stage with
  | fresh => simp [Errand.Stage.isFresh] at begun
  | awaiting a =>
    dsimp only
    split <;> rfl
  | asking m j =>
    have cache := b.cache_await m j
    obtain ⟨⟨d, o⟩, here⟩ : ∃ pair, b.await m j = pair := ⟨_, rfl⟩
    simp only [here] at cache ⊢
    rcases o with _ | (_ | _ | _)
    · exact cache
    · exact (cache_reach ..).trans cache
    · exact (cache_reach ..).trans cache
    · exact (cache_reach ..).trans cache
  | serving d =>
    dsimp only
    split <;> rfl
  | surveying left active stale =>
    cases left with
    | nil => exact absurd rfl (busy active stale)
    | cons key left => rfl
  | gathering left records evicted => cases left <;> rfl
  | releasing records evicted =>
    cases records with
    | nil => rfl
    | cons r left =>
      simp only [release]
      split
      · split <;> rfl
      · exact (files_beginDisposal b e r.manager left evicted).2
  | queuedSimple r left evicted =>
    exact (files_beginDisposal (b.dropSimple e r) e r.manager left evicted).2
  | disposing m j left evicted =>
    have cache := b.cache_await m j
    simp only
    split
    · next result => exact (congrArg (·.1.cache) result).symm.trans cache
    · next result => exact (congrArg (·.1.cache) result).symm.trans cache
  | done => rfl

/-! The whole sweep. -/

/-- The key's folder is none that is open after the changes. -/
def IsStale (opened : List Folder) (events : List (List Folder × List Folder)) (key : ScopeKey) :
    Prop :=
  key.folder ≠ "" ∧ ∀ uri, Workspace.isOpen opened events uri → uri.text ≠ key.folder

theorem isClosed_changes (opened : List Folder) (events : List (List Folder × List Folder))
    (key : ScopeKey) :
    isClosed (events.foldl Workspace.change opened) key ↔ IsStale opened events key := by
  simp only [isClosed_iff, IsStale, Workspace.any_changes]

/-- The activations that a sweep of closed folders evicts. -/
def evictees (b : Broker) : List ActivationId :=
  (b.keys.filter (isClosed b.site.host.folders)).filterMap fun key => b.cache.lookup key

theorem mem_evictees (h : b.Filed) :
    a ∈ b.evictees ↔ ∃ key, (key, a) ∈ b.cache ∧ isClosed b.site.host.folders key := by
  simp only [evictees, List.mem_filterMap, List.mem_filter, mem_keys]
  constructor
  · rintro ⟨key, ⟨_, closed⟩, found⟩
    exact ⟨key, mem_cache_of_lookup found, closed⟩
  · rintro ⟨key, entry, closed⟩
    have found := h.lookup entry
    exact ⟨key, ⟨by simp [isCached, found], closed⟩, found⟩

/-- A sweep of closed folders has begun. -/
structure Begins (b c : Broker) (e : ErrandId) : Prop where
  cache : c.cache = b.cache.filter fun x => !isClosed b.site.host.folders x.1
  files : c.files = b.files
  sweeping : c.Sweeping e (b.keys.filter (isClosed b.site.host.folders)) b.evictees

theorem FoundFull.of_settled {r : Record} (settled : b.stage? a = some (.settled (.ok r)))
    (full : r.variant.isFull) : b.FoundFull a r.manager :=
  ⟨_, r, settled, rfl, fun simple => by simp [simple, Variant.isFull] at full, rfl⟩

theorem Begins.alike (begins : b.Begins c e) (alike : Alike c d) : b.Begins d e where
  cache := alike.cache.trans begins.cache
  files := (show d.files = c.files from alike.activations).trans begins.files
  sweeping := begins.sweeping.alike alike

/-- A sweep that has just taken the keys out of the cache waits for all of their activations. -/
theorem sweeping_beginEviction {old : Errand.Stage} (found : b.errandStage? e = some old)
    (stale : List ScopeKey) : (b.beginEviction e stale).Sweeping e (stale.filter b.isCached)
      ((stale.filter b.isCached).filterMap fun key => b.cache.lookup key) := by
  have stage : (b.beginEviction e stale).errandStage? e = some (.gathering
      ((stale.filter b.isCached).filterMap fun key => b.cache.lookup key) []
        (stale.filter b.isCached)) := by
    rw [beginEviction, errandStage?_putErrand]
    exact (congrArg _ found).trans (by simp)
  refine ⟨⟨_, stage, rfl⟩, fun mem => .inl ⟨_, stage, mem⟩, fun {other a} here mem => ?_,
    fun {other m} here mem => ?_⟩
  · obtain rfl := Option.some.inj (stage.symm.trans here)
    exact mem
  · obtain rfl := Option.some.inj (stage.symm.trans here)
    simp [Errand.Stage.targets, Errand.Stage.records] at mem

theorem begins_beginEviction {old : Errand.Stage} (found : b.errandStage? e = some old) :
    b.Begins (b.beginEviction e (b.keys.filter (isClosed b.site.host.folders))) e := by
  have sweeping := sweeping_beginEviction found (b.keys.filter (isClosed b.site.host.folders))
  rw [filter_isCached] at sweeping
  refine ⟨?_, rfl, sweeping⟩
  rw [beginEviction_filter]
  rfl

theorem Watchful.begins (h : b.Watchful) {x : Errand} (found : b.errand? e = some x)
    (stage : x.stage = .fresh) (task : x.task = .sweep .folders) :
    b.Begins (b.move (.errand e)) e := by
  rw [move_folders (h.isWatched_folders found task) found stage task]
  have begins : b.ticked.Begins (b.ticked.beginEviction e
      (b.ticked.keys.filter (isClosed b.ticked.site.host.folders))) e :=
    begins_beginEviction (errandStage?_of_errand found)
  have after := begins.alike (.tidy _)
  exact ⟨after.cache, after.files, after.sweeping⟩

/-! What comes of it. -/

theorem Sound.record_run (h : b.Sound) {stage : Activation.Stage} {r : Record}
    (at_stage : b.stage? a = some stage) (record : stage.record? = some r) (moves : List Move) :
    ∃ later, (b.run moves).stage? a = some later ∧ later.record? = some r := by
  have all : (b.run moves).Sound ∧
      ∃ later, (b.run moves).stage? a = some later ∧ later.record? = some r := by
    refine run_induction (P := fun c => c.Sound ∧
      ∃ later, c.stage? a = some later ∧ later.record? = some r) ?_ ⟨h, stage, at_stage, record⟩
      moves
    rintro c next ⟨sound, later, at_later, also⟩
    exact ⟨sound.move next, (sound.kept.moves next).filing.record at_later also⟩
  exact all.2

/-- A sweep's turns after its eviction leave the cache as it is. -/
theorem cache_turn_of_sweeping {next : Move} {keys : List ScopeKey} {gone : List ActivationId}
    (turn : b.turn? next = some e) (goes : b.Sweeping e keys gone ∨ b.errandStage? e = none) :
    (b.move next).cache = b.cache := by
  cases runs : b.canRun e with
  | false => exact cache_of_idle turn runs
  | true =>
    rw [move_of_turn turn runs]
    rcases goes with sweeping | away
    · obtain ⟨_, found, keys⟩ := sweeping.keys
      obtain ⟨x, hx, rfl⟩ := Option.map_eq_some_iff.mp found
      refine cache_stepErrand (b := b.ticked) hx ?_ fun active stale surveys => ?_
      · cases stage : x.stage <;> simp_all [Errand.Stage.keys?, Errand.Stage.isFresh]
      · simp [surveys, Errand.Stage.keys?] at keys
    · have none : b.errand? e = none := Option.map_eq_none_iff.mp away
      simp [canRun, none] at runs

theorem cache_move_of_sweeping {keys : List ScopeKey} {gone : List ActivationId}
    (goes : b.Sweeping e keys gone ∨ b.errandStage? e = none) :
    (b.move (.errand e)).cache = b.cache := by
  rcases b.turn_or_still e with turn | still
  · exact cache_turn_of_sweeping turn goes
  · rw [still]

/-- When the sweep is over, the evicted activations have ended and their full servers are gone. -/
theorem Sweeping.ended {keys evicted : List ScopeKey} {gone : List ActivationId}
    (sweeping : b.Sweeping e keys gone) (swept : b.errandStage? e = some (.done (.swept evicted))) :
    evicted = keys ∧ ∀ a ∈ gone, ∃ result, b.stage? a = some (.settled result) ∧
      ∀ m, b.FoundFull a m → ∃ n, b.managers[m]? = some n ∧ n.Quiet := by
  refine ⟨?_, fun a mem => ?_⟩
  · obtain ⟨stage, found, same⟩ := sweeping.keys
    obtain rfl := Option.some.inj (swept.symm.trans found)
    exact Option.some.inj same
  · rcases sweeping.hand mem with ⟨stage, found, waits⟩ | ⟨result, settled, sees⟩
    · obtain rfl := Option.some.inj (swept.symm.trans found)
      simp [Errand.Stage.evicted] at waits
    · refine ⟨result, settled, fun m won => ?_⟩
      rcases sees m won with ⟨stage, found, target⟩ | quiet
      · obtain rfl := Option.some.inj (swept.symm.trans found)
        simp [Errand.Stage.targets, Errand.Stage.records] at target
      · exact quiet

/-- The manager that the sweep disposes of has the full server of an activation that it has evicted,
if anybody's. -/
theorem Sweeping.spares {keys evicted : List ScopeKey} {gone : List ActivationId} {j : JobId}
    {left : List Record} (sweeping : b.Sweeping e keys gone) (h : b.Sound)
    (found : b.errandStage? e = some (.disposing m j left evicted)) {moves : List Move}
    (won : (b.run moves).FoundFull a m) : a ∈ gone := by
  obtain ⟨i, mem, stage, r, at_stage, record, same⟩ := sweeping.sees found List.mem_cons_self
  obtain ⟨later, at_later, also⟩ := h.record_run at_stage record moves
  have named := (Activation.Stage.manager?_of_record? also).1
  exact won.only (h.run moves).kept at_later (same ▸ named) ▸ mem

theorem errandStage?_of_outcome {outcome : Errand.Outcome}
    (ended : b.errandOutcome? e = some outcome) : b.errandStage? e = some (.done outcome) := by
  unfold errandOutcome? at ended
  split at ended
  · next found =>
    obtain rfl := Option.some.inj ended
    exact errandStage?_of_errand found
  · simp at ended

/-- A sweep of closed folders takes just those keys out of the cache whose folder is none that is
open after all the changes, and leaves the others and every activation as they are, then and in its
later turns. When it is over, each activation that it has evicted has ended, also one that was on
its way when it was evicted. The manager of the full server that such an activation has found is
disposed of, and each server that the manager has ever had was disposed of once and is not live.
The sweep disposes of no manager whose full server was found by an activation that it has not
evicted. -/
theorem sweep_of_closed_folders (host : Host) (plan : BackendName → Plan) (clock : Clock)
    (past : List Move) (e : ErrandId) (x : Errand) (later : List Move) (opened : List Folder)
    (events : List (List Folder × List Folder)) :
    let start := opening host plan clock
    let b := start.run past
    let c := b.move (.errand e)
    let d := c.run later
    b.errand? e = some x → x.stage = .fresh → x.task = .sweep .folders →
    b.site.host.folders = events.foldl Workspace.change opened →
      (c.cache.Sublist b.cache ∧ c.files = b.files ∧
        ∀ entry, entry ∈ c.cache ↔ entry ∈ b.cache ∧ ¬ IsStale opened events entry.1) ∧
      (∀ front, front <+: later →
        ((c.run front).move (.errand e)).cache = (c.run front).cache) ∧
      (∀ evicted, d.errandOutcome? e = some (.swept evicted) →
        (∀ key, key ∈ evicted ↔ b.isCached key ∧ IsStale opened events key) ∧
        ∀ key a, (key, a) ∈ b.cache → IsStale opened events key →
          ∃ result, d.result? a = some result ∧
            ∀ r, result = .ok r → r.variant.isFull →
              (∃ n, d.managers[r.manager]? = some n ∧ n.disposed) ∧
              ∀ s, start.HasHad (past ++ .errand e :: later) r.manager s →
                d.site.disposals s = 1 ∧ ¬ d.site.isLive s) ∧
      ∀ front m j left evicted, front <+: later →
        (c.run front).errandStage? e = some (.disposing m j left evicted) →
          ∀ a r, (∀ key, (key, a) ∈ b.cache → ¬ IsStale opened events key) →
            d.result? a = some (.ok r) → r.variant.isFull → r.manager ≠ m := by
  intro start b c d found stage task folders
  have sound : b.Sound := (sound_opening host plan clock).run past
  have watchful : b.Watchful :=
    (watchful_opening host plan clock).run (kept_opening host plan clock) past
  have begins : b.Begins c e := watchful.begins found stage task
  have since : c = start.run (past ++ [.errand e]) := by rw [run_append, run_cons, run_nil]
  have sound' : c.Sound := sound.move _
  have custody : c.Custody :=
    since ▸ (custody_opening host plan clock).run (sound_opening host plan clock) _
  have old : e < c.nextErrand := by
    have watchful : c.Watchful :=
      since ▸ (watchful_opening host plan clock).run (kept_opening host plan clock) _
    obtain ⟨_, found, _⟩ := begins.sweeping.keys
    obtain ⟨y, hy, _⟩ := Option.map_eq_some_iff.mp found
    exact watchful.numbered _ (mem_posts hy)
  have goes (front : List Move) := begins.sweeping.run custody sound' old front
  have closed (key : ScopeKey) : isClosed b.site.host.folders key ↔ IsStale opened events key :=
    folders ▸ isClosed_changes opened events key
  have ends {evicted : List ScopeKey} (swept : d.errandOutcome? e = some (.swept evicted)) :
      evicted = b.keys.filter (isClosed b.site.host.folders) ∧
        ∀ a ∈ b.evictees, ∃ result, d.stage? a = some (.settled result) ∧
          ∀ m, d.FoundFull a m → ∃ n, d.managers[m]? = some n ∧ n.Quiet := by
    have swept := errandStage?_of_outcome swept
    exact ((goes later).resolve_right fun away => by simp [d, away] at swept).ended swept
  refine ⟨⟨?_, begins.files, fun entry => ?_⟩, fun front _ => cache_move_of_sweeping (goes front),
    fun evicted swept => ⟨fun key => ?_, fun key a entry stale => ?_⟩,
    fun front m j left evicted inside disposing a r kept ended full same => ?_⟩
  · exact begins.cache ▸ List.filter_sublist
  · rw [begins.cache, List.mem_filter, ← closed, Bool.not_eq_true', Bool.not_eq_true]
  · rw [(ends swept).1, List.mem_filter, mem_keys, closed]
  · obtain ⟨result, settled, gone⟩ :=
      (ends swept).2 a ((mem_evictees sound.filed).mpr ⟨key, entry, (closed key).mpr stale⟩)
    refine ⟨result, result?_eq_some.mpr settled, ?_⟩
    rintro r rfl full
    obtain ⟨n, manager, quiet⟩ := gone r.manager (.of_settled settled full)
    refine ⟨⟨n, manager, quiet.disposed⟩, fun s had => ?_⟩
    have whole : d = start.run (past ++ .errand e :: later) := by rw [run_append, run_cons]
    have once := had.disposed (sound_opening host plan clock) (whole ▸ manager) quiet.has
    rw [← whole] at once
    exact ⟨once, fun live => by simp [Site.isLive, once] at live⟩
  · obtain ⟨rest, rfl⟩ := inside
    have won : ((c.run front).run rest).FoundFull a m := by
      rw [← run_append]
      exact same ▸ .of_settled (result?_eq_some.mp ended) full
    have sweeping := (goes front).resolve_right (by simp [disposing])
    obtain ⟨key, entry, stale⟩ :=
      (mem_evictees sound.filed).mp (sweeping.spares (sound'.run front) disposing won)
    exact kept key entry ((closed key).mp stale)

/-- A file in the outer folder only. -/
def outerScript : Uri := ⟨"file", some ⟨"", "", none⟩, .segments ["a", "x.py"], none, none⟩

/-- Both folders are open and a file of each is looked up. While the outer folder's server is still
being made both are closed, and the inner one is opened again at once. -/
def closing : List Move :=
  [.change { fullHost with folders := [outerFolder, innerFolder] } fun _ => {},
    .entrust (.find (some outerScript) (some python)), .errand 0,
    .entrust (.find (some script) (some python)), .errand 1] ++
    List.replicate 4 (.agent (.activation 0)) ++
    [.change { fullHost with folders := [innerFolder] } fun _ => {}, .entrust (.sweep .folders)]

/-- The server comes up, and the sweep goes on to its end. -/
def emptying : List Move :=
  List.replicate 6 (.agent (.activation 0)) ++ List.replicate 8 (.errand 2)


/-- The outer folder's key is the only one that is evicted. -/
private theorem move_closing : ((opening fullHost (fun _ => {}) {}).run closing).move (.errand 2) =
    (((opening fullHost (fun _ => {}) {}).run closing).ticked.beginEviction 2
      [⟨"file:///a", "/usr/bin/python"⟩]).tidy := by
  have keys : ((opening fullHost (fun _ => {}) {}).run closing).keys =
      [⟨"file:///a", "/usr/bin/python"⟩, ⟨"file:///a/b", "/usr/bin/python"⟩] := by
    rw [keys_of_sorted _ (by decide +kernel)]
    decide +kernel
  rw [move_folders (x := ⟨2, .sweep .folders, .fresh, 0, false⟩) (by decide +kernel) rfl rfl rfl,
    keys]
  exact congrArg (fun stale => (beginEviction _ 2 stale).tidy) (by decide +kernel)

/-- The sweep evicts the outer folder's activation on its way, waits for it and disposes of its
server. The inner folder's activation stays. -/
theorem sweep_waits_for_evicted_server :
    let b := (opening fullHost (fun _ => {}) {}).run closing
    let c := b.move (.errand 2)
    let d := c.run emptying
    (b.cache = [(⟨"file:///a", "/usr/bin/python"⟩, 0), (⟨"file:///a/b", "/usr/bin/python"⟩, 1)] ∧
      b.result? 0 = none ∧ b.managers.length = 1) ∧
    c.cache = [(⟨"file:///a/b", "/usr/bin/python"⟩, 1)] ∧
    d.errandOutcome? 2 = some (.swept [⟨"file:///a", "/usr/bin/python"⟩]) ∧
    d.result? 0 = some (.ok ⟨.fullB, 0⟩) ∧
      (∃ n, d.managers[0]? = some n ∧ n.disposed) ∧ d.site.backends.length = 1 ∧
        d.site.disposals 0 = 1 ∧ ¬ d.site.isLive 0 := by
  intro b c d
  have before : b.cache =
      [(⟨"file:///a", "/usr/bin/python"⟩, 0), (⟨"file:///a/b", "/usr/bin/python"⟩, 1)] := by
    decide +kernel
  have begun (moves : List Move) : c.run moves =
      ((b.ticked.beginEviction 2 [⟨"file:///a", "/usr/bin/python"⟩]).tidy).run moves :=
    congrArg (run · moves) move_closing
  have swept : d.errandOutcome? 2 = some (.swept [⟨"file:///a", "/usr/bin/python"⟩]) := by
    have reported : ((d.errandOutcome? 2).bind fun outcome => (Errand.Stage.done outcome).keys?) =
        some [⟨"file:///a", "/usr/bin/python"⟩] := by
      rw [show d = _ from begun emptying]
      decide +kernel
    obtain ⟨outcome, ended, keys⟩ := Option.bind_eq_some_iff.mp reported
    cases outcome with
    | swept evicted => rw [ended, show evicted = _ from Option.some.inj keys]
    | _ => simp [Errand.Stage.keys?] at keys
  have ended : d.result? 0 = some (.ok ⟨.fullB, 0⟩) := by
    rw [show d = _ from begun emptying]
    decide +kernel
  have one : d.site.backends.length = 1 := by
    rw [show d = _ from begun emptying]
    decide +kernel
  have had : (opening fullHost (fun _ => {}) {}).HasHad (closing ++ .errand 2 :: emptying) 0 0 := by
    refine ⟨closing ++ .errand 2 :: List.replicate 4 (.agent (.activation 0)),
      ⟨List.replicate 2 (.agent (.activation 0)) ++ List.replicate 8 (.errand 2), rfl⟩, ?_⟩
    have up : (((b.ticked.beginEviction 2 [⟨"file:///a", "/usr/bin/python"⟩]).tidy.run
        (List.replicate 4 (.agent (.activation 0)))).managers[0]?.bind (·.slot)) = some 0 := by
      decide +kernel
    obtain ⟨n, manager, slot⟩ := Option.bind_eq_some_iff.mp up
    refine ⟨n, ?_, .inl slot⟩
    rw [run_append, run_cons, move_closing]
    exact manager
  have found : b.errand? 2 = some ⟨2, .sweep .folders, .fresh, 0, false⟩ := rfl
  have folders : b.site.host.folders = [([outerFolder, innerFolder], [innerFolder])].foldl
      Workspace.change [outerFolder, innerFolder] := by decide +kernel
  have ends := (sweep_of_closed_folders fullHost (fun _ => {}) {} closing 2 _ emptying _ _ found
    rfl rfl folders).2.2.1
  have stale (key : ScopeKey) := isClosed_changes [outerFolder, innerFolder]
    [([outerFolder, innerFolder], [innerFolder])] key
  obtain ⟨result, known, disposed⟩ := (ends _ swept).2 ⟨"file:///a", "/usr/bin/python"⟩ 0
    (before ▸ List.mem_cons_self) ((stale _).mp (by decide +kernel))
  obtain rfl := Option.some.inj (known.symm.trans ended)
  obtain ⟨manager, servers⟩ := disposed _ rfl rfl
  have after : c.cache = [(⟨"file:///a/b", "/usr/bin/python"⟩, 1)] := by
    rw [show c = _ from begun []]
    decide +kernel
  exact ⟨⟨before, by decide +kernel, by decide +kernel⟩, after, swept, ended, manager, one,
    servers 0 had⟩

end Broker

end LanguageBroker
