import LanguageBroker.Proofs.ActivationCache

/-!
The errands: a move brings a new one, or puts one away, or takes one further. Nothing is left to
an errand that is over.
-/

namespace LanguageBroker

theorem Errand.Stage.of_isSeeking {stage : Errand.Stage} (seeking : stage.isSeeking) :
    stage.isBusy ∧ stage.isLaden = false := by
  cases stage <;> simp_all [isSeeking, isBusy, isLaden, records, evicted]

theorem Errand.Stage.of_light {stage : Errand.Stage} (light : stage.isLaden = false) :
    stage.records = [] ∧ stage.evicted = [] := by
  cases stage <;> simp_all [isLaden]

namespace Broker

/-- The errands' numbers, tasks and stages. -/
def posts (b : Broker) : List (ErrandId × Errand.Task × Errand.Stage) :=
  b.errands.map fun x => (x.id, x.task, x.stage)

def errandStage? (b : Broker) (e : ErrandId) : Option Errand.Stage := (b.errand? e).map (·.stage)

/-- The stage tells how the activation has ended. -/
def Tells (b : Broker) (a : ActivationId) (stage : Errand.Stage) : Prop :=
  (∃ record, b.result? a = some (.ok record) ∧ stage = .done (.found record)) ∨
    ∃ cause, b.result? a = some (.error cause) ∧ stage = .done (.failed cause)

/-- What a move does to the errands. -/
inductive Posting (b c : Broker) : Prop
  | rest (posts : c.posts = b.posts) (next : c.nextErrand = b.nextErrand)
  | entrust (task : Errand.Task) (posts : c.posts = b.posts ++ [(b.nextErrand, task, .fresh)])
      (next : c.nextErrand = b.nextErrand + 1)
  | forget (e : ErrandId) (posts : c.posts = b.posts.filter fun x => x.1 ≠ e)
      (next : c.nextErrand = b.nextErrand)
  | put (e : ErrandId) (stage : Errand.Stage)
      (before : ∀ old, b.errandStage? e = some old →
        old.isBusy ∨ old.isLined ∨ ∃ a, old = .awaiting a ∧ b.Tells a stage)
      (posts : c.posts = b.posts.map fun x => if x.1 = e then (x.1, x.2.1, stage) else x)
      (next : c.nextErrand = b.nextErrand)

/-- How an errand goes from one stage to the next. -/
inductive Pace (sight : Option Sight) (b c : Broker) (e : ErrandId) :
    Errand.Stage → Errand.Stage → Prop
  /-- It has nothing to do with evicted activations. -/
  | idle {old new : Errand.Stage} (before : old.isLaden = false) (keys : old.keys? = none)
      (after : new.isLaden = false) : Pace sight b c e old new
  | evicts {old : Errand.Stage} {stale : List ScopeKey} (before : old.isSeeking)
      (files : c.files = b.files)
      (cache : c.cache = b.cache.filter fun x => ! stale.contains x.1) :
      Pace sight b c e old
        (.gathering (stale.filterMap fun key => b.cache.lookup key) [] stale)
  /-- It hears how an evicted activation has ended. -/
  | hears {a : ActivationId} {left : List ActivationId} {records : List Record}
      {evicted : List ScopeKey} (ended : (b.result? a).isSome) :
      Pace sight b c e (.gathering (a :: left) records evicted)
        (.gathering left (b.gather a records) evicted)
  | passes {old new : Errand.Stage} (passes : old.Passes new)
      (kept : ∀ r ∈ old.records, r ∈ new.records ∨ b.isInUse r.manager)
      (free : old.job? = none) : Pace sight b c e old new
  /-- The job that it waited for is over. -/
  | answers {old new : Errand.Stage} {m : ManagerId} {j : JobId} {n : Manager} {x : Job}
      (job : old.job? = some (m, j)) (manager : b.managers[m]? = some n)
      (ended : n.job? j = some x) (done : x.isDone) (passes : old.Passes new)
      (kept : old.records ⊆ new.records) (managers : c.managers = b.managers.set m (n.forget j)) :
      Pace sight b c e old new
  /-- It comes for the simple server. -/
  | looks {r : Record} {left : List Record} {evicted : List ScopeKey}
      (simple : r.variant = .simple) (here : sight = some (.unused r.manager))
      (line : c.simpleLine = b.simpleLine ++ [.errand e]) (files : c.files = b.files)
      (cache : c.cache = b.cache) :
      Pace sight b c e (.releasing (r :: left) evicted) (.queuedSimple r left evicted)
  /-- It asks for the disposal of what it has listed first. -/
  | begins {old : Errand.Stage} {r : Record} {left : List Record} {evicted : List ScopeKey}
      {j : JobId} (records : old.records = r :: left) (waited : old.evicted = [])
      (keys : old.keys? = some evicted) (free : old.job? = none)
      (asked : ∀ n, b.managers[r.manager]? = some n →
        c.managers[r.manager]? = some (n.ask .dispose).1 ∧ j = (n.ask .dispose).2) :
      Pace sight b c e old (.disposing r.manager j left evicted)

/-- Errands are numbered in their order. -/
def IsNumbered (b : Broker) : Prop := ∀ x ∈ b.posts, x.1 < b.nextErrand

variable {b c d : Broker} {a : ActivationId} {e : ErrandId} {sight : Option Sight}

theorem errandStage?_eq (b : Broker) (e : ErrandId) :
    b.errandStage? e = (b.posts.find? fun x => x.1 = e).map fun x => x.2.2 := by
  simp only [errandStage?, errand?, posts, List.find?_map, Option.map_map]
  rfl

theorem errandStage?_of_errand {x : Errand} (found : b.errand? e = some x) :
    b.errandStage? e = some x.stage := by
  simp [errandStage?, found]

theorem posts_putErrand (b : Broker) (e : ErrandId) (stage : Errand.Stage) :
    (b.putErrand e stage).posts =
      b.posts.map fun x => if x.1 = e then (x.1, x.2.1, stage) else x := by
  simp only [posts, putErrand, List.map_map]
  apply List.map_congr_left
  intro x _
  simp only [Function.comp]
  split <;> rfl

private theorem find?_forgotten (l : List (ErrandId × Errand.Task × Errand.Stage))
    (e i : ErrandId) : (l.filter fun x => x.1 ≠ i).find? (fun x => x.1 = e) =
      if e = i then none else l.find? fun x => x.1 = e := by
  rw [List.find?_filter]
  split
  · next here => simp [here]
  · next differs =>
    congr 1
    funext x
    by_cases here : x.1 = e <;> simp [here, differs]

private theorem find?_put (l : List (ErrandId × Errand.Task × Errand.Stage)) (e i : ErrandId)
    (stage : Errand.Stage) :
    (l.map fun x => if x.1 = i then (x.1, x.2.1, stage) else x).find? (fun x => x.1 = e) =
      (l.find? fun x => x.1 = e).map fun x => if e = i then (x.1, x.2.1, stage) else x := by
  rw [List.find?_map]
  have same : ((fun x : ErrandId × Errand.Task × Errand.Stage => decide (x.1 = e)) ∘ fun x =>
      if x.1 = i then (x.1, x.2.1, stage) else x) = fun x => decide (x.1 = e) := by
    funext x
    simp only [Function.comp]
    split <;> rfl
  rw [same]
  cases found : l.find? fun x => x.1 = e with
  | none => rfl
  | some x =>
    have id : x.1 = e := by simpa using List.find?_some found
    simp [id]

theorem errandStage?_putErrand (b : Broker) (e i : ErrandId) (stage : Errand.Stage) :
    (b.putErrand i stage).errandStage? e =
      (b.errandStage? e).map fun old => if e = i then stage else old := by
  rw [errandStage?_eq, posts_putErrand, find?_put, errandStage?_eq, Option.map_map, Option.map_map]
  congr 1
  funext x
  simp only [Function.comp]
  split <;> rfl

theorem errandStage?_putErrand_self {stage other : Errand.Stage}
    (found : (b.putErrand e stage).errandStage? e = some other) : other = stage := by
  rw [errandStage?_putErrand] at found
  obtain ⟨_, _, same⟩ := Option.map_eq_some_iff.mp found
  simpa [eq_comm] using same

/-! One change. -/

private theorem posting_put {s : Broker} (stage : Errand.Stage)
    (before : ∀ x, b.errand? e = some x →
      x.stage.isBusy ∨ x.stage.isLined ∨ ∃ a, x.stage = .awaiting a ∧ b.Tells a stage)
    (errands : s.errands = b.errands) (next : s.nextErrand = b.nextErrand) :
    Posting b (s.putErrand e stage) := by
  refine .put e stage (fun old found => ?_) ?_ next
  · obtain ⟨x, hx, rfl⟩ := Option.map_eq_some_iff.mp found
    exact before x hx
  · rw [posts_putErrand]
    simp only [posts, errands]

private theorem before_of {x : Errand} {stage : Errand.Stage} (found : b.errand? e = some x)
    (free : x.stage.isBusy ∨ x.stage.isLined) :
    ∀ y, b.errand? e = some y →
      y.stage.isBusy ∨ y.stage.isLined ∨ ∃ a, y.stage = .awaiting a ∧ b.Tells a stage := by
  intro y hy
  obtain rfl := Option.some.inj (found.symm.trans hy)
  exact free.imp_right .inl

private theorem posting_beginDisposal {s : Broker} {x : Errand} (found : b.errand? e = some x)
    (free : x.stage.isBusy ∨ x.stage.isLined) (errands : s.errands = b.errands)
    (next : s.nextErrand = b.nextErrand) (m : ManagerId) (left : List Record)
    (evicted : List ScopeKey) : Posting b (s.beginDisposal e m left evicted) := by
  unfold beginDisposal
  rcases ask_cases s m .dispose with ⟨_, _, same⟩ | ⟨_, same⟩
  · rw [same]
    exact posting_put _ (before_of found free) errands next
  · rw [same]
    exact posting_put _ (before_of found free) errands next

theorem posts_forgetErrand (b : Broker) (e : ErrandId) :
    (b.forgetErrand e).posts = b.posts.filter fun x => x.1 ≠ e := by
  have same : (b.forgetErrand e).errands = b.errands.filter fun x => x.id ≠ e := by
    rcases forgetErrand_cases b e with ⟨_, same⟩ | ⟨_, _, _, _, _, same⟩ <;> rw [same]
  simp only [posts, same, List.filter_map]
  rfl

private theorem posting_forget (b : Broker) (e : ErrandId) : Posting b (b.forgetErrand e) := by
  refine .forget e (posts_forgetErrand b e) ?_
  rcases forgetErrand_cases b e with ⟨_, same⟩ | ⟨_, _, _, _, _, same⟩ <;> rw [same] <;> rfl

theorem errandStage?_forgetErrand (b : Broker) (e i : ErrandId) :
    (b.forgetErrand i).errandStage? e = if e = i then none else b.errandStage? e := by
  rw [errandStage?_eq, posts_forgetErrand, find?_forgotten, errandStage?_eq]
  split <;> rfl

theorem posts_entrust (b : Broker) (task : Errand.Task) :
    (b.entrust task).1.posts = b.posts ++ [(b.nextErrand, task, .fresh)] := by
  simp [posts, Broker.entrust]

/-- An errand that is known after one was entrusted was known before, or is that one. -/
theorem errandStage?_of_entrust {task : Errand.Task} {stage : Errand.Stage}
    (found : (b.entrust task).1.errandStage? e = some stage) :
    b.errandStage? e = some stage ∨
      e = b.nextErrand ∧ b.errandStage? e = none ∧ stage = .fresh := by
  rw [errandStage?_eq, posts_entrust, List.find?_append] at found
  cases old : b.posts.find? fun x => x.1 = e with
  | some x => exact .inl (by simpa [errandStage?_eq, old] using found)
  | none =>
    rw [old, Option.none_or] at found
    obtain ⟨x, hx, rfl⟩ := Option.map_eq_some_iff.mp found
    have here : x.1 = e := by simpa using List.find?_some hx
    obtain rfl := List.mem_singleton.mp (List.mem_of_find?_eq_some hx)
    exact .inr ⟨here.symm, by simp [errandStage?_eq, old], rfl⟩

theorem errandStage?_of_forgetErrand {i : ErrandId} {stage : Errand.Stage}
    (found : (b.forgetErrand i).errandStage? e = some stage) : b.errandStage? e = some stage := by
  rw [errandStage?_forgetErrand] at found
  split at found
  · simp at found
  · exact found

theorem before_of_forgetErrand {i : ErrandId} {P : Errand.Stage → Prop}
    (before : ∀ x, b.errand? e = some x → P x.stage) :
    ∀ x, (b.forgetErrand i).errand? e = some x → P x.stage := by
  intro x hx
  have was := errandStage?_of_forgetErrand (errandStage?_of_errand hx)
  obtain ⟨y, hy, same⟩ := Option.map_eq_some_iff.mp was
  rw [← same]
  exact before y hy

theorem Change.posting (change : Change sight b c) : Posting b c := by
  cases change with
  | @entrust task => exact .entrust task (posts_entrust b task) rfl
  | forget e => exact posting_forget b e
  | @enter e x scope stage found before =>
    have same : (b.entry scope).1.errands = b.errands ∧
        (b.entry scope).1.nextErrand = b.nextErrand := by
      unfold entry
      split <;> exact ⟨rfl, rfl⟩
    exact posting_put _ (before_of found (.inl (by rw [before]; rfl))) same.1 same.2
  | @tell e x a outcome found before result =>
    refine posting_put _ (fun y hy => ?_) rfl rfl
    obtain rfl := Option.some.inj (found.symm.trans hy)
    refine .inr (.inr ⟨a, before, ?_⟩)
    rcases result with ⟨r, ended, rfl⟩ | ⟨cause, ended, rfl⟩
    · exact .inl ⟨r, ended, rfl⟩
    · exact .inr ⟨cause, ended, rfl⟩
  | pass found passes => exact posting_put _ (before_of found (.inl passes.busy)) rfl rfl
  | inquire found before =>
    exact posting_put _ (before_of found (.inl (by rw [before]; rfl))) rfl rfl
  | answer found _ _ _ _ passes => exact posting_put _ (before_of found (.inl passes.busy)) rfl rfl
  | gather found before =>
    exact posting_put _ (before_of found (.inl (by rw [before]; rfl))) rfl rfl
  | evict before =>
    exact posting_put _ (fun y hy => .inl (Errand.Stage.of_isSeeking (before y hy)).1) rfl rfl
  | look found before =>
    exact posting_put _ (before_of found (.inl (by rw [before]; rfl))) rfl rfl
  | release found before =>
    exact posting_beginDisposal found (.inl (by rw [before]; rfl)) rfl rfl ..
  | @discard e x r _ _ found before =>
    exact posting_beginDisposal (s := b.dropSimple e r) found (.inr (by rw [before]; rfl))
      rfl rfl ..
  | _ => exact .rest rfl rfl

/-- An errand is where it was before, or it is new, or it has gone one step further by itself. -/
theorem Change.pace (change : Change sight b c) {stage : Errand.Stage}
    (found : c.errandStage? e = some stage) :
    b.errandStage? e = some stage ∨ stage = .fresh ∧ b.errandStage? e = none ∨
      ∃ old, b.errandStage? e = some old ∧ Pace sight b c e old stage ∧
        ∀ i, i ≠ e → c.errandStage? i = b.errandStage? i := by
  have put {s : Broker} {i : ErrandId} {new : Errand.Stage} (errands : s.errands = b.errands)
      (here : c.errands = (s.putErrand i new).errands)
      (pace : ∀ x, b.errand? i = some x → Pace sight b c i x.stage new) :
      b.errandStage? e = some stage ∨ stage = .fresh ∧ b.errandStage? e = none ∨
        ∃ old, b.errandStage? e = some old ∧ Pace sight b c e old stage ∧
          ∀ i, i ≠ e → c.errandStage? i = b.errandStage? i := by
    have stages (k : ErrandId) : c.errandStage? k =
        (b.errandStage? k).map fun old => if k = i then new else old := by
      have same : s.errandStage? k = b.errandStage? k := by
        simp only [errandStage?, errand?, errands]
      rw [← same, ← errandStage?_putErrand]
      simp only [errandStage?, errand?, here]
    rw [stages] at found
    obtain ⟨old, was, same⟩ := Option.map_eq_some_iff.mp found
    split at same
    · next this =>
      subst this same
      obtain ⟨x, hx, rfl⟩ := Option.map_eq_some_iff.mp was
      refine .inr (.inr ⟨x.stage, was, pace x hx, fun k other => ?_⟩)
      rw [stages]
      cases b.errandStage? k <;> simp [other]
    · exact .inl (same ▸ was)
  have only {i : ErrandId} {x : Errand} (hx : b.errand? i = some x) {P : Errand.Stage → Prop}
      (fits : P x.stage) : ∀ y, b.errand? i = some y → P y.stage := by
    intro y hy
    obtain rfl := Option.some.inj (hx.symm.trans hy)
    exact fits
  have disposing {s : Broker} {i : ErrandId} {x : Errand} {r : Record} {left : List Record}
      {evicted : List ScopeKey} (errands : s.errands = b.errands) (hx : b.errand? i = some x)
      (managers : s.managers = b.managers) (here : c = s.beginDisposal i r.manager left evicted)
      (pace : ∀ j, (∀ n, b.managers[r.manager]? = some n →
          c.managers[r.manager]? = some (n.ask .dispose).1 ∧ j = (n.ask .dispose).2) →
        Pace sight b c i x.stage (.disposing r.manager j left evicted)) :
      b.errandStage? e = some stage ∨ stage = .fresh ∧ b.errandStage? e = none ∨
        ∃ old, b.errandStage? e = some old ∧ Pace sight b c e old stage ∧
          ∀ i, i ≠ e → c.errandStage? i = b.errandStage? i := by
    unfold beginDisposal at here
    rcases ask_cases s r.manager .dispose with ⟨n, manager, same⟩ | ⟨none, same⟩ <;>
      rw [same] at here
    · refine put (s := s.setManager _ _) errands (congrArg Broker.errands here)
        (only hx (P := fun old => Pace sight b c i old _) (pace _ fun k found => ?_))
      rw [managers] at manager
      obtain rfl := Option.some.inj (manager.symm.trans found)
      refine ⟨?_, rfl⟩
      rw [here]
      exact List.getElem?_set_self (managers ▸ (List.getElem?_eq_some_iff.mp manager).1)
    · refine put errands (congrArg Broker.errands here)
        (only hx (P := fun old => Pace sight b c i old _) (pace _ fun k found => ?_))
      rw [managers, found] at none
      simp at none
  cases change with
  | @entrust task =>
    rcases errandStage?_of_entrust found with old | ⟨-, absent, rfl⟩
    · exact .inl old
    · exact .inr (.inl ⟨rfl, absent⟩)
  | forget i => exact .inl (errandStage?_of_forgetErrand found)
  | @enter i x scope new hx before after =>
    have errands := errands_entry b scope
    refine put errands rfl (only hx (P := fun old => Pace sight b _ i old new) ?_)
    rw [before]
    refine .idle rfl rfl ?_
    rcases after with rfl | rfl <;> rfl
  | @tell i x a outcome hx before result =>
    refine put rfl rfl (only hx (P := fun old => Pace sight b _ i old _) ?_)
    rw [before]
    exact .idle rfl rfl rfl
  | @pass i x new hx passes kept free =>
    exact put rfl rfl (only hx (P := fun old => Pace sight b _ i old new)
      (.passes passes kept free))
  | @inquire i x r n hx before =>
    refine put (s := b.setManager _ _) rfl rfl (only hx (P := fun old => Pace sight b _ i old _) ?_)
    rw [before]
    exact .idle rfl rfl rfl
  | @answer i x m j new n y hx job manager ended done passes kept =>
    refine put (s := b.forgetJob m j) rfl rfl (only hx (P := fun old => Pace sight b _ i old new)
      (.answers job manager ended done passes kept ?_))
    rw [forgetJob_eq manager]
    rfl
  | @gather i x a left records evicted hx before ended =>
    refine put rfl rfl (only hx (P := fun old => Pace sight b _ i old _) ?_)
    rw [before]
    exact .hears ended
  | @evict i stale before =>
    exact put (s := b.evict _) rfl rfl fun x hx => .evicts (before x hx) rfl rfl
  | @look i x r left evicted hx before simple unused here =>
    refine put (s := b.joinLine _) rfl rfl (only hx (P := fun old => Pace sight b _ i old _) ?_)
    rw [before]
    exact .looks simple here rfl rfl rfl
  | @release i x r left evicted hx before =>
    refine disposing (s := b) rfl hx rfl rfl fun j asked => ?_
    rw [before]
    exact .begins rfl rfl rfl rfl asked
  | @discard i x r left evicted hx before =>
    refine disposing (s := b.dropSimple i r) rfl hx rfl rfl fun j asked => ?_
    rw [before]
    exact .begins rfl rfl rfl rfl asked
  | _ => exact .inl found

theorem Alike.errandStage? (alike : Alike b c) (e : ErrandId) :
    c.errandStage? e = b.errandStage? e := by
  have posts : c.posts = b.posts := alike.errands
  rw [errandStage?_eq, errandStage?_eq, posts]

theorem Alike.posting (alike : Alike b c) : Posting b c := .rest alike.errands alike.next

theorem Alike.filing (alike : Alike b c) : Filing b c := .rest alike.activations alike.cache

/-- An errand that has not begun evicts, after another one was put away. -/
theorem Change.evict_of_fresh {x : Errand} {w : ErrandId} {stale : List ScopeKey}
    (found : b.errand? e = some x) (fresh : x.stage = .fresh)
    (there : (b.forgetErrand w).errand? e = none → sight = some .lost) :
    Change sight (b.forgetErrand w) ((b.forgetErrand w).beginEviction e stale) := by
  refine .evict (before_of_forgetErrand (P := fun stage => stage.isSeeking) fun y hy => ?_) there
  obtain rfl := Option.some.inj (found.symm.trans hy)
  rw [fresh]
  rfl

/-- A move is a change in other surroundings, or the end of the watch's sweep and an eviction. -/
theorem Course.split {P : Broker → Prop} {host : Host} (course : Course sight host b d)
    (start : P b)
    (alike : ∀ {c d}, P c → Alike c d → P d)
    (calm : ∀ {c d}, P c → Change (some .lost) c d → P d)
    (change : ∀ {s d}, P { b with site := s } → Change sight { b with site := s } d → P d) :
    P d := by
  have at_site {s : Site} (calm : b.site.Calm s) : P { b with site := s } :=
    alike start (.of_managers rfl rfl rfl rfl rfl rfl rfl calm)
  cases course with
  | one site step same => exact alike (change (at_site site) step) same
  | @alone s w _ _ _ site found fresh _ _ free same =>
    have forgotten := change (at_site site) (.forget w free)
    exact alike (calm forgotten (.evict_of_fresh found fresh fun _ => rfl)) same

/-- What all changes keep, and all that does not matter, a move keeps. -/
theorem Course.keeps {P : Broker → Prop} {host : Host} (course : Course sight host b d)
    (start : P b)
    (alike : ∀ {c d}, P c → Alike c d → P d)
    (change : ∀ {sight c d}, P c → Change sight c d → P d) : P d :=
  course.split start alike change change

/-! What follows. -/

theorem Posting.later (posting : Posting b c) : b.nextErrand ≤ c.nextErrand := by
  cases posting with
  | entrust task posts next =>
    rw [next]
    exact Nat.le_succ _
  | rest posts next | forget e posts next | put e stage before posts next =>
    exact Nat.le_of_eq next.symm

theorem IsNumbered.posting (h : b.IsNumbered) (posting : Posting b c) : c.IsNumbered := by
  intro x hx
  have later := posting.later
  cases posting with
  | rest posts => exact Nat.lt_of_lt_of_le (h x (posts ▸ hx)) later
  | entrust task posts next =>
    rw [posts] at hx
    rcases List.mem_append.mp hx with hx | new
    · exact Nat.lt_of_lt_of_le (h x hx) later
    · rw [List.mem_singleton.mp new]
      exact next ▸ Nat.lt_succ_self _
  | forget e posts =>
    rw [posts] at hx
    exact Nat.lt_of_lt_of_le (h x (List.mem_filter.mp hx).1) later
  | put e stage _ posts =>
    rw [posts] at hx
    obtain ⟨y, hy, rfl⟩ := List.mem_map.mp hx
    refine Nat.lt_of_lt_of_le ?_ later
    split <;> exact h y hy

/-- An errand's stage is what it was, unless the errand was taken further. -/
theorem Posting.stage (posting : Posting b c) (old : e < b.nextErrand) {stage : Errand.Stage}
    (found : c.errandStage? e = some stage) :
    b.errandStage? e = some stage ∨ ∃ before, b.errandStage? e = some before ∧
      (before.isBusy ∨ before.isLined ∨ ∃ a, before = .awaiting a ∧ b.Tells a stage) := by
  rw [errandStage?_eq] at found
  cases posting with
  | rest posts => exact .inl (by rw [errandStage?_eq, ← posts, found])
  | entrust task posts =>
    rw [posts, List.find?_append] at found
    have differs : b.nextErrand ≠ e := Nat.ne_of_gt old
    exact .inl (by simpa [errandStage?_eq, differs] using found)
  | forget i posts =>
    rw [posts, find?_forgotten] at found
    split at found
    · simp at found
    · exact .inl (by rw [errandStage?_eq, found])
  | put i stage' before posts =>
    rw [posts, find?_put] at found
    by_cases here : e = i
    · subst here
      cases was : b.errandStage? e with
      | none =>
        rw [errandStage?_eq, Option.map_eq_none_iff] at was
        simp [was] at found
      | some old =>
        have same : stage' = stage := by
          obtain ⟨x, hx, _⟩ := Option.map_eq_some_iff.mp (errandStage?_eq b e ▸ was)
          simpa [hx] using found
        exact .inr ⟨old, rfl, same ▸ before old was⟩
    · exact .inl (by simpa [errandStage?_eq, here] using found)

/-- An errand that was put away does not come back. -/
theorem Posting.away (posting : Posting b c) (old : e < b.nextErrand)
    (away : b.errandStage? e = none) : c.errandStage? e = none := by
  refine Option.eq_none_iff_forall_ne_some.mpr fun stage found => ?_
  rcases posting.stage old found with same | ⟨_, same, _⟩ <;> simp [away] at same

end Broker

end LanguageBroker
