import LanguageBroker.Proofs.BrokerCourse
import LanguageBroker.Proofs.KeyedLists

/-!
The activations and the keys they are cached under. A move takes one activation further, or begins
one for a key without an entry, or takes keys out of the cache.
-/

namespace LanguageBroker

def Activation.Stage.isSettled : Activation.Stage → Bool
  | .settled _ => true
  | _ => false

namespace Activation.Stage

variable {stage : Activation.Stage}

theorem isSettled_of_isEarly (early : stage.isEarly) : stage.isSettled = false := by
  cases stage <;> simp_all [isEarly, isSettled]

theorem isSettled_of_starts? {job : ManagerId × JobId} (starts : stage.starts? = some job) :
    stage.isSettled = false := by
  cases stage <;> simp_all [starts?, isSettled]

theorem record?_of_isEarly (early : stage.isEarly) : stage.record? = none := by
  cases stage <;> simp_all [isEarly, record?]

theorem record?_of_starts? {job : ManagerId × JobId} (starts : stage.starts? = some job) :
    stage.record? = none := by
  cases stage <;> simp_all [starts?, record?]

end Activation.Stage

namespace Broker

/-- The activations' scopes and stages. -/
def files (b : Broker) : List (Scope × Activation.Stage) :=
  b.activations.map fun x => (x.scope, x.stage)

def stage? (b : Broker) (a : ActivationId) : Option Activation.Stage := (b.files[a]?).map (·.2)

/-- The activations begun for a key. -/
def begun (b : Broker) (key : ScopeKey) : List ActivationId :=
  (List.range b.files.length).filter fun a => (b.files[a]?).any fun x => x.1.key = key

/-- What a move does to the activations and to the cache. -/
inductive Filing (b c : Broker) : Prop
  | rest (files : c.files = b.files) (cache : c.cache = b.cache)
  | turn {a : ActivationId} {old : Activation.Stage} (stage : Activation.Stage)
      (found : b.stage? a = some old) (busy : old.isSettled = false) (moved : stage ≠ .fresh)
      (kept : ∀ r, old.record? = some r → stage.record? = some r)
      (files : c.files = b.files.modify a fun x => (x.1, stage)) (cache : c.cache = b.cache)
  | begin (scope : Scope) (absent : b.cache.lookup scope.key = none)
      (files : c.files = b.files ++ [(scope, .fresh)])
      (cache : c.cache = b.cache ++ [(scope.key, b.files.length)])
  | evict (stale : List ScopeKey) (files : c.files = b.files)
      (cache : c.cache = b.cache.filter fun x => ! stale.contains x.1)

/-- Every key has one entry, and its activation is one for that key. -/
structure Filed (b : Broker) : Prop where
  nodup : (b.cache.map Prod.fst).Nodup
  entry : ∀ {key a}, (key, a) ∈ b.cache → ∃ x, b.files[a]? = some x ∧ x.1.key = key

variable {b c d : Broker} {a : ActivationId} {key : ScopeKey} {sight : Option Sight}

theorem stage?_of_activation {x : Activation} (found : b.activations[a]? = some x) :
    b.stage? a = some x.stage := by
  simp [stage?, files, found]

theorem activation_of_stage? {stage : Activation.Stage} (h : b.stage? a = some stage) :
    ∃ x, b.activations[a]? = some x ∧ x.stage = stage := by
  simpa [stage?, files] using h

theorem files_putActivation (b : Broker) (a : ActivationId) (stage : Activation.Stage) :
    (b.putActivation a stage).files = b.files.modify a fun x => (x.1, stage) := by
  apply List.ext_getElem?
  intro i
  simp only [files, putActivation, List.getElem?_map, List.getElem?_modify]
  cases b.activations[i]? with
  | none => split <;> rfl
  | some x => split <;> rfl

theorem lt_of_stage? {stage : Activation.Stage} (h : b.stage? a = some stage) :
    a < b.files.length := by
  obtain ⟨x, hx, _⟩ := Option.map_eq_some_iff.mp h
  exact (List.getElem?_eq_some_iff.mp hx).1

/-- One more activation has begun. -/
theorem files_append (b : Broker) (scope : Scope) :
    (b.activations ++ [({ scope } : Activation)]).map (fun x => (x.scope, x.stage)) =
      b.files ++ [(scope, .fresh)] := by
  simp [files]

theorem stage?_begin {scope : Scope} (files : c.files = b.files ++ [(scope, .fresh)])
    (i : ActivationId) :
    c.stage? i = if i = b.files.length then some .fresh else b.stage? i := by
  rw [stage?, files, List.getElem?_append]
  by_cases inside : i < b.files.length
  · simp [inside, Nat.ne_of_lt inside, stage?]
  · by_cases here : i = b.files.length
    · simp [here]
    · have beyond : i - b.files.length ≠ 0 :=
        Nat.sub_ne_zero_of_lt (Nat.lt_of_le_of_ne (Nat.not_lt.mp inside) (Ne.symm here))
      simp [inside, here, stage?, beyond]

theorem stage?_append (b : Broker) (scope : Scope) (cache : List (ScopeKey × ActivationId))
    (i : ActivationId) :
    ({ b with activations := b.activations ++ [{ scope }], cache } : Broker).stage? i =
      if i = b.files.length then some .fresh else b.stage? i :=
  stage?_begin (b := b) (c := { b with activations := b.activations ++ [{ scope }], cache })
    (files_append b scope) i

theorem result?_eq (b : Broker) (a : ActivationId) :
    b.result? a = (b.stage? a).bind fun stage =>
      match stage with
      | .settled result => some result
      | _ => none := by
  simp only [result?, stage?, files, List.getElem?_map]
  cases b.activations[a]? <;> rfl

theorem result?_eq_some {result : Except ActivationError Record} :
    b.result? a = some result ↔ b.stage? a = some (.settled result) := by
  rw [result?_eq]
  cases b.stage? a with
  | none => simp
  | some stage => cases stage <;> simp

/-! One change. -/

private theorem filing_put {x : Activation} (found : b.activations[a]? = some x)
    (busy : x.stage.isSettled = false) {stage : Activation.Stage} (moved : stage ≠ .fresh)
    (kept : ∀ r, x.stage.record? = some r → stage.record? = some r) {s : Broker}
    (files : s.files = b.files) (cache : s.cache = b.cache) :
    Filing b (s.putActivation a stage) := by
  refine .turn stage (stage?_of_activation found) busy moved kept ?_ cache
  rw [files_putActivation, files]

/-- An activation that has found nothing goes on. -/
private theorem filing_on {x : Activation} (found : b.activations[a]? = some x)
    (busy : x.stage.isSettled = false) (none : x.stage.record? = none)
    {stage : Activation.Stage} (moved : stage ≠ .fresh) {s : Broker} (files : s.files = b.files)
    (cache : s.cache = b.cache) : Filing b (s.putActivation a stage) :=
  filing_put found busy moved (by simp [none]) files cache

/-- The entry of a scope is there, or an activation is begun for it. -/
theorem entry_cases (b : Broker) (scope : Scope) :
    (b.entry scope).1 = b ∨ b.cache.lookup scope.key = none ∧ (b.entry scope).1 =
      { b with
        activations := b.activations ++ [{ scope }]
        cache := b.cache ++ [(scope.key, b.activations.length)] } := by
  unfold entry
  split
  · exact .inl rfl
  · next absent => exact .inr ⟨absent, rfl⟩

theorem errands_entry (b : Broker) (scope : Scope) : (b.entry scope).1.errands = b.errands := by
  rcases entry_cases b scope with same | ⟨_, same⟩ <;> rw [same]

theorem stage?_entry (scope : Scope) {stage : Activation.Stage} (found : b.stage? a = some stage) :
    (b.entry scope).1.stage? a = some stage := by
  rcases entry_cases b scope with same | ⟨_, same⟩
  · rw [same, found]
  · rw [same, stage?_append, if_neg (Nat.ne_of_lt (lt_of_stage? found)), found]

private theorem filing_entry (b : Broker) (scope : Scope) {s : Broker}
    (files : s.files = (b.entry scope).1.files) (cache : s.cache = (b.entry scope).1.cache) :
    Filing b s := by
  rcases entry_cases b scope with same | ⟨absent, same⟩
  · rw [same] at files cache
    exact .rest files cache
  · rw [same] at files cache
    refine .begin scope absent ?_ ?_
    · rw [files]
      simp [Broker.files]
    · rw [cache]
      simp [Broker.files]

theorem files_beginDisposal (b : Broker) (e : ErrandId) (m : ManagerId) (left : List Record)
    (evicted : List ScopeKey) : (b.beginDisposal e m left evicted).files = b.files ∧
      (b.beginDisposal e m left evicted).cache = b.cache := by
  unfold beginDisposal
  rcases ask_cases b m .dispose with ⟨_, _, same⟩ | ⟨_, same⟩ <;> rw [same] <;> exact ⟨rfl, rfl⟩

theorem files_forgetErrand (b : Broker) (e : ErrandId) :
    (b.forgetErrand e).files = b.files ∧ (b.forgetErrand e).cache = b.cache := by
  rcases forgetErrand_cases b e with ⟨_, same⟩ | ⟨_, _, _, _, _, same⟩ <;> rw [same] <;>
    exact ⟨rfl, rfl⟩

theorem Change.filing (change : Change sight b c) : Filing b c := by
  cases change with
  | turn found before after moved =>
    exact filing_on found (Activation.Stage.isSettled_of_isEarly before)
      (Activation.Stage.record?_of_isEarly before) moved rfl rfl
  | queue found before =>
    exact filing_on found (Activation.Stage.isSettled_of_isEarly before)
      (Activation.Stage.record?_of_isEarly before) (by simp) rfl rfl
  | launchFull found before =>
    exact filing_on found (by rw [before]; rfl) (by rw [before]; rfl) (by simp) rfl rfl
  | launchSimple found before =>
    exact filing_on found (by rw [before]; rfl) (by rw [before]; rfl) (by simp) rfl rfl
  | fail found before manager _ _ after =>
    refine filing_on found (Activation.Stage.isSettled_of_starts? before)
      (Activation.Stage.record?_of_starts? before) ?_ rfl rfl
    rintro rfl
    simp [Activation.Stage.settles?] at after
  | win found before =>
    exact filing_on found (by rw [before]; rfl) (by rw [before]; rfl) (by simp) rfl rfl
  | winSimple found before =>
    exact filing_on found (by rw [before]; rfl) (by rw [before]; rfl) (by simp) rfl rfl
  | share found before =>
    exact filing_on found (by rw [before]; rfl) (by rw [before]; rfl) (by simp) rfl rfl
  | refuse found before =>
    exact filing_on found (by rw [before]; rfl) (by rw [before]; rfl) (by simp) rfl rfl
  | fallBack found before =>
    exact filing_on found (by rw [before]; rfl) (by rw [before]; rfl) (by simp) rfl rfl
  | giveUp found before =>
    exact filing_on found (by rw [before]; rfl) (by rw [before]; rfl) (by simp) rfl rfl
  | @settle a x result found before =>
    refine filing_put found (by rw [before]; rfl) (by simp) (fun r record => ?_) rfl rfl
    rw [before] at record
    cases result <;> exact record
  | enter => exact filing_entry b _ rfl rfl
  | @evict e stale => exact .evict (stale.filter b.isCached) rfl rfl
  | forget e => exact .rest (files_forgetErrand b e).1 (files_forgetErrand b e).2
  | release => exact .rest (files_beginDisposal ..).1 (files_beginDisposal ..).2
  | discard => exact .rest (files_beginDisposal ..).1 (files_beginDisposal ..).2
  | _ => exact .rest rfl rfl

theorem Filing.alike (filing : Filing b c) (alike : Alike c d) : Filing b d := by
  have files : d.files = c.files := alike.activations
  cases filing with
  | rest same cache => exact .rest (files.trans same) (alike.cache.trans cache)
  | turn stage found busy moved kept same cache =>
    exact .turn stage found busy moved kept (files.trans same) (alike.cache.trans cache)
  | begin scope absent same cache =>
    exact .begin scope absent (files.trans same) (alike.cache.trans cache)
  | evict stale same cache => exact .evict stale (files.trans same) (alike.cache.trans cache)

theorem Filing.congr {b' : Broker} (filing : Filing b' c) (files : b'.files = b.files)
    (cache : b'.cache = b.cache) : Filing b c := by
  cases filing with
  | rest same also => exact .rest (same.trans files) (also.trans cache)
  | turn stage found busy moved kept same also =>
    exact .turn stage (by simpa only [stage?, files] using found) busy moved kept (files ▸ same)
      (also.trans cache)
  | begin scope absent same also =>
    exact .begin scope (cache ▸ absent) (files ▸ same) (by rw [also, files, cache])
  | evict stale same also => exact .evict stale (same.trans files) (cache ▸ also)

theorem Course.filing {host : Host} (course : Course sight host b d) : Filing b d := by
  cases course with
  | one _ change alike =>
    have filing : Filing b _ := change.filing.congr rfl rfl
    exact filing.alike alike
  | @alone s w e _ stale _ _ _ _ _ _ alike =>
    have given := files_forgetErrand { b with site := s } w
    have filing : Filing (({ b with site := s } : Broker).forgetErrand w)
        ((({ b with site := s } : Broker).forgetErrand w).beginEviction e stale) :=
      .evict _ rfl rfl
    have whole : Filing b _ := filing.congr given.1 given.2
    exact whole.alike alike

/-! What follows. -/

theorem filed_opening (host : Host) (plan : BackendName → Plan) (clock : Clock) :
    Filed (opening host plan clock) := ⟨List.nodup_nil, by simp [opening]⟩

theorem Filed.unique (h : b.Filed) {other : ScopeKey} (one : (key, a) ∈ b.cache)
    (two : (other, a) ∈ b.cache) : key = other := by
  obtain ⟨x, hx, rfl⟩ := h.entry one
  obtain ⟨y, hy, rfl⟩ := h.entry two
  obtain rfl := Option.some.inj (hx.symm.trans hy)
  rfl

theorem mem_cache_of_lookup (found : b.cache.lookup key = some a) : (key, a) ∈ b.cache := by
  obtain ⟨l, r, same, _⟩ := List.lookup_eq_some_iff.mp found
  rw [same]
  simp

/-- A key leads to its entry. -/
theorem Filed.lookup (h : b.Filed) (entry : (key, a) ∈ b.cache) :
    b.cache.lookup key = some a := by
  obtain ⟨l, r, same⟩ := List.append_of_mem entry
  refine List.lookup_eq_some_iff.mpr ⟨l, r, same, fun x before => ?_⟩
  have keys := h.nodup
  rw [same, List.map_append, List.map_cons] at keys
  have apart := (List.nodup_append.mp keys).2.2 x.1 (List.mem_map_of_mem before) key
    List.mem_cons_self
  simpa using Ne.symm apart

/-- Activations stay what they are, and their scopes too. -/
theorem Filing.scope (filing : Filing b c) {x : Scope × Activation.Stage}
    (found : b.files[a]? = some x) : ∃ y, c.files[a]? = some y ∧ y.1 = x.1 := by
  cases filing with
  | rest files => exact ⟨x, by rw [files, found], rfl⟩
  | @turn i old stage _ _ _ _ files =>
    rw [files, List.getElem?_modify, found]
    exact ⟨_, rfl, by split <;> rfl⟩
  | begin scope _ files =>
    have inside := (List.getElem?_eq_some_iff.mp found).1
    exact ⟨x, by rw [files, List.getElem?_append_left inside, found], rfl⟩
  | evict stale files => exact ⟨x, by rw [files, found], rfl⟩

theorem Filed.filing (h : b.Filed) (filing : Filing b c) : c.Filed where
  nodup := by
    cases filing with
    | rest _ cache => exact cache ▸ h.nodup
    | turn _ _ _ _ _ _ cache => exact cache ▸ h.nodup
    | begin scope absent _ cache =>
      rw [cache, List.map_append, List.nodup_append]
      refine ⟨h.nodup, List.nodup_singleton _, ?_⟩
      rintro key old other new rfl
      obtain ⟨⟨_, a⟩, entry, rfl⟩ := List.mem_map.mp old
      obtain rfl := List.mem_singleton.mp new
      have differs := List.lookup_eq_none_iff.mp absent _ entry
      simp at differs
    | evict stale _ cache =>
      rw [cache]
      exact (List.filter_sublist.map Prod.fst).nodup h.nodup
  entry {key a} entry := by
    have old (entry : (key, a) ∈ b.cache) : ∃ x, c.files[a]? = some x ∧ x.1.key = key := by
      obtain ⟨x, hx, rfl⟩ := h.entry entry
      obtain ⟨y, hy, same⟩ := filing.scope hx
      exact ⟨y, hy, by rw [same]⟩
    cases filing with
    | rest _ cache => exact old (cache ▸ entry)
    | turn _ _ _ _ _ _ cache => exact old (cache ▸ entry)
    | begin scope absent files cache =>
      rw [cache] at entry
      rcases List.mem_append.mp entry with entry | new
      · exact old entry
      · obtain ⟨rfl, rfl⟩ := Prod.mk.inj (List.mem_singleton.mp new)
        exact ⟨(scope, .fresh), by rw [files]; simp, rfl⟩
    | evict stale _ cache =>
      rw [cache] at entry
      exact old (List.mem_filter.mp entry).1

/-- An activation that has begun does not begin anew. -/
theorem Filing.moved (filing : Filing b c) {stage : Activation.Stage}
    (begun : b.stage? a = some stage) (moved : stage ≠ .fresh) : c.stage? a ≠ some .fresh := by
  have still : b.stage? a ≠ some .fresh := by
    rw [begun]
    simpa using moved
  cases filing with
  | rest files => simpa only [stage?, files] using still
  | @turn i old stage _ _ moved _ files =>
    by_cases here : i = a
    · subst here
      rw [stage?, files, List.getElem?_modify]
      cases b.files[i]? <;> simp [moved]
    · simpa [stage?, files, List.getElem?_modify, here] using still
  | begin scope _ files =>
    rw [stage?_begin files, if_neg (Nat.ne_of_lt (lt_of_stage? begun))]
    exact still
  | evict stale files => simpa only [stage?, files] using still

/-- What an activation has found stays. -/
theorem Filing.record (filing : Filing b c) {old : Activation.Stage} {r : Record}
    (at_stage : b.stage? a = some old) (record : old.record? = some r) :
    ∃ stage, c.stage? a = some stage ∧ stage.record? = some r := by
  cases filing with
  | rest files => exact ⟨old, by simpa only [stage?, files] using at_stage, record⟩
  | @turn i other stage found _ _ kept files =>
    by_cases here : i = a
    · subst here
      obtain rfl := Option.some.inj (found.symm.trans at_stage)
      obtain ⟨x, hx, _⟩ := Option.map_eq_some_iff.mp at_stage
      exact ⟨stage, by simp [stage?, files, hx], kept r record⟩
    · exact ⟨old, by simpa [stage?, files, List.getElem?_modify, here] using at_stage, record⟩
  | begin scope _ files =>
    refine ⟨old, ?_, record⟩
    rw [stage?_begin files, if_neg (Nat.ne_of_lt (lt_of_stage? at_stage)), at_stage]
  | evict stale files => exact ⟨old, by simpa only [stage?, files] using at_stage, record⟩

/-- What an activation has ended with stays. -/
theorem Filing.settled (filing : Filing b c) {result : Except ActivationError Record}
    (ended : b.stage? a = some (.settled result)) : c.stage? a = some (.settled result) := by
  cases filing with
  | rest files => simpa only [stage?, files] using ended
  | @turn i old stage found busy _ _ files =>
    by_cases here : i = a
    · subst here
      obtain rfl := Option.some.inj (found.symm.trans ended)
      simp [Activation.Stage.isSettled] at busy
    · simpa [stage?, files, List.getElem?_modify, here] using ended
  | begin scope _ files =>
    rw [stage?_begin files, if_neg (Nat.ne_of_lt (lt_of_stage? ended)), ended]
  | evict stale files => simpa only [stage?, files] using ended

private theorem begun_congr (scopes : c.files.map Prod.fst = b.files.map Prod.fst)
    (key : ScopeKey) : c.begun key = b.begun key := by
  have length : c.files.length = b.files.length := by
    simpa using congrArg List.length scopes
  unfold begun
  rw [length]
  apply List.filter_congr
  intro a _
  have here := congrArg (fun l => l[a]?) scopes
  simp only [List.getElem?_map] at here
  cases hb : b.files[a]? with
  | none => simp_all
  | some x =>
    rw [hb, Option.map_some, Option.map_eq_some_iff] at here
    obtain ⟨y, hy, same⟩ := here
    simp [hy, same]

private theorem begun_append {scope : Scope}
    (files : c.files = b.files ++ [(scope, .fresh)]) (key : ScopeKey) :
    c.begun key = b.begun key ++ if scope.key = key then [b.files.length] else [] := by
  unfold begun
  rw [files, List.length_append, List.length_singleton, List.range_succ, List.filter_append]
  congr 1
  · apply List.filter_congr
    intro a inside
    rw [List.getElem?_append_left (List.mem_range.mp inside)]
  · by_cases same : scope.key = key <;> simp [same]

/-- A key's entry stays, or is taken out, or comes to a key without one, and only then is an
activation begun for the key. -/
theorem Filing.lookup (filing : Filing b c) (key : ScopeKey) :
    ((c.cache.lookup key = b.cache.lookup key ∨ c.cache.lookup key = none) ∧
      c.begun key = b.begun key) ∨
    (b.cache.lookup key = none ∧ c.cache.lookup key = some b.files.length ∧
      c.begun key = b.begun key ++ [b.files.length]) := by
  cases filing with
  | rest files cache => exact .inl ⟨.inl (by rw [cache]), begun_congr (by rw [files]) key⟩
  | @turn a old stage _ _ _ _ files cache =>
    refine .inl ⟨.inl (by rw [cache]), begun_congr ?_ key⟩
    rw [files]
    apply List.ext_getElem?
    intro i
    simp only [List.getElem?_map, List.getElem?_modify]
    cases b.files[i]? with
    | none => split <;> rfl
    | some x => split <;> rfl
  | begin scope absent files cache =>
    have growth := begun_append files key
    by_cases same : scope.key = key
    · subst same
      refine .inr ⟨absent, ?_, by simpa using growth⟩
      rw [cache, List.lookup_append, absent]
      simp
    · refine .inl ⟨.inl ?_, by simpa [same] using growth⟩
      have apart : (key == scope.key) = false := beq_false_of_ne (Ne.symm same)
      rw [cache, List.lookup_append, List.lookup_cons, apart]
      simp
  | evict stale files cache =>
    refine .inl ⟨?_, begun_congr (by rw [files]) key⟩
    rw [cache, lookup_filter_key fun key => !stale.contains key]
    split
    · exact .inl rfl
    · exact .inr rfl

end Broker

end LanguageBroker
