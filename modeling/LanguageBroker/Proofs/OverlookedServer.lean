import LanguageBroker.Proofs.ErrandTurns
import LanguageBroker.Proofs.SharedActivation
import LanguageBroker.Proofs.SparedServer

/-!
How a sweep comes to drop a server that a cached activation has found. When it looks for uses of
the server, it sees only activations whose end somebody has waited for, and none that are in line.
If no sweep overlooks any, none is robbed. One that overlooks an activation while nobody is in line
robs it in its next step, and the server is disposed of.
-/

namespace LanguageBroker.Broker

/-- Is a cached activation in line for the manager's server, or has one found it? -/
def isWanted (b : Broker) (m : ManagerId) : Bool :=
  b.isFound m || b.simple.any (fun r => r.manager = m) && b.cache.any fun c =>
    match b.stage? c.2 with
    | some .queuedSimple => true
    | _ => false

/-- Does a sweep see no use of a simple server that is wanted? -/
def overlooks (b : Broker) (next : Move) : Bool :=
  match b.sightOf? next with
  | some (.unused m) => b.isWanted m
  | _ => false

structure Heeded (b : Broker) : Prop where
  queued : ∀ {e stage r}, b.errandStage? e = some stage → stage.queued? = some r →
    ¬ b.Serves r.manager
  waits : ∀ {e stage r}, b.errandStage? e = some stage → stage.queued? = some r →
    .errand e ∈ b.simpleLine ∧ ∀ {s a}, b.simple = some s → s.manager = r.manager → b.IsIn a →
      b.stage? a = some .queuedSimple → ¬ [.activation a, .errand e].Sublist b.simpleLine
  line : ∀ {a}, .activation a ∈ b.simpleLine → ∃ stage, b.stage? a = some stage ∧ stage.isLined

variable {b c d : Broker} {a : ActivationId} {m : ManagerId} {e : ErrandId} {r : Record}
  {sight : Option Sight}

/-! Who is in the cache and who is in line. -/

private theorem isWanted_of_serves (serves : b.Serves m) : b.isWanted m := by
  simp [isWanted, isFound_iff.mpr serves]

private theorem isWanted_of_queued {s : Record} (inside : b.IsIn a)
    (queued : b.stage? a = some .queuedSimple) (shared : b.simple = some s) :
    b.isWanted s.manager := by
  obtain ⟨key, entry⟩ := inside
  have waits : (b.cache.any fun c =>
      match b.stage? c.2 with
      | some .queuedSimple => true
      | _ => false) := List.any_eq_true.mpr ⟨(key, a), entry, by simp [queued]⟩
  simp [isWanted, shared, waits]

private theorem sublist_of_append {x y z : Ticket} {l : List Ticket}
    (ahead : [x, y].Sublist (l ++ [z])) (other : y ≠ z) : [x, y].Sublist l := by
  obtain ⟨l₁, l₂, same, first, last⟩ := List.sublist_append_iff.mp ahead
  rcases List.sublist_singleton.mp last with rfl | rfl
  · simpa [same] using first
  · have both := congrArg List.getLast? same
    simp at both
    exact absurd both other

private theorem ahead_of_isFirst {e : ErrandId} (first : b.isFirst (.activation a))
    (mem : .errand e ∈ b.simpleLine) : [.activation a, .errand e].Sublist b.simpleLine := by
  unfold isFirst at first
  cases line : b.simpleLine with
  | nil => simp [line] at first
  | cons t rest =>
    obtain rfl : t = .activation a := by simpa [line] using first
    rw [line] at mem
    have later : .errand e ∈ rest := by simpa using mem
    exact (List.singleton_sublist.mpr later).cons_cons _

/-! What a change keeps, one field after the other. -/

section

variable (heeded : b.Heeded) (h : b.Kept) (filed : b.Filed) (change : Change sight b c)
include heeded change

include h in
/-- An errand that goes on waiting stays behind nobody who is to share its server. -/
private theorem Heeded.waits_stay {stage : Errand.Stage} (same : b.errandStage? e = some stage)
    (found : c.errandStage? e = some stage) (queued : stage.queued? = some r) :
    .errand e ∈ c.simpleLine ∧ ∀ {s a}, c.simple = some s → s.manager = r.manager → c.IsIn a →
      c.stage? a = some .queuedSimple →
        ¬ [.activation a, .errand e].Sublist c.simpleLine := by
  obtain ⟨place, free⟩ := heeded.waits same queued
  have mem : r ∈ stage.records := by
    cases stage <;> simp_all [Errand.Stage.queued?, Errand.Stage.records]
  have recorded := recorded_of_errandStage? h same mem
  have sharing {s : Record} (shared : c.simple = some s) (also : s.manager = r.manager) :
      b.simple = some s := by
    rcases change.simple h shared with old | ⟨i, other, k, at_other, begins, _⟩
    · exact old
    · exact absurd (also ▸ begins) (h.not_starts recorded at_other)
  have caching {a : ActivationId} (inside : c.IsIn a) (waits : c.stage? a = some .queuedSimple) :
      b.IsIn a := by
    rcases change.filing.isIn inside with old | fresh
    · exact old
    · simp [fresh] at waits
  -- tickets come in at the end, so nobody gets ahead of the errand who was not before
  cases change.lining with
  | rest line _ still =>
    refine ⟨line ▸ place, fun shared also inside waits ahead => ?_⟩
    exact free (sharing shared also) also (caching inside waits) (still waits) (line ▸ ahead)
  | @join i old before out line stages =>
    refine ⟨by simp [line, place], fun {s a} shared also inside waits ahead => ?_⟩
    rw [line] at ahead
    have ahead := sublist_of_append ahead (by simp)
    rw [stages] at waits
    split at waits
    · next here =>
      obtain ⟨other, at_other, lined⟩ := heeded.line (ahead.subset List.mem_cons_self)
      obtain rfl := Option.some.inj (before.symm.trans (here ▸ at_other))
      simp [out] at lined
    · next here =>
      have inside := caching inside (by rw [stages, if_neg here, waits])
      exact free (sharing shared also) also inside waits ahead
  | @part i other _ line stages =>
    refine ⟨by simp [line, place], fun {s a} shared also inside waits ahead => ?_⟩
    rw [line] at ahead
    have differs : a ≠ i := by
      simpa using (List.mem_filter.mp (ahead.subset List.mem_cons_self)).2
    have was : b.stage? a = some .queuedSimple := by rw [← waits, stages, if_neg differs]
    exact free (sharing shared also) also (caching inside waits) was
      (ahead.trans List.filter_sublist)
  | @leave i line stages out =>
    have differs : e ≠ i := by
      rintro rfl
      simp [out found] at queued
    refine ⟨by simp [line, place, differs], fun {s a} shared also inside waits ahead => ?_⟩
    rw [line] at ahead
    exact free (sharing shared also) also (caching inside waits) (stages a ▸ waits)
      (ahead.trans List.filter_sublist)
  | @come i old before out line stages =>
    have differs : e ≠ i := by
      rintro rfl
      obtain rfl := Option.some.inj (before.symm.trans same)
      simp [out] at queued
    refine ⟨by simp [line, place], fun {s a} shared also inside waits ahead => ?_⟩
    rw [line] at ahead
    exact free (sharing shared also) also (caching inside waits) (stages a ▸ waits)
      (sublist_of_append ahead (by simpa using differs))

include h filed in
private theorem Heeded.waits_change
    (watchful : ∀ m, sight = some (.unused m) → b.isWanted m = false)
    {stage : Errand.Stage} (found : c.errandStage? e = some stage)
    (queued : stage.queued? = some r) :
    .errand e ∈ c.simpleLine ∧ ∀ {s a}, c.simple = some s → s.manager = r.manager → c.IsIn a →
      c.stage? a = some .queuedSimple →
        ¬ [.activation a, .errand e].Sublist c.simpleLine := by
  cases change.stride filed found with
  | stays same => exact heeded.waits_stay h change same found queued
  | empty _ out => simp [out] at queued
  | fewer _ _ _ out => simp [out] at queued
  | gather => simp [Errand.Stage.queued?] at queued
  | @look r' left evicted before here line files cache =>
    obtain rfl := Option.some.inj queued
    -- whoever is in line already makes the server wanted, and then the sweep was not careful
    refine ⟨by simp [line], fun {s a} shared same inside waits _ => ?_⟩
    have was : r' ∈ (Errand.Stage.releasing (r' :: left) evicted).records := List.mem_cons_self
    rcases change.simple h shared with old | ⟨i, other, k, at_other, begins, _⟩
    · have wanted := isWanted_of_queued (by simpa only [IsIn, cache] using inside)
        (stage?_congr files a ▸ waits) old
      simp [same, watchful _ here] at wanted
    · exact h.not_starts (recorded_of_errandStage? h before was) at_other (same ▸ begins)

include h filed in
private theorem Heeded.queued_change
    (watchful : ∀ m, sight = some (.unused m) → b.isWanted m = false)
    {stage : Errand.Stage} (found : c.errandStage? e = some stage)
    (queued : stage.queued? = some r) : ¬ c.Serves r.manager := by
  intro serves
  have unserved (known : b.IsRecorded r) (free : ¬ b.Serves r.manager)
      (alone : ∀ {a s}, b.stage? a = some .queuedSimple → b.isFirst (.activation a) → b.IsIn a →
        b.simple = some s → s.manager ≠ r.manager) : False := by
    rcases change.serves h serves with old | ⟨a, stage, j, at_stage, starts, _⟩ |
      ⟨a, s, waits, first, inside, shared, _, same⟩
    · exact free old
    · exact h.not_starts known at_stage starts
    · exact alone waits first inside shared same
  cases change.stride filed found with
  | stays same =>
    obtain ⟨place, free⟩ := heeded.waits same queued
    have mem : r ∈ stage.records := by
      cases stage <;> simp_all [Errand.Stage.queued?, Errand.Stage.records]
    refine unserved (recorded_of_errandStage? h same mem) (heeded.queued same queued) ?_
    intro a s waits first inside shared also
    exact free shared also inside waits (ahead_of_isFirst first place)
  | empty _ out => simp [out] at queued
  | fewer _ _ _ out => simp [out] at queued
  | gather => simp [Errand.Stage.queued?] at queued
  | @look r' left evicted before here =>
    obtain rfl := Option.some.inj queued
    have was : r' ∈ (Errand.Stage.releasing (r' :: left) evicted).records := List.mem_cons_self
    refine unserved (recorded_of_errandStage? h before was) (fun serves => ?_) ?_
    · simpa [watchful _ here] using isWanted_of_serves serves
    · intro a s waits _ inside shared also
      simpa [also, watchful _ here] using isWanted_of_queued inside waits shared

private theorem Heeded.line_change (mem : .activation a ∈ c.simpleLine) :
    ∃ stage, c.stage? a = some stage ∧ stage.isLined := by
  cases change.lining with
  | rest line lined =>
    obtain ⟨stage, at_stage, is⟩ := heeded.line (line ▸ mem)
    exact lined at_stage is
  | @join i old before out line stages =>
    by_cases here : a = i
    · exact ⟨.queuedSimple, by rw [stages, if_pos here], rfl⟩
    · rw [line] at mem
      obtain ⟨stage, at_stage, is⟩ := heeded.line (by simpa [here] using mem)
      exact ⟨stage, by rw [stages, if_neg here, at_stage], is⟩
  | @part i other _ line stages =>
    rw [line] at mem
    obtain ⟨old, differs⟩ := List.mem_filter.mp mem
    have here : a ≠ i := by simpa using differs
    obtain ⟨stage, at_stage, is⟩ := heeded.line old
    exact ⟨stage, by rw [stages, if_neg here, at_stage], is⟩
  | leave line stages =>
    rw [line] at mem
    obtain ⟨stage, at_stage, is⟩ := heeded.line (List.mem_filter.mp mem).1
    exact ⟨stage, (stages a).trans at_stage, is⟩
  | come _ _ line stages =>
    rw [line] at mem
    obtain ⟨stage, at_stage, is⟩ := heeded.line (by simpa using mem)
    exact ⟨stage, (stages a).trans at_stage, is⟩

include h in
theorem Heeded.changed (filed : b.Filed)
    (watchful : ∀ m, sight = some (.unused m) → b.isWanted m = false) : c.Heeded where
  queued found queued := heeded.queued_change h filed change watchful found queued
  waits found queued := heeded.waits_change h filed change watchful found queued
  line mem := heeded.line_change change mem

end

theorem Heeded.alike (heeded : b.Heeded) (alike : Alike b c) : c.Heeded := by
  have files : c.files = b.files := alike.activations
  have stages := stage?_congr files
  refine ⟨?queued, ?waits, ?line⟩
  case queued =>
    intro e stage r found queued serves
    exact heeded.queued (alike.errandStage? e ▸ found) queued
      (serves.of_alike files (alike.cache ▸ fun _ hx => hx))
  case waits =>
    intro e stage r found queued
    obtain ⟨place, free⟩ := heeded.waits (alike.errandStage? e ▸ found) queued
    refine ⟨alike.line ▸ place, fun {s a} shared same inside waits ahead => ?_⟩
    have inside : b.IsIn a := by simpa only [IsIn, alike.cache] using inside
    exact free (alike.simple ▸ shared) same inside (stages a ▸ waits) (alike.line ▸ ahead)
  case line =>
    intro a mem
    obtain ⟨stage, at_stage, lined⟩ := heeded.line (alike.line ▸ mem)
    exact ⟨stage, (stages a).trans at_stage, lined⟩

theorem Heeded.course (heeded : b.Heeded) (h : b.Kept) (filed : b.Filed)
    (watchful : ∀ m, sight = some (.unused m) → b.isWanted m = false)
    {host : Host} (course : Course sight host b d) : d.Heeded := by
  have all : d.Heeded ∧ d.Kept ∧ d.Filed := by
    refine course.split (P := fun c => c.Heeded ∧ c.Kept ∧ c.Filed) ⟨heeded, h, filed⟩ ?_ ?_ ?_
    · rintro c d ⟨heeded, h, filed⟩ alike
      exact ⟨heeded.alike alike, h.alike alike, filed.filing alike.filing⟩
    · rintro c d ⟨heeded, h, filed⟩ change
      exact ⟨heeded.changed h change filed (by simp), h.change change, filed.filing change.filing⟩
    · rintro s d ⟨heeded, h, filed⟩ change
      exact ⟨heeded.changed h change filed watchful, h.change change, filed.filing change.filing⟩
  exact all.1

theorem heeded_opening (host : Host) (plan : BackendName → Plan) (clock : Clock) :
    Heeded (opening host plan clock) where
  queued found := by simp [opening, errandStage?, errand?] at found
  waits found := by simp [opening, errandStage?, errand?] at found
  line mem := by simp [opening] at mem

/-! What a sweep does with the server, move by move. -/

theorem dropped_of_sightOf? {next : Move} (drops : b.sightOf? next = some (.dropped m)) :
    ∃ e r left evicted, b.turn? next = some e ∧
      b.errandStage? e = some (.queuedSimple r left evicted) ∧ b.isFirst (.errand e) ∧
        r.manager = m := by
  obtain ⟨e, turn, sight⟩ := Option.bind_eq_some_iff.mp drops
  unfold sight? at sight
  split at sight
  · split at sight <;> simp at sight
  · next r left evicted _ _ found =>
    split at sight
    · next first =>
      obtain rfl := Sight.dropped.inj (Option.some.inj sight)
      exact ⟨e, r, left, evicted, turn, errandStage?_of_errand found, first, rfl⟩
    · simp at sight
  · simp at sight

private theorem unused_of_sightOf? {next : Move} (looks : b.sightOf? next = some (.unused m)) :
    ∃ e r left evicted, b.turn? next = some e ∧
      b.errandStage? e = some (.releasing (r :: left) evicted) ∧ r.variant = .simple ∧
        b.isInUse r.manager = false ∧ r.manager = m := by
  obtain ⟨e, turn, sight⟩ := Option.bind_eq_some_iff.mp looks
  unfold sight? at sight
  split at sight
  · next r left evicted _ _ found =>
    split at sight
    · next unused =>
      obtain rfl := Sight.unused.inj (Option.some.inj sight)
      exact ⟨e, r, left, evicted, turn, errandStage?_of_errand found, unused.1, unused.2, rfl⟩
    · simp at sight
  · split at sight <;> simp at sight
  · simp at sight

/-- In a run in which no sweep overlooks anything, none drops a server that a cached activation has
found. -/
theorem Heeded.never_robs (heeded : b.Heeded) (h : b.Kept) (filed : b.Filed) {moves : List Move}
    (watchful : never overlooks b moves) : never robs b moves := by
  induction moves generalizing b with
  | nil => rfl
  | cons next moves ih =>
    simp only [never, Bool.and_eq_true, Bool.not_eq_true'] at watchful ⊢
    have course := h.moves next
    have unwanted (m : ManagerId) (fate : b.fate? next = some (.unused m)) :
        b.isWanted m = false := by
      simpa [overlooks, sightOf?_of_fate? fate (by simp)] using watchful.1
    refine ⟨?_, ih (heeded.course h filed unwanted course) (h.move next)
      (filed.filing course.filing) watchful.2⟩
    unfold robs
    split
    · next m drops =>
      obtain ⟨e, r, left, evicted, _, found, _, rfl⟩ := dropped_of_sightOf? drops
      simpa [← isFound_iff] using heeded.queued found rfl
    · rfl

private theorem look_step {next : Move} {left : List Record} {evicted : List ScopeKey}
    (turn : b.turn? next = some e)
    (found : b.errandStage? e = some (.releasing (r :: left) evicted))
    (simple : r.variant = .simple) (unused : b.isInUse r.manager = false) :
    Alike ((b.joinLine (.errand e)).putErrand e (.queuedSimple r left evicted)) (b.move next) ∧
      (b.move next).turn? next = some e := by
  obtain ⟨x, here, stage⟩ := Option.map_eq_some_iff.mp found
  have runs : b.canRun e := by simp [canRun, here, stage]
  have also : b.ticked.errand? e = some x := here
  have unseen : b.ticked.isInUse r.manager = false := unused
  have step : b.ticked.stepErrand e =
      (b.ticked.joinLine (.errand e)).putErrand e (.queuedSimple r left evicted) := by
    simp [stepErrand, also, stage, release, simple, unseen]
  rw [move_of_turn turn runs, step]
  refine ⟨?_, (turn?_congr (b := b) rfl next).trans turn⟩
  have tick : Alike ((b.joinLine (.errand e)).putErrand e (.queuedSimple r left evicted))
      ((b.ticked.joinLine (.errand e)).putErrand e (.queuedSimple r left evicted)) :=
    .of_managers rfl rfl rfl rfl (map_putErrand (c := b) (d := b.ticked) rfl e _) rfl rfl
      (calm_ticked b)
  exact tick.trans (.tidy _)

private theorem discard_step {next : Move} {left : List Record} {evicted : List ScopeKey}
    (h : b.Kept) (turn : b.turn? next = some e)
    (found : b.errandStage? e = some (.queuedSimple r left evicted))
    (first : b.isFirst (.errand e)) :
    (b.move next).files = b.files ∧ (b.move next).cache = b.cache ∧
      (b.move next).turn? next = some e ∧ ∃ x j,
        (b.move next).errandStage? e = some (.disposing r.manager j left evicted) ∧
        (b.move next).managers[r.manager]? = some x ∧ x.job? j = some ⟨j, .dispose, .fresh⟩ := by
  obtain ⟨y, here, stage⟩ := Option.map_eq_some_iff.mp found
  have runs : b.canRun e := by simpa [canRun, here, stage] using first
  have also : b.ticked.errand? e = some y := here
  have inside : r.manager < b.managers.length :=
    h.recorded_within (recorded_of_errandStage? h found List.mem_cons_self)
  have manager : b.managers[r.manager]? = some b.managers[r.manager] :=
    List.getElem?_eq_getElem inside
  have asks := ask_eq (b := b.ticked.dropSimple e r) manager .dispose
  have step : b.ticked.stepErrand e = ((b.ticked.dropSimple e r).setManager r.manager
      (b.managers[r.manager].ask .dispose).1).putErrand e
        (.disposing r.manager (b.managers[r.manager].ask .dispose).2 left evicted) := by
    simp only [stepErrand, also, stage, beginDisposal, asks]
  have fresh : (b.managers[r.manager].ask .dispose).1.job? (b.managers[r.manager].ask .dispose).2 =
      some ⟨(b.managers[r.manager].ask .dispose).2, .dispose, .fresh⟩ := by
    rw [Manager.job?_ask (h.lined manager).free]
    simp [Manager.ask]
  rw [move_of_turn turn runs, step]
  generalize same : ((b.ticked.dropSimple e r).setManager r.manager
    (b.managers[r.manager].ask .dispose).1).putErrand e
      (.disposing r.manager (b.managers[r.manager].ask .dispose).2 left evicted) = c
  have alike := Alike.tidy c
  have there : c.managers[r.manager]? = some (b.managers[r.manager].ask .dispose).1 := by
    subst same
    exact List.getElem?_set_self inside
  obtain ⟨x, after, aside⟩ := alike.later there
  refine ⟨alike.activations.trans (same ▸ rfl), alike.cache.trans (same ▸ rfl),
    (turn?_congr (b := b) (same ▸ rfl) next).trans turn, x, _, ?_, after,
    aside.kept fresh (by simp [Job.isDone])⟩
  have waits : (b.ticked.dropSimple e r).errandStage? e =
    some (.queuedSimple r left evicted) := found
  rw [alike.errandStage?, ← same, errandStage?_putErrand]
  change Option.map _ ((b.ticked.dropSimple e r).errandStage? e) = _
  rw [waits]
  simp

private theorem dispose_step {next : Move} {left : List Record} {evicted : List ScopeKey}
    {j : JobId} {x : Manager} (turn : b.turn? next = some e)
    (found : b.errandStage? e = some (.disposing m j left evicted))
    (manager : b.managers[m]? = some x) (job : x.job? j = some ⟨j, .dispose, .fresh⟩) :
    (b.move next).files = b.files ∧ (b.move next).cache = b.cache ∧
      (b.move next).isDisposed m := by
  obtain ⟨y, here, stage⟩ := Option.map_eq_some_iff.mp found
  have inside := (List.getElem?_eq_some_iff.mp manager).1
  have moving : x.isMoving b.site.clock j := by simp [Manager.isMoving, job, Manager.canStep]
  have runs : b.canRun e := by simp [canRun, here, stage, canAwait, manager, moving]
  have also : b.ticked.errand? e = some y := here
  have waits : b.ticked.outcome? m j = none := by
    have same : b.ticked.managers[m]? = some x := manager
    simp [outcome?, same, Manager.outcome?, job]
  have step : b.ticked.stepErrand e = b.ticked.stepManager m (.job j) := by
    simp only [stepErrand, also, stage, await, waits]
  have stepped : ∃ n, n.disposed ∧ b.ticked.stepManager m (.job j) =
      { b.ticked.setManager m n with site := (x.act b.ticked.site (.job j)).2 } := by
    have same : b.ticked.managers[m]? = some x := manager
    refine ⟨(x.act b.ticked.site (.job j)).1, ?_, by simp [stepManager, same, setManager]⟩
    simp only [Manager.act, job, Manager.stepJob, Manager.beginJob]
    split
    · next disposed => exact disposed
    · rfl
  obtain ⟨n, disposed, same⟩ := stepped
  rw [move_of_turn turn runs, step, same]
  generalize shape : ({ b.ticked.setManager m n with
    site := (x.act b.ticked.site (.job j)).2 } : Broker) = c
  have alike := Alike.tidy c
  have there : c.managers[m]? = some n := by
    subst shape
    exact List.getElem?_set_self inside
  obtain ⟨z, after, aside⟩ := alike.later there
  refine ⟨alike.activations.trans (shape ▸ rfl), alike.cache.trans (shape ▸ rfl), ?_⟩
  simp [isDisposed, after, aside.disposed, disposed]

/-- A sweep that drops the simple server disposes of it with its next move. -/
theorem Kept.disposes_of_drop (h : b.Kept) {next : Move}
    (drops : b.sightOf? next = some (.dropped m)) :
    (b.run [next, next]).files = b.files ∧ (b.run [next, next]).cache = b.cache ∧
      (b.run [next, next]).isDisposed m := by
  obtain ⟨e, r, left, evicted, turn, found, first, rfl⟩ := dropped_of_sightOf? drops
  obtain ⟨files, cache, again, x, j, disposing, manager, job⟩ := discard_step h turn found first
  obtain ⟨also, same, disposed⟩ := dispose_step again disposing manager job
  exact ⟨also.trans files, same.trans cache, disposed⟩

/-- An activation that has found its server tells so with its next move. -/
private theorem conclude_step (found : b.stage? a = some (.concluding (.ok r))) :
    (b.move (.agent (.activation a))).result? a = some (.ok r) ∧
      (b.move (.agent (.activation a))).cache = b.cache ∧
      (b.isDisposed m → (b.move (.agent (.activation a))).isDisposed m) := by
  obtain ⟨x, hx, stage⟩ := activation_of_stage? found
  have ready : b.isReady (.activation a) := by simp [isReady, canActivate, hx, stage]
  have also : b.ticked.activations[a]? = some x := hx
  obtain ⟨s, step⟩ : ∃ s : Site, b.ticked.stepActivation a =
      ({ b with site := s } : Broker).putActivation a (.settled (.ok r)) :=
    ⟨_, by simp only [stepActivation, also, stage, succeed]; rfl⟩
  simp only [move, ready, if_true, act, step]
  generalize shape : ({ b with site := s } : Broker).putActivation a (.settled (.ok r)) = c
  have alike := Alike.tidy c
  refine ⟨result?_eq_some.mpr ?_, alike.cache.trans (shape ▸ rfl), fun disposed => ?_⟩
  · rw [stage?_congr alike.activations, ← shape,
      stage?_putActivation (b := { b with site := s }) found, if_pos rfl]
  · have managers : c.managers = b.managers := shape ▸ rfl
    unfold isDisposed at disposed ⊢
    rw [← managers] at disposed
    cases before : c.managers[m]? with
    | none =>
      have beyond : c.tidy.managers[m]? = none := by
        rw [List.getElem?_eq_none_iff, alike.length]
        exact List.getElem?_eq_none_iff.mp before
      simp [beyond]
    | some n =>
      obtain ⟨y, after, aside⟩ := alike.later before
      simpa [after, before, aside.disposed] using disposed

/-- A server that a sweep drops while a cached activation has found it is disposed of, and the
activation stays cached and tells of it. -/
theorem Kept.dies_of_robs (h : b.Kept) (filed : b.Filed) {next : Move} (robs : b.robs next) :
    ∃ after key a record, (b.run (next :: after)).cache.lookup key = some a ∧
      (b.run (next :: after)).result? a = some (.ok record) ∧
      (b.run (next :: after)).isDisposed record.manager := by
  obtain ⟨m, drops, found⟩ : ∃ m, b.sightOf? next = some (.dropped m) ∧ b.isFound m := by
    unfold Broker.robs at robs
    split at robs
    · next m drops => exact ⟨m, drops, robs⟩
    · simp at robs
  obtain ⟨a, stage, r, ⟨key, entry⟩, at_stage, record, rfl⟩ := isFound_iff.mp found
  obtain ⟨files, cache, disposed⟩ := h.disposes_of_drop drops
  have cached := filed.lookup entry
  have still := (stage?_congr files a).trans at_stage
  cases stage with
  | settled result =>
    obtain rfl : result = .ok r := by cases result <;> simp_all [Activation.Stage.record?]
    exact ⟨[next], key, a, r, cache ▸ cached, result?_eq_some.mpr still, disposed⟩
  | concluding result =>
    obtain rfl : result = .ok r := by cases result <;> simp_all [Activation.Stage.record?]
    obtain ⟨told, same, stays⟩ := conclude_step still
    exact ⟨[next, .agent (.activation a)], key, a, r, same ▸ cache ▸ cached, told, stays disposed⟩
  | _ => simp [Activation.Stage.record?] at record

/-- A sweep that overlooks an activation while nobody is in line robs it with its next move. -/
theorem robs_of_overlooks {next : Move} (looks : b.sightOf? next = some (.unused m))
    (found : b.isFound m) (free : b.simpleLine = []) : (b.move next).robs next := by
  obtain ⟨e, r, left, evicted, turn, waits, simple, unused, rfl⟩ := unused_of_sightOf? looks
  obtain ⟨alike, again⟩ := look_step turn waits simple unused
  have queued : (b.move next).errandStage? e = some (.queuedSimple r left evicted) := by
    have before : (b.joinLine (.errand e)).errandStage? e =
      some (.releasing (r :: left) evicted) := waits
    rw [alike.errandStage?, errandStage?_putErrand, before]
    simp
  have first : (b.move next).isFirst (.errand e) := by
    have line : (b.move next).simpleLine = b.simpleLine ++ [.errand e] := alike.line
    simp [isFirst, line, free]
  have sight : (b.move next).sightOf? next = some (.dropped r.manager) := by
    obtain ⟨⟨id, task, stage, since, cancelled⟩, here, rfl⟩ := Option.map_eq_some_iff.mp queued
    simp [sightOf?, again, sight?, here, first]
  have stays : (b.move next).isFound r.manager := by
    obtain ⟨a, stage, s, ⟨key, entry⟩, at_stage, record, same⟩ := isFound_iff.mp found
    refine isFound_iff.mpr ⟨a, stage, s, ⟨key, alike.cache ▸ entry⟩, ?_, record, same⟩
    exact (stage?_congr alike.activations a).trans at_stage
  simpa [robs, sight] using stays

/-- In a run in which no sweep drops a server that a cached activation has found, no cached
activation that has succeeded has a manager that is disposed of, and from every move that does drop
such a server a run goes on to one that has. No sweep does so if none overlooks an activation that
has found the server or is in line for it, and one that overlooks an activation that has found it,
while nobody is in line, does so with its next move. -/
theorem cached_success_is_live (host : Host) (plan : BackendName → Plan) (clock : Clock)
    (moves : List Move) :
    let b := (opening host plan clock).run moves
    (never robs (opening host plan clock) moves → ∀ key a record,
      b.cache.lookup key = some a → b.result? a = some (.ok record) →
        b.isDisposed record.manager = false) ∧
    (∀ next, b.robs next → ∃ after key a record,
      (b.run (next :: after)).cache.lookup key = some a ∧
      (b.run (next :: after)).result? a = some (.ok record) ∧
      (b.run (next :: after)).isDisposed record.manager) ∧
    (never overlooks (opening host plan clock) moves → never robs (opening host plan clock) moves) ∧
    (∀ next m, b.sightOf? next = some (.unused m) → b.isFound m → b.simpleLine = [] →
      (b.move next).robs next) := by
  intro b
  have orderly : b.Orderly := (orderly_opening host plan clock).run moves
  have kept := kept_opening host plan clock
  have filed := filed_opening host plan clock
  refine ⟨fun careful key a record cached success => ?_, fun next robs => ?_, fun watchful => ?_,
    fun next m looks found free => ?_⟩
  · have spared : b.Spared := (spared_opening host plan clock).run kept filed careful
    exact spared.live orderly.kept cached success
  · exact orderly.kept.dies_of_robs orderly.filed robs
  · exact (heeded_opening host plan clock).never_robs kept filed watchful
  · exact robs_of_overlooks looks found free

theorem never_append (kind : Broker → Move → Bool) (b : Broker) (before after : List Move) :
    never kind b (before ++ after) = (never kind b before && never kind (b.run before) after) := by
  induction before generalizing b with
  | nil => rfl
  | cons next before ih => simp [never, ih, Bool.and_assoc]

theorem keys_of_sorted (b : Broker)
    (sorted : (b.cache.map (·.1)).Pairwise fun k l => ScopeKey.le k l) :
    b.keys = (b.cache.map (·.1)).eraseReps := by
  rw [keys, ScopeKey.sorted, List.mergeSort_of_pairwise sorted]

/-- The sweep after a change of interpreters begins. -/
theorem move_survey (b : Broker) {x : Errand} (free : b.isWatched e = false)
    (found : b.errand? e = some x) (stage : x.stage = .fresh)
    (task : x.task = .sweep .interpreters)
    (sorted : (b.cache.map (·.1)).Pairwise fun k l => ScopeKey.le k l) :
    b.move (.errand e) = (b.ticked.putErrand e
      (.surveying (b.cache.map (·.1)).eraseReps [] [])).tidy := by
  have runs : b.canRun e := by simp [canRun, found, stage]
  have also : b.ticked.errand? e = some x := found
  have keys : b.ticked.keys = (b.cache.map (·.1)).eraseReps := b.ticked.keys_of_sorted sorted
  simp [move, runs, free, stepErrand, also, stage, task, beginErrand, keys]

def newPython : Interpreter := ⟨"/usr/bin/python3", none⟩

/-- Surroundings in which only the simple server can be made. -/
def simpleHost : Host :=
  { bareHost with
    interpreter := fun _ => .ok (some newPython)
    isRegistered := fun _ => true }

/-- A lookup starts the simple server, and an activation whose end nobody hears of shares it. Then
the interpreters have changed. -/
def sharing : List Move :=
  [.entrust (.find none (some python)), .errand 0] ++ List.replicate 9 (.agent (.activation 0)) ++
    [.errand 0, .entrust (.prepare none (some newPython)), .errand 1] ++
    List.replicate 4 (.agent (.activation 1)) ++ [.entrust (.sweep .interpreters)]

/-- Until the sweep looks for uses of the server, nothing is overlooked. It sees none, and three
moves later the activation that has found the server is left with one that is disposed of. -/
theorem overlooked_success_dies :
    let b := (opening simpleHost (fun _ => {}) {}).run (sharing ++ List.replicate 6 (.errand 2))
    let c := (opening simpleHost (fun _ => {}) {}).run (sharing ++ List.replicate 9 (.errand 2))
    (never overlooks (opening simpleHost (fun _ => {}) {})
        (sharing ++ List.replicate 6 (.errand 2)) ∧
      b.cache.lookup (.of none newPython) = some 1 ∧ b.result? 1 = some (.ok ⟨.simple, 0⟩) ∧
      b.isDisposed 0 = false) ∧
    (b.sightOf? (.errand 2) = some (.unused 0) ∧ b.isFound 0 ∧
      (b.move (.errand 2)).robs (.errand 2)) ∧
    c.cache.lookup (.of none newPython) = some 1 ∧ c.result? 1 = some (.ok ⟨.simple, 0⟩) ∧
      c.isDisposed 0 := by
  intro b c
  have begins := move_survey (e := 2) ((opening simpleHost (fun _ => {}) {}).run sharing)
    (by decide) rfl rfl rfl (by decide)
  have run (n : Nat) : (opening simpleHost (fun _ => {}) {}).run
      (sharing ++ List.replicate (n + 1) (.errand 2)) =
        (((opening simpleHost (fun _ => {}) {}).run sharing).move (.errand 2)).run
          (List.replicate n (.errand 2)) := by
    rw [run_append, List.replicate_succ, run_cons]
  rw [begins] at run
  have watchful : never overlooks (opening simpleHost (fun _ => {}) {})
      (sharing ++ List.replicate 6 (.errand 2)) := by
    rw [never_append, List.replicate_succ, never, begins]
    decide
  have cached : b.cache.lookup (.of none newPython) = some 1 := by
    rw [show b = _ from run 5]
    decide
  have success : b.result? 1 = some (.ok ⟨.simple, 0⟩) := by
    rw [show b = _ from run 5]
    rfl
  have looks : b.sightOf? (.errand 2) = some (.unused 0) := by
    rw [show b = _ from run 5]
    rfl
  have found : b.isFound 0 := by
    rw [show b = _ from run 5]
    decide
  have free : b.simpleLine = [] := by
    rw [show b = _ from run 5]
    decide
  obtain ⟨live, _, careful, next⟩ := cached_success_is_live simpleHost (fun _ => {}) {}
    (sharing ++ List.replicate 6 (.errand 2))
  have alive := live (careful watchful) (.of none newPython) 1 ⟨.simple, 0⟩ cached success
  have robs := next (.errand 2) 0 looks found free
  refine ⟨⟨watchful, cached, success, alive⟩, ⟨looks, found, robs⟩, ?_⟩
  rw [show c = _ from run 8]
  exact ⟨by decide, rfl, by decide⟩

end LanguageBroker.Broker
