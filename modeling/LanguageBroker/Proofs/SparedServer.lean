import LanguageBroker.Proofs.SimpleServer

/-!
Careful runs. As long as no sweep drops the simple server while a cached activation has found it,
no manager is disposed of whose server a cached activation has found.
-/

namespace LanguageBroker.Broker

/-- Has a cached activation found the manager's server? -/
def isFound (b : Broker) (m : ManagerId) : Bool :=
  b.cache.any fun c => ((b.stage? c.2).bind (·.record?)).any fun r => r.manager = m

/-- Does a sweep drop a server that a cached activation has found? -/
def robs (b : Broker) (next : Move) : Bool :=
  match b.sightOf? next with
  | some (.dropped m) => b.isFound m
  | _ => false

/-- A move of that kind does not occur in a run. -/
def never (kind : Broker → Move → Bool) (b : Broker) : List Move → Bool
  | [] => true
  | next :: moves => !kind b next && never kind (b.move next) moves

structure Spared (b : Broker) : Prop where
  doomed : ∀ {m n}, b.managers[m]? = some n → n.IsDoomed → ¬ b.Serves m
  full : ∀ {e stage r}, b.errandStage? e = some stage → r ∈ stage.records →
    r.variant ≠ .simple → ¬ b.Serves r.manager
  shared : ∀ {m n r}, b.managers[m]? = some n → n.IsDoomed → b.simple = some r → r.manager ≠ m
  evicted : ∀ {e stage a}, b.errandStage? e = some stage → a ∈ stage.evicted → b.IsOut a

variable {b c d : Broker} {a : ActivationId} {m : ManagerId} {e : ErrandId} {r : Record}
  {sight : Option Sight}

theorem isFound_iff : b.isFound m ↔ b.Serves m := by
  constructor
  · intro found
    obtain ⟨⟨key, a⟩, entry, has⟩ := List.any_eq_true.mp found
    obtain ⟨r, record, same⟩ := (Option.any_eq_true _ _).mp has
    obtain ⟨stage, at_stage, record⟩ := Option.bind_eq_some_iff.mp record
    exact ⟨a, stage, r, ⟨key, entry⟩, at_stage, record, by simpa using same⟩
  · rintro ⟨a, stage, r, ⟨key, entry⟩, at_stage, record, same⟩
    exact List.any_eq_true.mpr ⟨(key, a), entry, by simp [at_stage, record, same]⟩

/-- A manager has been found in one way. -/
theorem Kept.record_unique (h : b.Kept) {s : Record} (one : b.IsRecorded r)
    (two : b.IsRecorded s) (same : r.manager = s.manager) : r = s := by
  obtain ⟨a, stage, at_stage, record⟩ := one
  obtain ⟨i, other, at_other, also⟩ := two
  have named := (Activation.Stage.manager?_of_record? record).1
  have names := (Activation.Stage.manager?_of_record? also).1
  rcases h.alone at_stage at_other named (same ▸ names) with rfl | ⟨simple, shares⟩
  · obtain rfl := Option.some.inj (at_stage.symm.trans at_other)
    exact Option.some.inj (record.symm.trans also)
  · rw [record] at simple
    rw [also] at shares
    exact (Option.some.inj simple).trans (Option.some.inj shares).symm

theorem recorded_of_errandStage? (h : b.Kept) {stage : Errand.Stage}
    (found : b.errandStage? e = some stage) (mem : r ∈ stage.records) : b.IsRecorded r := by
  obtain ⟨x, hx, rfl⟩ := Option.map_eq_some_iff.mp found
  exact (h.knows hx).records r mem

/-- The manager of the simple server is not doomed, since whoever disposes of it drops the server
before. -/
theorem Change.not_doomed_of_simple (h : b.Kept) (change : Change sight b c)
    (alive : ∀ {r n}, b.simple = some r → b.managers[r.manager]? = some n → ¬ n.IsDoomed)
    {n : Manager} (shared : c.simple = some r) (manager : c.managers[r.manager]? = some n) :
    ¬ n.IsDoomed := by
  intro doomed
  rcases change.simple h shared with old | ⟨i, other, k, at_other, begins, _, _, fine⟩
  · obtain ⟨recorded, simple⟩ := h.simple old
    rcases change.doomed h manager doomed with ⟨x, hx, doomed⟩ |
      ⟨a, stage, j, at_stage, starts⟩ | ⟨e, stage, s, found, mem, same, full | ⟨_, gone⟩⟩
    · exact alive old hx doomed
    · exact h.not_starts recorded at_stage starts
    · obtain rfl := h.record_unique (recorded_of_errandStage? h found mem) recorded same
      exact full simple
    · exact gone r shared rfl
  · exact fine n manager doomed

private theorem isRecorded_of_serves (serves : b.Serves m) :
    ∃ r, b.IsRecorded r ∧ r.manager = m := by
  obtain ⟨a, stage, r, _, at_stage, record, same⟩ := serves
  exact ⟨r, ⟨a, stage, at_stage, record⟩, same⟩

/-- What an errand has to do with was so before, or was found by an evicted activation that it has
just heard of. -/
private theorem Stride.records (spared : b.Spared) {stage : Errand.Stage}
    (stride : Stride sight b c e stage) (mem : r ∈ stage.records) :
    (∃ old, b.errandStage? e = some old ∧ r ∈ old.records) ∨
      ∃ a other, b.IsOut a ∧ b.stage? a = some other ∧ other.record? = some r := by
  cases stride with
  | stays same => exact .inl ⟨stage, same, mem⟩
  | empty records => simp [records] at mem
  | fewer before records => exact .inl ⟨_, before, records mem⟩
  | @gather a left records evicted before =>
    rcases mem_gather mem with old | ⟨other, at_other, record⟩
    · exact .inl ⟨_, before, old⟩
    · exact .inr ⟨a, other, spared.evicted before List.mem_cons_self, at_other, record⟩
  | look before => exact .inl ⟨_, before, mem⟩

/-! What a change keeps, one field after the other. -/

section

variable (spared : b.Spared) (h : b.Kept) (filed : b.Filed) (change : Change sight b c)
include spared h change

private theorem Spared.doomed_change {n : Manager}
    (careful : ∀ m, sight = some (.dropped m) → ¬ b.Serves m)
    (manager : c.managers[m]? = some n) (doomed : n.IsDoomed) : ¬ c.Serves m := by
  intro serves
  rcases change.serves h serves with old | ⟨_, _, _, _, _, fine⟩ |
    ⟨a, r, queued, first, inside, shared, still, rfl⟩
  · rcases change.doomed h manager doomed with ⟨x, hx, doomed⟩ |
      ⟨a, stage, j, at_stage, starts⟩ | ⟨e, stage, r, found, mem, rfl, full | ⟨here, _⟩⟩
    · exact spared.doomed hx doomed old
    · obtain ⟨r, recorded, rfl⟩ := isRecorded_of_serves old
      exact h.not_starts recorded at_stage starts
    · exact spared.full found mem full old
    · exact careful _ here old
  · exact fine n manager doomed
  · obtain ⟨recorded, simple⟩ := h.simple shared
    rcases change.doomed h manager doomed with ⟨x, hx, doomed⟩ |
      ⟨a, stage, j, at_stage, starts⟩ | ⟨e, stage, s, found, mem, same, full | ⟨_, gone⟩⟩
    · exact spared.shared hx doomed shared rfl
    · exact h.not_starts recorded at_stage starts
    · obtain rfl := h.record_unique (recorded_of_errandStage? h found mem) recorded same
      exact full simple
    · exact gone r still rfl

include filed in
private theorem Spared.full_change {stage : Errand.Stage} (found : c.errandStage? e = some stage)
    (mem : r ∈ stage.records) (full : r.variant ≠ .simple) : ¬ c.Serves r.manager := by
  intro serves
  have origin := (change.stride filed found).records spared mem
  have recorded : b.IsRecorded r := by
    rcases origin with ⟨old, before, mem⟩ | ⟨a, other, _, at_other, record⟩
    · exact recorded_of_errandStage? h before mem
    · exact ⟨a, other, at_other, record⟩
  rcases change.serves h serves with old | ⟨a, stage, j, at_stage, starts, _⟩ |
    ⟨a, s, _, _, _, shared, _, same⟩
  · rcases origin with ⟨stage, before, mem⟩ | ⟨a, other, out, at_other, record⟩
    · exact spared.full before mem full old
    · -- a full server has been found by one activation, and this one is evicted
      obtain ⟨i, stage, s, inside, at_stage, also, same⟩ := old
      obtain rfl := h.record_unique ⟨i, stage, at_stage, also⟩ recorded same
      have named := (Activation.Stage.manager?_of_record? also).1
      have names := (Activation.Stage.manager?_of_record? record).1
      rcases h.alone at_stage at_other named names with rfl | ⟨shares, _⟩
      · exact out.1 inside
      · rw [also] at shares
        exact full (by rw [Option.some.inj shares])
  · exact h.not_starts recorded at_stage starts
  · obtain ⟨known, simple⟩ := h.simple shared
    obtain rfl := h.record_unique known recorded same
    exact full simple

private theorem Spared.shared_change {n : Manager} (manager : c.managers[r.manager]? = some n)
    (doomed : n.IsDoomed) : c.simple ≠ some r := fun shared =>
  change.not_doomed_of_simple h
    (fun shared manager doomed => spared.shared manager doomed shared rfl) shared manager doomed

omit h in
include filed in
private theorem Spared.evicted_change {stage : Errand.Stage} (found : c.errandStage? e = some stage)
    (mem : a ∈ stage.evicted) : c.IsOut a := by
  have filing := change.filing
  cases change.stride filed found with
  | stays same => exact (spared.evicted same mem).filing filing
  | empty _ _ evicted => exact (evicted a mem).2
  | fewer before _ evicted => exact (spared.evicted before (evicted mem)).filing filing
  | gather before => exact (spared.evicted before (List.mem_cons_of_mem _ mem)).filing filing
  | look => simp [Errand.Stage.evicted] at mem

theorem Spared.changed (filed : b.Filed)
    (careful : ∀ m, sight = some (.dropped m) → ¬ b.Serves m) : c.Spared where
  doomed manager doomed := spared.doomed_change h change careful manager doomed
  full found mem full := spared.full_change h filed change found mem full
  shared manager doomed shared same := by
    subst same
    exact spared.shared_change h change manager doomed shared
  evicted found mem := spared.evicted_change filed change found mem

end

theorem Spared.alike (spared : b.Spared) (alike : Alike b c) : c.Spared := by
  have files : c.files = b.files := alike.activations
  have serves {m : ManagerId} (serves : c.Serves m) : b.Serves m :=
    serves.of_alike files (alike.cache ▸ fun _ hx => hx)
  have managers {m : ManagerId} {y : Manager} (hy : c.managers[m]? = some y)
      (doomed : y.IsDoomed) : ∃ x, b.managers[m]? = some x ∧ x.IsDoomed := by
    obtain ⟨x, hx, aside⟩ := alike.before hy
    exact ⟨x, hx, doomed_of_aside aside.mild doomed⟩
  refine ⟨?doomed, ?full, ?shared, ?evicted⟩
  case doomed =>
    intro m n manager doomed found
    obtain ⟨x, hx, doomed⟩ := managers manager doomed
    exact spared.doomed hx doomed (serves found)
  case full =>
    intro e stage r found mem full also
    exact spared.full (alike.errandStage? e ▸ found) mem full (serves also)
  case shared =>
    intro m n r manager doomed shared
    obtain ⟨x, hx, doomed⟩ := managers manager doomed
    exact spared.shared hx doomed (alike.simple ▸ shared)
  case evicted =>
    intro e stage a found mem
    exact (spared.evicted (alike.errandStage? e ▸ found) mem).filing alike.filing

theorem Spared.course (spared : b.Spared) (h : b.Kept) (filed : b.Filed)
    (careful : ∀ m, sight = some (.dropped m) → ¬ b.Serves m) {host : Host}
    (course : Course sight host b d) : d.Spared := by
  have all : d.Spared ∧ d.Kept ∧ d.Filed := by
    refine course.split (P := fun c => c.Spared ∧ c.Kept ∧ c.Filed) ⟨spared, h, filed⟩ ?_ ?_ ?_
    · rintro c d ⟨spared, h, filed⟩ alike
      exact ⟨spared.alike alike, h.alike alike, filed.filing alike.filing⟩
    · rintro c d ⟨spared, h, filed⟩ change
      exact ⟨spared.changed h change filed (by simp), h.change change, filed.filing change.filing⟩
    · rintro s d ⟨spared, h, filed⟩ change
      exact ⟨spared.changed h change filed careful, h.change change, filed.filing change.filing⟩
  exact all.1

theorem spared_opening (host : Host) (plan : BackendName → Plan) (clock : Clock) :
    Spared (opening host plan clock) where
  doomed manager := by simp [opening] at manager
  full found := by simp [opening, errandStage?, errand?] at found
  shared manager := by simp [opening] at manager
  evicted found := by simp [opening, errandStage?, errand?] at found

theorem Spared.run (spared : b.Spared) (h : b.Kept) (filed : b.Filed) {moves : List Move}
    (careful : never robs b moves) : (b.run moves).Spared := by
  induction moves generalizing b with
  | nil => exact spared
  | cons next moves ih =>
    simp only [never, Bool.and_eq_true, Bool.not_eq_true'] at careful
    have course := h.moves next
    refine ih (spared.course h filed (fun m fate serves => ?_) course) (h.move next)
      (filed.filing course.filing) careful.2
    simp [robs, sightOf?_of_fate? fate (by simp), isFound_iff.mpr serves] at careful

/-- A cached activation that has succeeded has a live manager. -/
theorem Spared.live (spared : b.Spared) (h : b.Kept) {key : ScopeKey} {a : ActivationId}
    (cached : b.cache.lookup key = some a) (success : b.result? a = some (.ok r)) :
    b.isDisposed r.manager = false := by
  have at_stage := result?_eq_some.mp success
  have inside : r.manager < b.managers.length := h.recorded_within ⟨a, _, at_stage, rfl⟩
  have manager := List.getElem?_eq_getElem inside
  have serves : b.Serves r.manager :=
    ⟨a, _, r, ⟨key, mem_cache_of_lookup cached⟩, at_stage, rfl, rfl⟩
  by_contra disposed
  refine spared.doomed manager (.inl ?_) serves
  simpa [isDisposed, manager] using disposed

end LanguageBroker.Broker
