import LanguageBroker.Proofs.BrokerJobs

/-!
Whose the servers of a broker are. Every server whose disposal was not called belongs to one
manager, which has no other, and bears the manager's variant and the key of its scope.
-/

namespace LanguageBroker.Broker

/-- Every server that was not disposed of is some manager's, and no other's. -/
structure Stocked (b : Broker) : Prop where
  named : b.site.Named
  once : ∀ c, b.site.disposals c ≤ 1
  has : ∀ {m : ManagerId} {n : Manager} {c : BackendId}, b.managers[m]? = some n → n.Has c →
    b.site.disposals c = 0 ∧ ∃ y scope, b.site.backend? c = some y ∧
      y.name.variant = n.variant ∧ n.scope = some scope ∧ y.name.key = scope.key
  up : ∀ {m : ManagerId} {n : Manager} {c : BackendId}, b.managers[m]? = some n →
    n.slot = some c → b.site.hasStarted c
  apart : ∀ {m i : ManagerId} {n k : Manager} {c : BackendId}, b.managers[m]? = some n →
    b.managers[i]? = some k → n.Has c → k.Has c → m = i
  kept : ∀ {c}, c < b.site.backends.length → b.site.disposals c = 0 →
    ∃ (m : ManagerId) (n : Manager), b.managers[m]? = some n ∧ n.Has c

/-- The managers are in order and each has one server at most. -/
structure Sound (b : Broker) : Prop where
  kept : b.Kept
  filed : b.Filed
  staffed : b.Staffed
  stocked : b.Stocked

variable {b c d : Broker} {m : ManagerId} {lost : Prop} {sight : Option Sight}

namespace Stocked

theorem lt_of_has (h : b.Stocked) {n : Manager} {c : BackendId} (manager : b.managers[m]? = some n)
    (has : n.Has c) : c < b.site.backends.length := by
  obtain ⟨_, y, _, found, _⟩ := h.has manager has
  exact Site.lt_of_backend? found

/-- The managers are the same for all that servers are concerned. -/
private theorem shift (h : b.Stocked) (lined : b.IsLined)
    (length : c.managers.length = b.managers.length) (site : b.site.Calm c.site)
    (managers : ∀ {m : ManagerId} {x n : Manager}, b.managers[m]? = some x →
      c.managers[m]? = some n → x.Shift lost n) : c.Stocked := by
  have old {m : ManagerId} {n : Manager} (hn : c.managers[m]? = some n) :
      ∃ x, b.managers[m]? = some x ∧ x.Shift lost n ∧ ∀ s, n.Has s ↔ x.Has s := by
    have inside : m < b.managers.length := length ▸ (List.getElem?_eq_some_iff.mp hn).1
    have here := List.getElem?_eq_getElem inside
    have shift := managers here hn
    exact ⟨_, here, shift, shift.has (lined here)⟩
  have grows := Site.Grows.of_calm site
  refine ⟨site.named h.named, fun s => ?_, fun {m n s} hn has => ?_, fun {m n s} hn inside => ?_,
    fun {m i n k s} hn hk one two => ?_, fun {s} made live => ?_⟩
  · rw [site.disposals]
    exact h.once s
  · obtain ⟨x, hx, shift, same⟩ := old hn
    obtain ⟨live, y, scope, found, variant, bound, key⟩ := h.has hx ((same s).mp has)
    obtain ⟨z, hz, name⟩ := grows.name found
    refine ⟨(site.disposals s).trans live, z, scope, hz, ?_, shift.fixed.2.1.trans bound, ?_⟩
    · rw [name, variant, shift.fixed.1]
    · rw [name, key]
  · obtain ⟨x, hx, shift, _⟩ := old hn
    exact grows.started h.named (h.up hx (shift.fixed.2.2.1 ▸ inside))
  · obtain ⟨x, hx, _, same⟩ := old hn
    obtain ⟨y, hy, _, also⟩ := old hk
    exact h.apart hx hy ((same s).mp one) ((also s).mp two)
  · rw [site.length] at made
    rw [site.disposals] at live
    obtain ⟨m, x, hx, has⟩ := h.kept made live
    have inside := length.symm ▸ (List.getElem?_eq_some_iff.mp hx).1
    have here := List.getElem?_eq_getElem inside
    exact ⟨m, _, here, ((managers hx here).has (lined hx) s).mpr has⟩

/-- One job takes a step. -/
private theorem step (h : b.Stocked) {x n : Manager} {y : Job} {t : Site}
    (manager : b.managers[m]? = some x) (lined : x.Lined) (clear : x.Clear)
    (found : x.job? y.id = some y) (step : x.JobStep b.site y n t)
    (managers : c.managers = b.managers.set m n) (site : c.site = t) : c.Stocked := by
  have inside := (List.getElem?_eq_some_iff.mp manager).1
  have cases {i : ManagerId} {k : Manager} (hk : c.managers[i]? = some k) :
      i = m ∧ k = n ∨ i ≠ m ∧ b.managers[i]? = some k := by
    rw [managers, List.getElem?_set, if_pos inside] at hk
    split at hk
    · next here => exact .inl ⟨here.symm, (Option.some.inj hk).symm⟩
    · next other => exact .inr ⟨Ne.symm other, hk⟩
  have own : c.managers[m]? = some n := by rw [managers, List.getElem?_set_self inside]
  have others {i : ManagerId} {k : Manager} (other : i ≠ m) (hk : b.managers[i]? = some k) :
      c.managers[i]? = some k := by
    rw [managers, List.getElem?_set_ne (Ne.symm other), hk]
  have grows := step.grows
  have keeping := clear.keeping lined h.named found (fun has => h.lt_of_has manager has) step
  -- a manager with a server is bound to its scope for good
  have scope {s : BackendId} (has : x.Has s) : n.scope = x.scope := by
    rcases step.scope with same | ⟨_, _, task, fresh⟩
    · exact same
    · have early : y.isEarly := by simp [Job.isEarly, Job.isStart, fresh, task]
      obtain ⟨_, empty, only⟩ := clear.early found early
      rcases has with inside | ⟨i, z, hz, coming⟩
      · simp [empty] at inside
      · obtain rfl := only hz
        obtain rfl := Option.some.inj (found.symm.trans hz)
        simp [fresh, Job.Stage.coming?] at coming
  have old {i : ManagerId} {k : Manager} {s : BackendId} (hk : b.managers[i]? = some k)
      (has : k.Has s) : ∃ z scope, t.backend? s = some z ∧ z.name.variant = k.variant ∧
        k.scope = some scope ∧ z.name.key = scope.key := by
    obtain ⟨_, z, scope, here, variant, bound, key⟩ := h.has hk has
    obtain ⟨w, hw, name⟩ := grows.name here
    exact ⟨w, scope, hw, by rw [name, variant], bound, by rw [name, key]⟩
  subst site
  refine ⟨grows.named h.named, fun s => ?once, fun {i k s} hk has => ?has,
    fun {i k s} hk up => ?up, fun {i j k l s} hk hl one two => ?apart,
    fun {s} made live => ?kept⟩
  case once =>
    cases keeping with
    | still _ disposals | made _ _ _ disposals =>
      rw [disposals]
      exact h.once s
    | shut had _ disposals =>
      rw [disposals]
      split
      · next here => simp [here, (h.has manager had).1]
      · exact h.once s
  case has =>
    rcases cases hk with ⟨rfl, rfl⟩ | ⟨other, hk⟩
    · cases keeping with
      | still _ disposals same =>
        have before := (same s).mp has
        obtain ⟨z, aim, here, variant, bound, key⟩ := old manager before
        exact ⟨(disposals s).trans (h.has manager before).1, z, aim, here,
          variant.trans step.variant.symm, (scope before).trans bound, key⟩
      | @made new z aim stage last _ disposals here variant key _ only =>
        obtain rfl := (only s).mp has
        refine ⟨?_, z, aim, here, variant.trans step.variant.symm, ?_, key⟩
        · rw [disposals]
          exact Site.tally_of_ge (Nat.le_of_eq last.symm) _
        · have bound : x.scope = some aim := clear.aimed found (by simp [Job.aim?, stage])
          rcases step.scope with same | ⟨_, _, _, fresh⟩
          · exact same.trans bound
          · simp [stage] at fresh
      | shut _ _ _ after => exact absurd has (after s)
    · refine ⟨?_, old hk has⟩
      have live := (h.has hk has).1
      cases keeping with
      | still _ disposals | made _ _ _ disposals => exact (disposals s).trans live
      | shut had _ disposals =>
        rw [disposals, live, if_neg]
        rintro rfl
        exact other (h.apart hk manager has had)
  case up =>
    rcases cases hk with ⟨rfl, rfl⟩ | ⟨_, hk⟩
    · rcases step.started h.named found (fun has => h.lt_of_has manager has) up with
        before | started
      · exact grows.started h.named (h.up manager before)
      · exact started
    · exact grows.started h.named (h.up hk up)
  case apart =>
    -- the server of the one that took the step was its own before, or is new
    have foreign {i : ManagerId} {k : Manager} (other : i ≠ m) (hk : b.managers[i]? = some k)
        (one : n.Has s) (two : k.Has s) : False := by
      cases keeping with
      | still _ _ same => exact other (h.apart hk manager two ((same s).mp one))
      | made _ last _ _ _ _ _ _ only =>
        have old := h.lt_of_has hk two
        rw [(only s).mp one, last] at old
        exact Nat.lt_irrefl _ old
      | shut _ _ _ after => exact after s one
    rcases cases hk with ⟨rfl, rfl⟩ | ⟨other, hk⟩ <;> rcases cases hl with ⟨rfl, rfl⟩ | ⟨also, hl⟩
    · rfl
    · exact absurd two (foreign also hl one)
    · exact absurd one (foreign other hk two)
    · exact h.apart hk hl one two
  case kept =>
    have stays (made : s < b.site.backends.length) (live : b.site.disposals s = 0)
        (mine : x.Has s → n.Has s) :
        ∃ (i : ManagerId) (k : Manager), c.managers[i]? = some k ∧ k.Has s := by
      obtain ⟨i, k, hk, has⟩ := h.kept made live
      by_cases here : i = m
      · subst here
        obtain rfl := Option.some.inj (manager.symm.trans hk)
        exact ⟨i, n, own, mine has⟩
      · exact ⟨i, k, others here hk, has⟩
    cases keeping with
    | still length disposals same =>
      exact stays (length ▸ made) ((disposals s).symm.trans live) (same s).mpr
    | made _ last length disposals _ _ _ before only =>
      by_cases new : s < b.site.backends.length
      · exact stays new ((disposals s).symm.trans live) fun has => absurd has (before s)
      · rw [length] at made
        have here := Nat.le_antisymm (Nat.le_of_lt_succ made) (Nat.le_of_not_lt new)
        exact ⟨m, n, own, (only s).mpr (here.trans last.symm)⟩
    | @shut gone had length disposals =>
      rw [disposals] at live
      have other : s ≠ gone := fun here => by simp [here] at live
      rw [if_neg other] at live
      exact stays (length ▸ made) live fun has => absurd (clear.has_unique lined has had) other

theorem staffing (h : b.Stocked) (lined : b.IsLined) (staffed : b.Staffed)
    (staffing : Staffing lost b c) : c.Stocked := by
  cases staffing with
  | shift length site managers => exact h.shift lined length site managers
  | step manager found ready step managers site =>
    exact h.step manager (lined manager) (staffed.clear manager) found step managers site
  | add variant scope managers site =>
    have cases {i : ManagerId} {k : Manager} {s : BackendId} (hk : c.managers[i]? = some k)
        (has : k.Has s) : b.managers[i]? = some k := by
      rw [managers, List.getElem?_append] at hk
      split at hk
      · exact hk
      · obtain rfl := List.mem_singleton.mp (List.mem_of_getElem? hk)
        exact absurd has (Manager.has_starting variant scope s)
    refine ⟨site ▸ h.named, site ▸ h.once, fun hk has => ?_, fun hk inside => ?_,
      fun hk hl one two => ?_, fun {s} made live => ?_⟩
    · rw [site]
      exact h.has (cases hk has) has
    · rw [site]
      exact h.up (cases hk (.inl inside)) inside
    · exact h.apart (cases hk one) (cases hl two) one two
    · rw [site] at made live
      obtain ⟨i, k, hk, has⟩ := h.kept made live
      refine ⟨i, k, ?_, has⟩
      rw [managers, List.getElem?_append_left (List.getElem?_eq_some_iff.mp hk).1, hk]

end Stocked

/-! Whole moves. -/

namespace Sound

theorem change (h : b.Sound) (change : Change sight b c) : c.Sound where
  kept := h.kept.change change
  filed := h.filed.filing change.filing
  staffed := h.staffed.change h.kept change
  stocked := h.stocked.staffing h.kept.lined h.staffed (h.staffed.staffing h.kept change)

theorem alike (h : b.Sound) (alike : Alike b c) : c.Sound :=
  have staffing : Staffing False b c := alike.staffing
  { kept := h.kept.alike alike
    filed := h.filed.filing alike.filing
    staffed := h.staffed.alike h.kept alike
    stocked := h.stocked.staffing h.kept.lined h.staffed staffing }

theorem move (h : b.Sound) (next : Move) : (b.move next).Sound :=
  (h.kept.moves next).keeps h (fun h same => h.alike same) fun h change => h.change change

theorem run (h : b.Sound) (moves : List Move) : (b.run moves).Sound :=
  run_induction (fun _ next h => h.move next) h moves

end Sound

theorem sound_opening (host : Host) (plan : BackendName → Plan) (clock : Clock) :
    Sound (opening host plan clock) where
  kept := kept_opening host plan clock
  filed := filed_opening host plan clock
  staffed := staffed_opening host plan clock
  stocked :=
    { named := ⟨by simp [opening, Site.backend?], by simp [opening, Site.backend?],
        by simp [opening]⟩
      once := fun c => by
        rw [Site.disposals, Site.tally_of_ge (by simp [opening])]
        exact Nat.zero_le _
      has := fun hn => by simp [opening] at hn
      up := fun hn => by simp [opening] at hn
      apart := fun hn => by simp [opening] at hn
      kept := fun made => by simp [opening] at made }

end LanguageBroker.Broker
