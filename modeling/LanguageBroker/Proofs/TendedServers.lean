import LanguageBroker.Proofs.BrokerPosts
import LanguageBroker.Proofs.SparedServer
import LanguageBroker.Proofs.WatchedSweeps

/-!
Runs in which no sweep is given up. What an activation has found is not lost sight of: the
activation is in the cache or a sweep waits for it, or what it has found is listed for disposal, or
is disposed of, or is in use by another activation of which one of these is true.
-/

namespace LanguageBroker

theorem Activation.Stage.record?_of_isSettled {stage : Activation.Stage} {m : ManagerId}
    (settled : stage.isSettled) (named : stage.manager? = some m) :
    ∃ r, stage.record? = some r ∧ r.manager = m := by
  refine record?_of_manager? named ?_ ?_ <;> cases stage <;>
    simp_all [isSettled, starts?, settles?]

namespace Manager

variable {m n : Manager} {s : Site} {lost : Prop}

theorem Turn.doomed (h : Turn False s m n) (lined : m.Lined) (clear : m.Clear)
    (doomed : m.IsDoomed) : n.IsDoomed := by
  cases h with
  | shift shift =>
    have same : n.disposed = m.disposed := shift.fixed.2.2.2.1
    rcases doomed with disposed | ⟨j, x, hx, task⟩
    · exact .inl (same.trans disposed)
    · by_cases done : x.isDone
      · refine .inl (same.trans (clear.closed hx task fun fresh => ?_))
        simp [Job.isDone, fresh] at done
      · exact .inr ⟨j, x, shift.kept lined hx done (by simp [task]), task⟩
  | @step y _ _ found _ step =>
    obtain ⟨stage, advance⟩ := step.advance
    have jobs := job?_of_jobs found advance.jobs
    rcases doomed with disposed | ⟨j, x, hx, task⟩
    · rcases step.disposed_cases with same | ⟨_, _, now⟩
      · exact .inl (same.trans disposed)
      · exact .inl now
    · by_cases here : j = y.id
      · subst here
        obtain rfl := Option.some.inj (found.symm.trans hx)
        exact .inr ⟨y.id, { y with stage }, by rw [jobs, if_pos rfl], task⟩
      · exact .inr ⟨j, x, by rw [jobs, if_neg here, hx], task⟩

/-- A disposal that was asked for and is over has set its mark. -/
theorem Clear.disposed (clear : m.Clear) (doomed : m.IsDoomed)
    (done : ∀ {j x}, m.job? j = some x → x.task = .dispose → x.isDone) : m.disposed := by
  rcases doomed with disposed | ⟨j, x, hx, task⟩
  · exact disposed
  · refine clear.closed hx task fun fresh => ?_
    simpa [Job.isDone, fresh] using done hx task

/-- When the disposal is done, nothing is left. -/
theorem Shut.barren (shut : m.Shut) (disposed : m.disposed)
    (done : ∀ {j x}, m.job? j = some x → x.task = .dispose → x.isDone) : m.Barren := by
  rcases shut disposed with barren | ⟨j, x, hx, task, queued⟩
  · exact barren
  · simpa [Job.isDone, queued] using done hx task

theorem doomed_ask (lined : m.Lined) : (m.ask .dispose).1.IsDoomed :=
  .inr ⟨m.nextJob, _, by rw [job?_ask lined.free, if_pos rfl], rfl⟩

end Manager

namespace Broker

/-- Does a sweep wait for the activation? -/
def Awaited (b : Broker) (a : ActivationId) : Prop :=
  ∃ e stage, b.errandStage? e = some stage ∧ a ∈ stage.evicted

/-- Is a sweep about to see to the manager? -/
def Lists (b : Broker) (m : ManagerId) : Prop :=
  ∃ e stage r, b.errandStage? e = some stage ∧ r ∈ stage.records ∧ r.manager = m

/-- Will a sweep hear how the activation has ended? -/
def Held (b : Broker) (a : ActivationId) : Prop := b.IsIn a ∨ b.Awaited a

/-- Is the manager doomed, or will a sweep come across it? -/
inductive Minded (b : Broker) (m : ManagerId) : Prop
  | listed (listed : b.Lists m)
  | doomed {n : Manager} (manager : b.managers[m]? = some n) (doomed : n.IsDoomed)
  | found {a : ActivationId} {stage : Activation.Stage} {r : Record} (held : b.Held a)
      (at_stage : b.stage? a = some stage) (record : stage.record? = some r)
      (same : r.manager = m)

/-- What an errand has at its stage is still cared for. -/
structure Cares (b c : Broker) (stage : Errand.Stage) : Prop where
  evicted : ∀ a ∈ stage.evicted, c.Awaited a ∨ ∃ result, b.stage? a = some (.settled result) ∧
    ∀ r, Activation.Stage.record? (.settled result) = some r → c.Lists r.manager
  records : ∀ r ∈ stage.records, c.Minded r.manager

variable {b c d : Broker} {a : ActivationId} {m : ManagerId} {e : ErrandId} {r : Record}
  {sight : Option Sight}

theorem minded_of_serves (serves : b.Serves m) : b.Minded m := by
  obtain ⟨a, stage, r, inside, at_stage, record, same⟩ := serves
  exact .found (.inl inside) at_stage record same

theorem serves_of_isInUse (used : b.isInUse m) : b.Serves m := by
  obtain ⟨⟨key, a⟩, entry, has⟩ := List.any_eq_true.mp used
  dsimp only at has
  split at has
  · next x found =>
    simp only [Bool.and_eq_true] at has
    obtain ⟨r, known, same⟩ := (Option.any_eq_true _ _).mp has.2
    obtain ⟨stage, at_stage, record⟩ := record?_of_activation found known
    exact ⟨a, stage, r, ⟨key, entry⟩, at_stage, record, by simpa using same⟩
  · simp at has

namespace Cares

theorem of_stays {stage : Errand.Stage} (stays : c.errandStage? e = some stage) :
    Cares b c stage where
  evicted _ mem := .inl ⟨e, stage, stays, mem⟩
  records r mem := .listed ⟨e, stage, r, stays, mem, rfl⟩

theorem of_empty {stage : Errand.Stage} (evicted : stage.evicted = [])
    (records : stage.records = []) : Cares b c stage :=
  ⟨by simp [evicted], by simp [records]⟩

theorem of_light {stage : Errand.Stage} (light : stage.isLaden = false) : Cares b c stage :=
  .of_empty (Errand.Stage.of_light light).2 (Errand.Stage.of_light light).1

end Cares

theorem minded_ask (h : b.Kept) {s : Broker} (managers : s.managers = b.managers)
    (recorded : b.IsRecorded r) (e : ErrandId) (left : List Record) (evicted : List ScopeKey) :
    (s.beginDisposal e r.manager left evicted).Minded r.manager := by
  have inside := h.recorded_within recorded
  have manager := List.getElem?_eq_getElem inside
  rw [beginDisposal_eq managers manager]
  refine .doomed (n := (b.managers[r.manager].ask .dispose).1) ?_
    (Manager.doomed_ask (h.lined manager))
  have here : (s.managers.set r.manager (b.managers[r.manager].ask .dispose).1)[r.manager]? =
      some (b.managers[r.manager].ask .dispose).1 := by
    rw [List.getElem?_set_self (managers ▸ inside)]
  exact here

theorem subset_gather (records : List Record) : records ⊆ b.gather a records := by
  unfold gather
  split
  · split
    · exact List.Subset.refl _
    · exact List.subset_append_left ..
  · exact List.Subset.refl _

/-- What an evicted activation has found is listed, under whatever record. -/
theorem gather_lists (at_stage : b.stage? a = some (.settled (.ok r))) (records : List Record) :
    ∃ s ∈ b.gather a records, s.manager = r.manager := by
  obtain ⟨x, hx, stage⟩ := activation_of_stage? at_stage
  have known : b.record? a = some r := by simp [Broker.record?, hx, Activation.record?, stage]
  simp only [gather, known]
  split
  · next listed =>
    obtain ⟨s, mem, same⟩ := List.any_eq_true.mp listed
    exact ⟨s, mem, by simpa using same⟩
  · exact ⟨r, by simp, rfl⟩

/-- What an errand has at its stage is cared for after a change. -/
theorem Change.cares (h : b.Kept) (change : Change sight b c) (calm : sight ≠ some .lost)
    {stage : Errand.Stage} (found : b.errandStage? e = some stage) : Cares b c stage := by
  have put {s : Broker} {i : ErrandId} {x : Errand} {new : Errand.Stage}
      (errands : s.errands = b.errands) (hx : b.errand? i = some x)
      (here : (s.putErrand i new).errandStage? i = some new → Cares b (s.putErrand i new) x.stage) :
      Cares b (s.putErrand i new) stage := by
    have was (k : ErrandId) : s.errandStage? k = b.errandStage? k := by
      simp only [errandStage?, errand?, errands]
    by_cases this : e = i
    · subst this
      obtain rfl := Option.some.inj ((errandStage?_of_errand hx).symm.trans found)
      exact here (by rw [errandStage?_putErrand, was, found]; simp)
    · refine .of_stays (e := e) ?_
      rw [errandStage?_putErrand, was, found]
      simp [this]
  have disposing {s : Broker} {i : ErrandId} {x : Errand} {r : Record} {left : List Record}
      {evicted : List ScopeKey} (managers : s.managers = b.managers)
      (errands : s.errands = b.errands) (hx : b.errand? i = some x)
      (records : x.stage.records = r :: left) (waited : x.stage.evicted = [])
      (same : c = s.beginDisposal i r.manager left evicted) : Cares b c stage := by
    have recorded : b.IsRecorded r :=
      recorded_of_errandStage? h (errandStage?_of_errand hx) (records ▸ List.mem_cons_self)
    have minded := minded_ask h managers recorded i left evicted
    have manager := List.getElem?_eq_getElem (h.recorded_within recorded)
    rw [← same] at minded
    rw [beginDisposal_eq managers manager] at same
    subst same
    refine put (s := s.setManager _ _) errands hx fun here => ⟨by simp [waited], fun k mem => ?_⟩
    rcases List.mem_cons.mp (records ▸ mem) with rfl | mem
    · exact minded
    · exact .listed ⟨i, _, k, here, mem, rfl⟩
  cases change with
  | @entrust task =>
    have posts : (b.entrust task).1.posts = b.posts ++ [(b.nextErrand, task, .fresh)] := by
      simp [posts, Broker.entrust]
    refine .of_stays (e := e) ?_
    rw [errandStage?_eq] at found ⊢
    obtain ⟨x, hx, same⟩ := Option.map_eq_some_iff.mp found
    rw [posts, List.find?_append, hx]
    exact congrArg some same
  | forget i free =>
    by_cases this : e = i
    · subst this
      obtain ⟨x, hx, rfl⟩ := Option.map_eq_some_iff.mp found
      refine .of_light ?_
      by_contra laden
      exact calm (free x hx (by simpa using laden))
    · refine .of_stays (e := e) ?_
      rw [errandStage?_forgetErrand, if_neg this, found]
  | @enter i x scope new hx before =>
    have errands : (b.entry scope).1.errands = b.errands := by
      rcases entry_cases b scope with same | ⟨_, same⟩ <;> rw [same]
    exact put errands hx fun _ => by rw [before]; exact .of_empty rfl rfl
  | tell hx before => exact put rfl hx fun _ => by rw [before]; exact .of_empty rfl rfl
  | @pass i x new hx passes kept =>
    refine put rfl hx fun here => ⟨by simp [passes.waited], fun r mem => ?_⟩
    rcases kept r mem with stays | used
    · exact .listed ⟨i, new, r, here, stays, rfl⟩
    · exact minded_of_serves ((serves_of_isInUse used).of_alike rfl fun _ hx => hx)
  | inquire hx before =>
    exact put (s := b.setManager _ _) rfl hx fun _ => by rw [before]; exact .of_empty rfl rfl
  | @answer i x k j new n y hx before _ _ _ passes kept =>
    exact put (s := b.forgetJob k j) rfl hx fun here => ⟨by simp [passes.waited],
      fun r mem => .listed ⟨i, new, r, here, kept mem, rfl⟩⟩
  | @gather i x a left records evicted hx before ended =>
    refine put rfl hx fun here => ?_
    rw [before]
    refine ⟨fun k mem => ?_, fun r mem => .listed ⟨i, _, r, here, subset_gather records mem, rfl⟩⟩
    rcases List.mem_cons.mp mem with rfl | mem
    · obtain ⟨result, known⟩ := Option.isSome_iff_exists.mp ended
      have at_stage := result?_eq_some.mp known
      refine .inr ⟨result, at_stage, fun r record => ?_⟩
      obtain rfl : result = .ok r := by
        cases result <;> simp_all [Activation.Stage.record?]
      obtain ⟨s, mem, same⟩ := gather_lists at_stage records
      exact ⟨i, _, s, here, mem, same⟩
    · exact .inl ⟨i, _, here, mem⟩
  | @evict i stale before there =>
    obtain ⟨x, hx⟩ : ∃ x, b.errand? i = some x := by
      by_contra none
      exact calm (there (Option.eq_none_iff_forall_ne_some.mpr fun x hx => none ⟨x, hx⟩))
    exact put (s := b.evict _) rfl hx fun _ => .of_light (Errand.Stage.of_isSeeking (before x hx)).2
  | @look i x r left evicted hx before =>
    refine put (s := b.joinLine _) rfl hx fun here => ?_
    rw [before]
    exact ⟨by simp [Errand.Stage.evicted], fun r mem => .listed ⟨i, _, r, here, mem, rfl⟩⟩
  | @release i x r left evicted hx before =>
    exact disposing (s := b) rfl rfl hx (by rw [before]; rfl) (by rw [before]; rfl) rfl
  | @discard i x r left evicted hx before =>
    exact disposing (s := b.dropSimple i r) rfl rfl hx (by rw [before]; rfl) (by rw [before]; rfl)
      rfl
  | _ => exact .of_stays found

/-- An activation leaves the cache for the sweep that has evicted it. -/
theorem Change.held_of_isIn (filed : b.Filed) (change : Change sight b c)
    (calm : sight ≠ some .lost) (inside : b.IsIn a) : c.Held a := by
  obtain ⟨key, entry⟩ := inside
  cases change with
  | @evict e stale before there =>
    obtain ⟨x, hx⟩ : ∃ x, b.errand? e = some x := by
      by_contra none
      exact calm (there (Option.eq_none_iff_forall_ne_some.mpr fun x hx => none ⟨x, hx⟩))
    by_cases out : key ∈ stale.filter b.isCached
    · refine .inr ⟨e, .gathering ((stale.filter b.isCached).filterMap fun key =>
        b.cache.lookup key) [] (stale.filter b.isCached), ?_,
        List.mem_filterMap.mpr ⟨key, out, filed.lookup entry⟩⟩
      have at_stage : (b.evict (stale.filter b.isCached)).errandStage? e = some x.stage :=
        errandStage?_of_errand hx
      rw [beginEviction, errandStage?_putErrand, at_stage]
      simp
    · exact .inl ⟨key, List.mem_filter.mpr ⟨entry, by rw [List.contains_eq_mem]; simp [out]⟩⟩
  | @enter e x scope =>
    rcases entry_cases b scope with same | ⟨_, same⟩
    · exact .inl ⟨key, by rw [same]; exact entry⟩
    · exact .inl ⟨key, by rw [same]; exact List.mem_append_left _ entry⟩
  | forget e => exact .inl ⟨key, (files_forgetErrand b e).2 ▸ entry⟩
  | @release e x r left evicted =>
    exact .inl ⟨key, (files_beginDisposal b e r.manager left evicted).2 ▸ entry⟩
  | @discard e x r left evicted =>
    exact .inl ⟨key, (files_beginDisposal (b.dropSimple e r) e r.manager left evicted).2 ▸ entry⟩
  | _ => exact .inl ⟨key, entry⟩

/-- An activation that a sweep waits for is waited for until its end, and then what it has found
is listed. -/
theorem Change.held (h : b.Kept) (filed : b.Filed) (change : Change sight b c)
    (calm : sight ≠ some .lost) (held : b.Held a) :
    c.Held a ∨ ∃ result, b.stage? a = some (.settled result) ∧
      ∀ r, Activation.Stage.record? (.settled result) = some r → c.Lists r.manager := by
  rcases held with inside | ⟨e, stage, found, mem⟩
  · exact .inl (change.held_of_isIn filed calm inside)
  · exact ((change.cares h calm found).evicted a mem).imp_left .inr

theorem Change.minded (h : b.Sound) (change : Change sight b c) (calm : sight ≠ some .lost)
    (minded : b.Minded m) : c.Minded m := by
  cases minded with
  | listed listed =>
    obtain ⟨e, stage, r, found, mem, rfl⟩ := listed
    exact (change.cares h.kept calm found).records r mem
  | doomed manager doomed =>
    obtain ⟨n, hn, turn⟩ := (h.staffed.staffing h.kept change).later manager
    exact .doomed hn ((turn.mono calm).doomed (h.kept.lined manager) (h.staffed.clear manager)
      doomed)
  | @found a stage r held at_stage record same =>
    obtain ⟨later, at_later, also⟩ := change.filing.record at_stage record
    rcases change.held h.kept h.filed calm held with held | ⟨result, settled, listed⟩
    · exact .found held at_later also same
    · obtain rfl := Option.some.inj (at_stage.symm.trans settled)
      exact .listed (same ▸ listed r record)

theorem Filing.before (filing : Filing b c) {stage : Activation.Stage}
    (at_stage : c.stage? a = some stage) : (∃ old, b.stage? a = some old) ∨ c.IsIn a := by
  cases filing with
  | rest files => exact .inl ⟨stage, by simpa only [stage?, files] using at_stage⟩
  | turn _ _ _ _ _ files =>
    have inside := lt_of_stage? at_stage
    rw [files, List.length_modify] at inside
    exact .inl ⟨_, by rw [stage?, List.getElem?_eq_getElem inside]; rfl⟩
  | begin scope _ files cache =>
    rw [stage?_begin files] at at_stage
    split at at_stage
    · next here => exact .inr ⟨scope.key, by rw [cache, here]; simp⟩
    · exact .inl ⟨stage, at_stage⟩
  | evict stale files => exact .inl ⟨stage, by simpa only [stage?, files] using at_stage⟩

/-- Nothing that activations have found is lost sight of. -/
structure Tended (b : Broker) : Prop extends b.Ordered where
  watchful : b.Watchful
  minded : ∀ {a : ActivationId} {stage : Activation.Stage}, b.stage? a = some stage →
    b.Held a ∨ stage.isSettled ∧ ∀ r, stage.record? = some r → b.Minded r.manager
  shut : ∀ {m : ManagerId} {n : Manager}, b.managers[m]? = some n → n.Shut

namespace Tended

theorem change (h : b.Tended) (change : Change sight b c) (calm : sight ≠ some .lost) :
    c.Tended where
  toSound := h.toSound.change change
  posted := h.posted.change h.toSound change
  watchful := h.watchful.change change
  minded {a stage} at_stage := by
    have filing := change.filing
    rcases filing.before at_stage with ⟨old, was⟩ | inside
    · rcases h.minded was with held | ⟨settled, minded⟩
      · refine (change.held h.kept h.filed calm held).imp_right ?_
        rintro ⟨result, settled, listed⟩
        obtain rfl := Option.some.inj ((filing.settled settled).symm.trans at_stage)
        exact ⟨rfl, fun r record => .listed (listed r record)⟩
      · cases old with
        | settled result =>
          obtain rfl := Option.some.inj ((filing.settled was).symm.trans at_stage)
          exact .inr ⟨rfl, fun r record => change.minded h.toSound calm (minded r record)⟩
        | _ => simp [Activation.Stage.isSettled] at settled
    · exact .inl (.inl inside)
  shut {m n} hn := by
    rcases (h.staffed.staffing h.kept change).before hn with ⟨x, hx, turn⟩ |
      ⟨_, ⟨variant, scope, rfl⟩, _⟩
    · exact (turn.mono calm).shut (h.kept.lined hx) (h.staffed.clear hx) (h.shut hx)
    · exact Manager.shut_starting variant scope

theorem alike (h : b.Tended) (alike : Alike b c) : c.Tended where
  toSound := h.toSound.alike alike
  posted := h.posted.alike h.toSound alike
  watchful := h.watchful.alike alike
  minded {a stage} at_stage := by
    have stages := stage?_congr (b := b) alike.activations
    have held {a : ActivationId} (held : b.Held a) : c.Held a := by
      rcases held with ⟨key, entry⟩ | ⟨e, stage, found, mem⟩
      · exact .inl ⟨key, alike.cache ▸ entry⟩
      · exact .inr ⟨e, stage, (alike.errandStage? e).trans found, mem⟩
    have minded {m : ManagerId} (minded : b.Minded m) : c.Minded m := by
      cases minded with
      | listed listed =>
        obtain ⟨e, stage, r, found, rest⟩ := listed
        exact .listed ⟨e, stage, r, (alike.errandStage? e).trans found, rest⟩
      | @doomed n manager doomed =>
        obtain ⟨x, hx, aside⟩ := alike.later manager
        have turn : n.Turn False b.site x := .shift (.aside aside)
        exact .doomed hx (turn.doomed (h.kept.lined manager) (h.staffed.clear manager) doomed)
      | found inside at_stage record same =>
        exact .found (held inside) ((stages _).trans at_stage) record same
    rcases h.minded ((stages a).symm.trans at_stage) with inside | ⟨settled, all⟩
    · exact .inl (held inside)
    · exact .inr ⟨settled, fun r record => minded (all r record)⟩
  shut {m n} hn := by
    obtain ⟨x, hx, aside⟩ := alike.before hn
    have shift : x.Shift False n := .aside aside
    exact shift.shut (h.kept.lined hx) (h.shut hx)

end Tended

theorem Watchful.run (h : b.Watchful) (kept : b.Kept) (moves : List Move) :
    (b.run moves).Watchful := by
  have all : (b.run moves).Watchful ∧ (b.run moves).Kept :=
    run_induction (P := fun c => c.Watchful ∧ c.Kept)
      (fun _ next ⟨h, kept⟩ => ⟨(kept.moves next).heed h h (fun h same => h.alike same)
        fun h change => h.change change, kept.move next⟩) ⟨h, kept⟩ moves
  exact all.1

theorem tended_opening (host : Host) (plan : BackendName → Plan) (clock : Clock) :
    Tended (opening host plan clock) where
  toOrdered := ordered_opening host plan clock
  watchful := watchful_opening host plan clock
  minded at_stage := by simp [opening, stage?, files] at at_stage
  shut hn := by simp [opening] at hn

theorem fate?_ne_lost {next : Move} (careful : b.givesUp next = false) :
    b.fate? next ≠ some .lost := by
  have other (e : ErrandId) : b.sight? e ≠ some .lost := by
    unfold sight?
    split
    · split <;> simp
    · split <;> simp
    · simp
  simp only [fate?, careful, Bool.false_eq_true, if_false, sightOf?]
  cases b.turn? next with
  | none => simp
  | some e => exact other e

theorem Tended.move (h : b.Tended) {next : Move} (careful : b.givesUp next = false) :
    (b.move next).Tended :=
  (h.kept.moves next).heed h.watchful h (fun h same => h.alike same)
    fun h change => h.change change (fate?_ne_lost careful)

theorem Tended.run (h : b.Tended) {moves : List Move} (careful : never givesUp b moves) :
    (b.run moves).Tended := by
  induction moves generalizing b with
  | nil => exact h
  | cons next moves ih =>
    simp only [never, Bool.and_eq_true, Bool.not_eq_true'] at careful
    exact ih (h.move careful.1) careful.2

end Broker

end LanguageBroker
