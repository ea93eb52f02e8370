import LanguageBroker.Proofs.RespectedJobs

/-!
Every job that an errand waits for has one errand alone that waits for it, whatever happens to the
broker from inside or outside. So what an errand that is no sweep waits for is its own.
-/

namespace LanguageBroker

namespace Activation.Stage

variable {stage : Activation.Stage} {job : ManagerId × JobId}

/-- An activation waits for a first start, or for the disposal after one. -/
theorem starts_or_settles (waits : stage.job? = some job) :
    stage.starts? = some job ∨ stage.settles? = some job := by
  cases stage <;> simp_all [job?, starts?, settles?]

end Activation.Stage

namespace Broker

variable {b c d : Broker} {e i : ErrandId} {m : ManagerId} {j : JobId} {a : ActivationId}
  {sight : Option Sight}

/-- No two errands wait for one job. -/
def Lone (b : Broker) : Prop := ∀ {e i m j}, b.WaitsFor e m j → b.WaitsFor i m j → i = e

/-- The managers, their jobs and those who wait for these are in order. -/
structure Diligent (b : Broker) : Prop where
  kept : b.Kept
  staffed : b.Staffed
  watchful : b.Watchful
  lone : b.Lone

/-- The errand is there, and it is no sweep. -/
def Carries (b : Broker) (e : ErrandId) : Prop :=
  ∃ task stage, b.post? e = some (task, stage) ∧ ∀ kind, task ≠ .sweep kind

/-- What changes lead to, one after the other. -/
inductive Leads (b : Broker) : Broker → Prop
  | rest : Leads b b
  | alike {c d : Broker} (before : Leads b c) (alike : Alike c d) : Leads b d
  | change {c d : Broker} {sight : Option Sight} (before : Leads b c) (change : Change sight c d) :
      Leads b d

theorem errandStage?_of_waitsFor (waits : b.WaitsFor e m j) :
    ∃ stage, b.errandStage? e = some stage ∧ stage.job? = some (m, j) := by
  obtain ⟨task, stage, found, job⟩ := waits
  exact ⟨stage, errandStage?_of_post found, job⟩

/-! One change. -/

/-- An errand that waits for a job did so before, or it is the one that has just asked for it. -/
def NewlyAsked (b c : Broker) (t : ErrandId) : Prop :=
  ∀ e m j, c.WaitsFor e m j →
    b.WaitsFor e m j ∨ e = t ∧ ∀ n, b.managers[m]? = some n → j = n.nextJob

private theorem newlyAsked_same (errands : c.errands = b.errands) (t : ErrandId) :
    NewlyAsked b c t :=
  fun _ _ _ waits => .inl (waits.congr (post?_congr errands _).symm)

private theorem newlyAsked_put {s : Broker} {t : ErrandId} {stage : Errand.Stage}
    (errands : s.errands = b.errands) (asks : ∀ {m j}, stage.job? = some (m, j) →
      ∀ n, b.managers[m]? = some n → j = n.nextJob) : NewlyAsked b (s.putErrand t stage) t := by
  rintro e m j ⟨task, new, found, job⟩
  rw [post?_putErrand, post?_congr errands] at found
  obtain ⟨⟨_, old⟩, was, same⟩ := Option.map_eq_some_iff.mp found
  split at same
  · next here =>
    obtain ⟨-, rfl⟩ := Prod.mk.inj same
    exact .inr ⟨here, asks job⟩
  · obtain ⟨rfl, rfl⟩ := Prod.mk.inj same
    exact .inl ⟨_, _, was, job⟩

private theorem newlyAsked_idle {s : Broker} {t : ErrandId} {stage : Errand.Stage}
    (errands : s.errands = b.errands) (idle : stage.job? = none) :
    NewlyAsked b (s.putErrand t stage) t :=
  newlyAsked_put errands fun job => by simp [idle] at job

private theorem newlyAsked_beginDisposal {s : Broker} {t : ErrandId}
    (errands : s.errands = b.errands) (managers : s.managers = b.managers) (left : List Record)
    (evicted : List ScopeKey) : NewlyAsked b (s.beginDisposal t m left evicted) t := by
  unfold beginDisposal
  rcases ask_cases s m .dispose with ⟨n, found, same⟩ | ⟨none, same⟩
  · rw [same]
    refine newlyAsked_put (s := s.setManager _ _) errands fun job x hx => ?_
    obtain ⟨rfl, rfl⟩ := Prod.mk.inj (Option.some.inj job)
    rw [managers] at found
    obtain rfl := Option.some.inj (found.symm.trans hx)
    rfl
  · rw [same]
    refine newlyAsked_put errands fun job x hx => ?_
    obtain ⟨rfl, rfl⟩ := Prod.mk.inj (Option.some.inj job)
    rw [managers, hx] at none
    simp at none

theorem Change.newlyAsked (change : Change sight b c) : ∃ t, NewlyAsked b c t := by
  cases change with
  | @entrust task =>
    refine ⟨b.nextErrand, fun e m j waits => ?_⟩
    obtain ⟨new, stage, found, job⟩ := waits
    cases old : b.post? e with
    | some pair =>
      obtain ⟨before, at_stage⟩ := pair
      have same := (respects_entrust old task).post
      exact .inl ⟨new, stage, same.symm.trans found, job⟩
    | none =>
      rcases errandStage?_of_entrust (errandStage?_of_post found) with before | ⟨-, -, rfl⟩
      · obtain ⟨x, hx, _⟩ := Option.map_eq_some_iff.mp before
        simp [post?, hx] at old
      · simp [Errand.Stage.job?] at job
  | forget i =>
    refine ⟨i, fun e m j waits => .inl ?_⟩
    obtain ⟨task, stage, found, job⟩ := waits
    rw [post?_forgetErrand] at found
    split at found
    · simp at found
    · exact ⟨task, stage, found, job⟩
  | @enter i x scope new hx before after =>
    have errands := errands_entry b scope
    refine ⟨i, newlyAsked_idle errands ?_⟩
    rcases after with rfl | rfl <;> rfl
  | @tell i => exact ⟨i, newlyAsked_idle rfl rfl⟩
  | @pass i _ _ _ passes => exact ⟨i, newlyAsked_idle rfl passes.jobs⟩
  | @inquire i x r n hx before task manager =>
    refine ⟨i, newlyAsked_put (s := b.setManager _ _) rfl fun job y hy => ?_⟩
    obtain ⟨rfl, rfl⟩ := Prod.mk.inj (Option.some.inj job)
    obtain rfl := Option.some.inj (manager.symm.trans hy)
    rfl
  | @answer i x m j _ _ _ _ _ _ _ _ passes =>
    exact ⟨i, newlyAsked_idle (s := b.forgetJob _ _) rfl passes.jobs⟩
  | @gather i => exact ⟨i, newlyAsked_idle rfl rfl⟩
  | @evict i => exact ⟨i, newlyAsked_idle (s := b.evict _) rfl rfl⟩
  | @look i => exact ⟨i, newlyAsked_idle (s := b.joinLine _) rfl rfl⟩
  | @release i => exact ⟨i, newlyAsked_beginDisposal rfl rfl _ _⟩
  | @discard i x r =>
    exact ⟨i, newlyAsked_beginDisposal (s := b.dropSimple i r) rfl rfl _ _⟩
  | _ => exact ⟨b.nextErrand, newlyAsked_same (by rfl) _⟩

namespace Diligent

/-- A job that an errand waits for was numbered before. -/
theorem old (h : b.Diligent) (waits : b.WaitsFor e m j) :
    ∃ n, b.managers[m]? = some n ∧ j ≠ Manager.restartJob ∧ j < n.nextJob := by
  obtain ⟨task, stage, found, job⟩ := waits
  obtain ⟨x, hx, same⟩ := Option.map_eq_some_iff.mp found
  obtain ⟨rfl, rfl⟩ := Prod.mk.inj same
  obtain ⟨r, recorded, rfl⟩ := (h.kept.knows hx).jobs job
  have manager := List.getElem?_eq_getElem (h.kept.recorded_within recorded)
  have at_stage := errandStage?_of_errand hx
  rcases Errand.Stage.asks?_of_job? job with asks | ⟨asks, -⟩
  · have tasked := h.staffed.tasked at_stage asks manager
    exact ⟨_, manager, tasked.other, tasked.old⟩
  · have tasked := h.staffed.tasked at_stage asks manager
    exact ⟨_, manager, tasked.other, tasked.old⟩

theorem change (h : b.Diligent) (change : Change sight b c) : c.Diligent where
  kept := h.kept.change change
  staffed := h.staffed.change h.kept change
  watchful := h.watchful.change change
  lone {e i m j} one two := by
    obtain ⟨t, asked⟩ := change.newlyAsked
    -- a job that has just been asked for is none of the old ones
    have new {k l : ErrandId} (before : b.WaitsFor k m j)
        (fresh : ∀ n, b.managers[m]? = some n → j = n.nextJob) : l = k := by
      obtain ⟨n, hn, -, old⟩ := h.old before
      exact absurd old (fresh n hn ▸ Nat.lt_irrefl _)
    rcases asked _ _ _ one with before | ⟨rfl, fresh⟩
    · rcases asked _ _ _ two with also | ⟨rfl, fresh⟩
      · exact h.lone before also
      · exact new before fresh
    · rcases asked _ _ _ two with also | ⟨rfl, -⟩
      · exact (new also fresh).symm
      · rfl

theorem alike (h : b.Diligent) (alike : Alike b c) : c.Diligent where
  kept := h.kept.alike alike
  staffed := h.staffed.alike h.kept alike
  watchful := h.watchful.alike alike
  lone := by
    have before {e m j} (waits : c.WaitsFor e m j) : b.WaitsFor e m j := by
      obtain ⟨stage, found, job⟩ := errandStage?_of_waitsFor waits
      rw [alike.errandStage?] at found
      obtain ⟨x, hx, rfl⟩ := Option.map_eq_some_iff.mp found
      exact ⟨x.task, x.stage, post?_of_errand hx, job⟩
    intro e i m j one two
    exact h.lone (before one) (before two)

/-- An errand that is no sweep has its job for itself. -/
theorem owns (h : b.Diligent) (carries : b.Carries e) : b.OwnsJob e where
  free := by
    obtain ⟨task, stage, found, other⟩ := carries
    obtain ⟨x, hx, same⟩ := Option.map_eq_some_iff.mp found
    obtain ⟨rfl, -⟩ := Prod.mk.inj same
    refine Bool.eq_false_iff.mpr fun own => ?_
    exact other _ (h.watchful.sweeps own (mem_posts hx))
  alone := h.lone
  apart {a stage m j} waits at_stage job := by
    obtain ⟨task, at_errand, found, asks⟩ := waits
    obtain ⟨x, hx, same⟩ := Option.map_eq_some_iff.mp found
    obtain ⟨-, rfl⟩ := Prod.mk.inj same
    obtain ⟨r, recorded, rfl⟩ := (h.kept.knows hx).jobs asks
    rcases Activation.Stage.starts_or_settles job with starts | settles
    · exact h.kept.not_starts recorded at_stage starts
    · exact h.kept.not_settles recorded at_stage settles
  other waits := by
    obtain ⟨_, -, other, -⟩ := h.old waits
    exact other

end Diligent

theorem diligent_opening (host : Host) (plan : BackendName → Plan) (clock : Clock) :
    Diligent (opening host plan clock) where
  kept := kept_opening host plan clock
  staffed := staffed_opening host plan clock
  watchful := watchful_opening host plan clock
  lone one := by
    obtain ⟨_, _, found, _⟩ := one
    simp [post?, errand?, opening] at found

/-! Whole steps. -/

namespace Leads

theorem trans (h : Leads b c) (h' : Leads c d) : Leads b d := by
  induction h' with
  | rest => exact h
  | alike _ alike ih => exact .alike ih alike
  | change _ change ih => exact .change ih change

/-- What all changes keep, and all that does not matter, holds where they lead to. -/
theorem keeps {P : Broker → Prop} (leads : Leads b c) (start : P b)
    (alike : ∀ {c d}, P c → Alike c d → P d)
    (change : ∀ {sight c d}, P c → Change sight c d → P d) : P c := by
  induction leads with
  | rest => exact start
  | alike _ same ih => exact alike ih same
  | change _ step ih => exact change ih step

theorem diligent (leads : Leads b c) (h : b.Diligent) : c.Diligent :=
  leads.keeps h Diligent.alike Diligent.change

theorem next (leads : Leads b c) : b.nextErrand ≤ c.nextErrand :=
  leads.keeps (P := fun c => b.nextErrand ≤ c.nextErrand) (Nat.le_refl _)
    (fun before alike => Nat.le_trans before alike.posting.later)
    fun before change => Nat.le_trans before change.posting.later

theorem result? (leads : Leads b c) {result : Except ActivationError Record}
    (ended : b.result? a = some result) : c.result? a = some result := by
  have settled := result?_eq_some.mp ended
  exact result?_eq_some.mpr (leads.keeps (P := fun c => c.stage? a = some (.settled result)) settled
    (fun before alike => alike.filing.settled before)
    fun before change => change.filing.settled before)

theorem move (h : b.Diligent) (next : Move) : Leads b (b.move next) :=
  (h.kept.moves next).keeps (P := Leads b) .rest .alike .change

/-- The site is another one. -/
theorem of_site {s : Site} (calm : b.site.Calm s) : Leads b { b with site := s } :=
  .alike .rest (.of_managers rfl rfl rfl rfl rfl rfl rfl calm)

theorem ticked (b : Broker) : Leads b b.ticked := of_site (calm_ticked b)

theorem tidy (leads : Leads b c) : Leads b c.tidy := .alike leads (.tidy c)

/-- An errand is put away, however far it has come. -/
theorem forgetErrand (leads : Leads b c) (e : ErrandId) : Leads b (c.forgetErrand e) :=
  .change leads (.forget e fun _ _ _ => rfl : Change (some .lost) c _)

/-- An errand takes a step. -/
theorem stepErrand (h : b.Diligent) (ready : b.canRun e) : Leads b (b.stepErrand e) := by
  obtain ⟨x, found⟩ : ∃ x, b.errand? e = some x := by
    cases found : b.errand? e with
    | none => simp [canRun, found] at ready
    | some x => exact ⟨x, rfl⟩
  by_cases everything : x.stage = .fresh ∧ x.task = .sweep .everything
  · have ends (c : Broker) (before : Leads b c) (stale : List ScopeKey)
        (seeking : ∀ y, c.errand? e = some y → y.stage.isSeeking) :
        Leads b ({ c with watch := none }.beginEviction e stale) := by
      have ended : Alike c { c with watch := none } :=
        .of_managers rfl rfl rfl rfl rfl rfl rfl (.refl _) fun own => by simp [isWatched] at own
      exact (before.alike ended).change
        (.evict seeking fun _ => rfl : Change (some .lost) { c with watch := none } _)
    have seeking (y : Errand) (hy : b.errand? e = some y) : y.stage.isSeeking := by
      obtain rfl := Option.some.inj (found.symm.trans hy)
      rw [everything.1]
      rfl
    simp only [Broker.stepErrand, found, everything.1, everything.2, beginErrand]
    split
    · next w _ =>
      exact ends _ (Leads.rest.forgetErrand w) _
        (before_of_forgetErrand (P := fun stage => stage.isSeeking) seeking)
    · exact ends b .rest _ seeking
  · obtain ⟨c, change, alike⟩ := change_stepErrand h.kept.lined found
      (fun r => h.kept.informed found) ready fun fresh task => everything ⟨fresh, task⟩
    exact .alike (.change .rest change) alike

end Leads

end Broker

end LanguageBroker
