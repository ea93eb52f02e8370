import LanguageBroker.Proofs.BrokerErrands

/-!
Whose turn it is. An errand that has begun goes on in turns of its own, and the watch's sweep in
those of the watch. Every other move leaves the errand where it is, or puts it away.
-/

namespace LanguageBroker

/-- Has the errand not taken its first step yet? -/
def Errand.Stage.isFresh : Errand.Stage → Bool
  | .fresh => true
  | _ => false

namespace Broker

variable {b c s : Broker} {e i : ErrandId} {a : ActivationId} {stage : Errand.Stage}

/-- The errand is where it was, or it is put away. -/
def Leaves (b c : Broker) (e : ErrandId) : Prop :=
  c.errandStage? e = b.errandStage? e ∨ c.errandStage? e = none

/-! Activations and managers do no errands. -/

private theorem errands_ask (b : Broker) (m : ManagerId) (task : Job.Task) :
    (b.ask m task).1.errands = b.errands := by
  rcases ask_cases b m task with ⟨_, _, same⟩ | ⟨_, same⟩
  · rw [same]
    rfl
  · rw [same]

private theorem errands_stepManager (b : Broker) (m : ManagerId) (duty : Manager.Duty) :
    (b.stepManager m duty).errands = b.errands := by
  unfold stepManager
  split <;> rfl

private theorem errands_await (b : Broker) (m : ManagerId) (j : JobId) :
    (b.await m j).1.errands = b.errands := by
  unfold await
  split
  · rfl
  · exact b.errands_stepManager m (.job j)

private theorem errands_install (b : Broker) (a : ActivationId) (scope : Scope)
    (variant : Variant) : (b.install a scope variant).errands = b.errands := by
  unfold install
  dsimp only
  split
  · rfl
  · split
    · simp only [fallBack, reportMissing]
      split <;> rfl
    · rfl

private theorem errands_stepActivation (b : Broker) (a : ActivationId) :
    (b.stepActivation a).errands = b.errands := by
  unfold stepActivation
  split
  · rfl
  next x _ =>
  cases x.stage with
  | fresh =>
    simp only [choose]
    split <;> rfl
  | installing variant => exact errands_install ..
  | launchingFull variant =>
    simp only [launchFull]
    split
    · exact errands_ask { b with managers := b.managers ++ [.new variant] } ..
    · rfl
  | queuedSimple =>
    simp only [enterSimple]
    split
    · rfl
    · split
      · exact errands_ask { b with managers := b.managers ++ [.new .simple] } ..
      · rfl
  | startingFull variant m j | startingSimple m j =>
    obtain ⟨⟨d, o⟩, here⟩ : ∃ pair, b.await m j = pair := ⟨_, rfl⟩
    have errands : d.errands = b.errands := by simpa only [here] using b.errands_await m j
    simp only [here]
    rcases o with _ | (_ | _ | _)
    · exact errands
    · exact errands
    · exact (errands_ask d m .dispose).trans errands
    · exact errands
  | cleaningFull variant m j cause | cleaningSimple m j cause =>
    obtain ⟨⟨d, o⟩, here⟩ : ∃ pair, b.await m j = pair := ⟨_, rfl⟩
    have errands : d.errands = b.errands := by simpa only [here] using b.errands_await m j
    simp only [here]
    cases o <;> exact errands
  | concluding result => cases result <;> rfl
  | settled result => rfl

/-! The turns of other errands. -/

theorem errandStage?_congr (errands : c.errands = b.errands) (e : ErrandId) :
    c.errandStage? e = b.errandStage? e := by
  simp only [errandStage?, errand?, errands]

namespace Leaves

theorem of_errands (errands : c.errands = b.errands) : Leaves b c e :=
  .inl (errandStage?_congr errands e)

theorem trans {d : Broker} (h : Leaves b c e) (h' : Leaves c d e) : Leaves b d e := by
  rcases h' with same | gone
  · rcases h with also | gone
    · exact .inl (same.trans also)
    · exact .inr (same.trans gone)
  · exact .inr gone

theorem tidy (h : Leaves b c e) : Leaves b c.tidy e := h.trans (.of_errands rfl)

/-- Another errand is put at a stage. -/
theorem put (h : Leaves b c e) (other : e ≠ i) (stage : Errand.Stage) :
    Leaves b (c.putErrand i stage) e := by
  refine h.trans (.inl ?_)
  rw [errandStage?_putErrand]
  cases c.errandStage? e <;> simp [other]

end Leaves

private theorem leaves_forgetErrand (b : Broker) (e i : ErrandId) :
    Leaves b (b.forgetErrand i) e := by
  unfold Leaves
  rw [errandStage?_forgetErrand]
  split <;> simp

private theorem leaves_beginDisposal (h : Leaves b c e) (other : e ≠ i) (m : ManagerId)
    (left : List Record) (evicted : List ScopeKey) :
    Leaves b (c.beginDisposal i m left evicted) e :=
  (h.trans (.of_errands (errands_ask c m .dispose))).put other _

private theorem leaves_beginErrand (b : Broker) (other : e ≠ i) (task : Errand.Task) :
    Leaves b (b.beginErrand i task) e := by
  have here : Leaves b b e := .of_errands rfl
  cases task with
  | locate resource interpreter =>
    cases located : locate b.site.host resource interpreter <;>
      simp only [beginErrand, located] <;> exact here.put other _
  | prepare resource interpreter | find resource interpreter =>
    cases located : locate b.site.host resource interpreter with
    | error cause =>
      simp only [beginErrand, located]
      exact here.put other _
    | ok scope =>
      simp only [beginErrand, located]
      exact (Leaves.of_errands (errands_entry b scope)).put other _
  | deliver record | inspect record =>
    exact (Leaves.of_errands (errands_ask b record.manager .lookUp)).put other _
  | sweep kind =>
    cases kind with
    | folders | interpreters => exact here.put other _
    | everything =>
      simp only [beginErrand]
      split
      · exact (leaves_forgetErrand b e _).trans
          ((Leaves.of_errands (b := b.forgetErrand _) rfl).put other _)
      · exact here.put other _

private theorem leaves_reach (h : Leaves b c e) (other : e ≠ i) (server : Option BackendId)
    (task : Errand.Task) : Leaves b (c.reach i server task) e := by
  unfold reach
  split
  · split
    · exact h.put other _
    · split
      · next site result _ =>
        exact (h.trans (.of_errands (c := { c with site }) rfl)).put other _
      · next site d _ => exact (h.trans (.of_errands (c := { c with site }) rfl)).put other _
  · exact h.put other _

theorem leaves_stepErrand (b : Broker) (other : e ≠ i) : Leaves b (b.stepErrand i) e := by
  have here : Leaves b b e := .of_errands rfl
  unfold stepErrand
  split
  · exact here
  next x _ =>
  cases x.stage with
  | fresh => exact leaves_beginErrand b other x.task
  | awaiting a =>
    have seen : Leaves b (b.observe a) e := .of_errands rfl
    dsimp only
    split
    · exact seen.put other _
    · exact seen.put other _
    · exact seen
  | asking m j =>
    obtain ⟨⟨d, o⟩, await⟩ : ∃ pair, b.await m j = pair := ⟨_, rfl⟩
    have waits : Leaves b d e := .of_errands (by simpa only [await] using b.errands_await m j)
    simp only [await]
    rcases o with _ | (_ | _ | _)
    · exact waits
    · exact leaves_reach waits other ..
    · exact leaves_reach waits other ..
    · exact leaves_reach waits other ..
  | serving d =>
    dsimp only
    split <;> exact (Leaves.of_errands rfl).put other _
  | surveying left active stale => cases left <;> exact (Leaves.of_errands rfl).put other _
  | gathering left records evicted =>
    cases left <;> exact (Leaves.of_errands rfl).put other _
  | releasing left evicted =>
    cases left with
    | nil => exact here.put other _
    | cons r left =>
      dsimp only
      unfold release
      split
      · split
        · exact here.put other _
        · exact (Leaves.of_errands (c := b.joinLine _) rfl).put other _
      · exact leaves_beginDisposal here other ..
  | queuedSimple r left evicted =>
    exact leaves_beginDisposal (c := b.dropSimple i r) (.of_errands rfl) other ..
  | disposing m j left evicted =>
    obtain ⟨⟨d, o⟩, await⟩ : ∃ pair, b.await m j = pair := ⟨_, rfl⟩
    have waits : Leaves b d e := .of_errands (by simpa only [await] using b.errands_await m j)
    simp only [await]
    cases o with
    | none => exact waits
    | some o => exact waits.put other _
  | done outcome => exact here

/-! Moves. -/

/-- A new errand comes behind those that there are. -/
private theorem leaves_entrust (found : b.errandStage? e = some stage) (task : Errand.Task) :
    Leaves b (b.entrust task).1 e := by
  obtain ⟨x, hx, _⟩ := Option.map_eq_some_iff.mp found
  have kept : (b.entrust task).1.errand? e = some x := by
    simp only [entrust, errand?, List.find?_append]
    rw [show b.errands.find? (fun y => y.id = e) = some x from hx]
    rfl
  exact .inl (congrArg (Option.map Errand.stage) (kept.trans hx.symm))

private theorem leaves_cancelErrand (b : Broker) (e i : ErrandId) :
    Leaves b (b.cancelErrand i) e := by
  have posts : (b.cancelErrand i).posts = b.posts := by
    simp only [posts, cancelErrand, List.map_map]
    refine List.map_congr_left fun x _ => ?_
    simp only [Function.comp]
    split <;> rfl
  left
  rw [errandStage?_eq, posts, errandStage?_eq]

private theorem leaves_stepWatch (found : b.errandStage? e = some stage)
    (other : b.turn? (.agent .watch) ≠ some e) : Leaves b b.stepWatch e := by
  unfold stepWatch
  split
  · exact .of_errands rfl
  · exact (leaves_entrust found _).trans (.of_errands rfl)
  · next news i watch =>
    have differs : e ≠ i := by
      rintro rfl
      exact other (by simp [turn?, watch])
    unfold awaitErrand
    cases b.errandOutcome? i with
    | some o => exact (leaves_forgetErrand b e i).trans (.of_errands rfl)
    | none => exact leaves_stepErrand b differs

/-- A move that is not the turn of an errand leaves it where it is, or puts it away. -/
theorem leaves_move (found : b.errandStage? e = some stage) (begun : stage.isFresh = false)
    {next : Move} (other : b.turn? next ≠ some e) : Leaves b (b.move next) e := by
  have here : Leaves b b e := .of_errands rfl
  have ticked : Leaves b b.ticked e := .of_errands rfl
  cases next with
  | agent agent =>
    simp only [move]
    split
    · cases agent with
      | watch =>
        exact (ticked.trans (leaves_stepWatch (b := b.ticked) found other)).tidy
      | activation a => exact (ticked.trans (.of_errands (errands_stepActivation b.ticked a))).tidy
      | manager m duty =>
        exact (ticked.trans (.of_errands (errands_stepManager b.ticked m duty))).tidy
    · exact here
  | errand i =>
    simp only [move]
    split
    · next runs =>
      have differs : e ≠ i := by
        rintro rfl
        simp only [Bool.and_eq_true, Bool.not_eq_true'] at runs
        exact other (by simp [turn?, runs.2])
      exact (ticked.trans (leaves_stepErrand b.ticked differs)).tidy
    · exact here
  | enter i host =>
    simp only [move]
    split
    · next looking =>
      have differs : e ≠ i := by
        rintro rfl
        obtain ⟨x, hx, fresh, _⟩ := fresh_of_isLooking looking
        obtain rfl := Option.some.inj (found.symm.trans (errandStage?_of_errand hx))
        simp [fresh, Errand.Stage.isFresh] at begun
      have before : Leaves b (b.inHost host) e := .of_errands rfl
      exact ((before.trans (leaves_stepErrand (b.inHost host) differs)).trans
        (.of_errands rfl)).tidy
    · exact here
  | entrust task =>
    simp only [move]
    split
    · exact leaves_entrust found task
    · exact here
  | drop i =>
    simp only [move]
    split
    · exact here
    · exact (leaves_forgetErrand b e i).tidy
  | cancel i => exact leaves_cancelErrand b e i
  | hear event | wait duration | change host plan | hold held => exact .of_errands rfl

/-! The turn of an errand. -/

variable {next : Move}

theorem turn?_congr (same : c.watch = b.watch) (next : Move) :
    c.turn? next = b.turn? next := by
  unfold turn? isWatched
  rw [same]

theorem move_of_turn (turn : b.turn? next = some e) (runs : b.canRun e) :
    b.move next = (b.ticked.stepErrand e).tidy := by
  cases next with
  | errand i =>
    simp only [turn?] at turn
    split at turn
    · simp at turn
    · next free =>
      obtain rfl := Option.some.inj turn
      have free : b.isWatched i = false := by simpa using free
      simp [move, runs, free]
  | agent agent =>
    cases agent with
    | watch =>
      obtain ⟨⟨news, sweep⟩, watch, rfl⟩ := Option.bind_eq_some_iff.mp turn
      have going : b.errandOutcome? e = none := by
        cases found : b.errand? e with
        | none => simp [errandOutcome?, found]
        | some x =>
          obtain ⟨id, task, stage, since, cancelled⟩ := x
          cases stage <;> simp_all [canRun, errandOutcome?]
      have ready : b.isReady .watch := by simp [isReady, watch, canAwaitErrand, runs]
      have also : b.ticked.watch = some { news, sweep := some e } := watch
      have still : b.ticked.errandOutcome? e = none := going
      simp only [move, ready, if_true, act, stepWatch, also, awaitErrand, still]
    | activation a => simp [turn?] at turn
    | manager m duty => simp [turn?] at turn
  | _ => simp [turn?] at turn

/-- In its turn an errand takes a step, or waits, or the watch puts it away at its end. -/
theorem cache_of_idle (turn : b.turn? next = some e) (idle : b.canRun e = false) :
    (b.move next).cache = b.cache := by
  cases next with
  | errand i =>
    simp only [turn?] at turn
    split at turn
    · simp at turn
    · obtain rfl := Option.some.inj turn
      simp [move, idle]
  | agent agent =>
    cases agent with
    | watch =>
      obtain ⟨⟨news, sweep⟩, watch, rfl⟩ := Option.bind_eq_some_iff.mp turn
      cases ended : b.errandOutcome? e with
      | none => simp [move, isReady, watch, canAwaitErrand, ended, idle]
      | some outcome =>
        have also : b.ticked.watch = some { news, sweep := some e } := watch
        have also_ended : b.ticked.errandOutcome? e = some outcome := ended
        simp only [move, isReady, watch, canAwaitErrand, ended, Option.isSome_some, Bool.true_or,
          if_true, act, stepWatch, also, awaitErrand, also_ended]
        exact (files_forgetErrand b.ticked e).2
    | activation a => simp [turn?] at turn
    | manager m duty => simp [turn?] at turn
  | _ => simp [turn?] at turn

/-- Nobody but the watch takes its sweep further. -/
theorem turn_or_still (b : Broker) (e : ErrandId) :
    b.turn? (.errand e) = some e ∨ b.move (.errand e) = b := by
  cases watched : b.isWatched e with
  | false => exact .inl (by simp [turn?, watched])
  | true => exact .inr (by simp [move, watched])

end Broker

end LanguageBroker
