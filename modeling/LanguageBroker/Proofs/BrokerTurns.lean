import LanguageBroker.Proofs.BrokerManagers

/-!
Whose doing it is. Activations go on in turns of their own: whatever else happens to a broker, they
stay where they are, and the user is not told that a server is missing. Managers send no events.
-/

namespace LanguageBroker

/-- What was told outside, to whoever counts events and to the user. -/
def Site.said (s : Site) : List (Time × TelemetryEvent) × List Variant := (s.telemetry, s.prompts)

namespace Site

@[simp] theorem said_noteBackend (s : Site) (b : BackendId) (e : BackendEvent) :
    (s.noteBackend b e).said = s.said := by
  unfold noteBackend
  split <;> rfl

@[simp] theorem said_create (s : Site) (variant : Variant) (scope : Scope) :
    (s.create variant scope).1.said = s.said := by
  unfold create
  dsimp only
  split <;> rfl

@[simp] theorem said_beginStart (s : Site) (b : BackendId) (options : Options) :
    (s.beginStart b options).1.said = s.said := said_noteBackend ..

@[simp] theorem said_endStart (s : Site) (b : BackendId) (options : Options) :
    (s.endStart b options).1.said = s.said := by
  rcases endStart_cases s b options with ⟨_, same⟩ | ⟨e, same⟩ | ⟨f, same⟩ <;> rw [same]
  · exact said_noteBackend ..
  · exact said_noteBackend s b .started

@[simp] theorem said_beginDispose (s : Site) (b : BackendId) :
    (s.beginDispose b).1.said = s.said := said_noteBackend (s.modifyMiddleware b _) b .dispose

@[simp] theorem said_endDispose (s : Site) (b : BackendId) : (s.endDispose b).said = s.said := by
  unfold endDispose
  split
  · split
    · rfl
    · exact said_noteBackend ..
  · rfl

/-! Calls are counted, but the user is not told of them. -/

@[simp] theorem prompts_settleCall (s : Site) (b : BackendId) (method : Method) (start : Time)
    (result : CallResult) : (s.settleCall b method start result).prompts = s.prompts := by
  unfold settleCall
  split
  · rfl
  · dsimp only
    split <;> rfl

@[simp] theorem prompts_beginCall (s : Site) (b : BackendId) (method : Method) (params : Json) :
    (s.beginCall b method params).1.prompts = s.prompts := by
  unfold beginCall
  split
  · rfl
  · split
    · exact congrArg Prod.snd (said_noteBackend ..)
    · rfl

@[simp] theorem prompts_endCall (s : Site) (d : Delivery) :
    (s.endCall d).1.prompts = s.prompts := prompts_settleCall ..

@[simp] theorem prompts_cancelCall (s : Site) (d : Delivery) :
    (s.cancelCall d).1.prompts = s.prompts :=
  (prompts_settleCall ..).trans (congrArg Prod.snd (said_noteBackend ..))

end Site

namespace Manager

variable (m : Manager) (s : Site) (x : Job)

private theorem said_beginJob : (m.beginJob s x).2.said = s.said := by
  unfold beginJob
  split
  · split
    · rfl
    · split <;> rfl
  · rfl
  · rfl
  · split <;> rfl

private theorem said_bindOptions (scope : Scope) : (m.bindOptions s x scope).2.said = s.said := by
  unfold bindOptions
  split <;> rfl

private theorem said_enter : (m.enter s x).2.said = s.said := by
  unfold enter
  split
  · rfl
  · split
    · rfl
    · split
      · rfl
      · rfl
      · exact Site.said_beginDispose ..
  · rfl
  · split
    · rfl
    · exact Site.said_beginDispose ..

private theorem said_launch (scope : Scope) : (m.launch s x scope).2.said = s.said := by
  unfold launch
  split
  · rfl
  · dsimp only
    have told := Site.said_create s m.variant scope
    split
    · next made =>
      rw [made] at told
      exact told
    · next made =>
      rw [made] at told
      exact (Site.said_beginStart ..).trans told

private theorem said_arrive (b : BackendId) (options : Options) :
    (m.arrive s x b options).2.said = s.said := by
  have told := Site.said_endStart s b options
  unfold arrive
  split
  · next failed =>
    rw [failed] at told
    exact (Site.said_beginDispose ..).trans told
  · next up =>
    rw [up] at told
    split
    · exact (Site.said_beginDispose ..).trans told
    · exact told

private theorem said_stepJob : (m.stepJob s x).2.said = s.said := by
  unfold stepJob
  split
  · exact said_beginJob ..
  · exact said_bindOptions ..
  · exact said_enter ..
  · split <;> exact Site.said_endDispose ..
  · exact said_launch ..
  · exact said_arrive ..
  · exact Site.said_endDispose ..
  · exact Site.said_endDispose ..
  · rfl

/-- A manager tells nothing outside. -/
@[simp] theorem said_act (duty : Duty) : (m.act s duty).2.said = s.said := by
  cases duty with
  | options duty => rfl
  | forward => rfl
  | restart =>
    simp only [act, stepRestart]
    split
    · rfl
    · split
      · rfl
      · exact said_stepJob ..
  | job j =>
    simp only [act]
    split
    · exact said_stepJob ..
    · rfl

end Manager

namespace Broker

/-- The activations that were there are where they were, and the user was told nothing. -/
structure Apart (b c : Broker) : Prop where
  files : ∃ scopes : List Scope, c.files = b.files ++ scopes.map fun scope => (scope, .fresh)
  prompts : c.site.prompts = b.site.prompts
  prompted : c.prompted = b.prompted

variable {b c d : Broker} {a : ActivationId} {m : ManagerId} {j : JobId} {e : ErrandId}

namespace Apart

theorem of_files (files : c.files = b.files) (prompts : c.site.prompts = b.site.prompts)
    (prompted : c.prompted = b.prompted) : Apart b c := ⟨⟨[], by simp [files]⟩, prompts, prompted⟩

theorem refl (b : Broker) : Apart b b := of_files rfl rfl rfl

theorem trans (h : Apart b c) (h' : Apart c d) : Apart b d where
  files := by
    obtain ⟨old, files⟩ := h.files
    obtain ⟨new, more⟩ := h'.files
    exact ⟨old ++ new, by simp [more, files]⟩
  prompts := h'.prompts.trans h.prompts
  prompted := h'.prompted.trans h.prompted

theorem putErrand (h : Apart b c) (e : ErrandId) (stage : Errand.Stage) :
    Apart b (c.putErrand e stage) := h.trans (of_files rfl rfl rfl)

theorem tidy (h : Apart b c) : Apart b c.tidy := h.trans (of_files rfl rfl rfl)

/-- An activation that was there is where it was. -/
theorem stage? (h : Apart b c) {stage : Activation.Stage} (found : b.stage? a = some stage) :
    c.stage? a = some stage := by
  obtain ⟨scopes, files⟩ := h.files
  rw [Broker.stage?, files, List.getElem?_append_left (lt_of_stage? found)]
  exact found

/-- One that was not there has not gone on. -/
theorem fresh (h : Apart b c) {stage : Activation.Stage} (absent : b.stage? a = none)
    (found : c.stage? a = some stage) : stage = .fresh := by
  obtain ⟨scopes, files⟩ := h.files
  have beyond : b.files.length ≤ a := by simpa [Broker.stage?] using absent
  rw [Broker.stage?, files, List.getElem?_append_right beyond, List.getElem?_map] at found
  cases scope : scopes[a - b.files.length]? <;> simp_all

end Apart

theorem apart_ask (b : Broker) (m : ManagerId) (task : Job.Task) : Apart b (b.ask m task).1 := by
  rcases ask_cases b m task with ⟨_, _, same⟩ | ⟨_, same⟩ <;> rw [same]
  · exact .of_files rfl rfl rfl
  · exact .refl b

/-- The steps of managers are no concern of other activations, and tell nothing outside. -/
theorem stepManager_said (b : Broker) (m : ManagerId) (duty : Manager.Duty) :
    (b.stepManager m duty).files = b.files ∧ (b.stepManager m duty).site.said = b.site.said ∧
      (b.stepManager m duty).prompted = b.prompted ∧
        (b.stepManager m duty).managers.length = b.managers.length := by
  unfold stepManager
  split
  · exact ⟨rfl, rfl, rfl, rfl⟩
  · exact ⟨rfl, Manager.said_act .., rfl, List.length_set⟩

theorem apart_stepManager (b : Broker) (m : ManagerId) (duty : Manager.Duty) :
    Apart b (b.stepManager m duty) := by
  obtain ⟨files, said, prompted, _⟩ := b.stepManager_said m duty
  exact .of_files files (congrArg Prod.snd said) prompted

theorem await_said (b : Broker) (m : ManagerId) (j : JobId) :
    (b.await m j).1.files = b.files ∧ (b.await m j).1.site.said = b.site.said ∧
      (b.await m j).1.prompted = b.prompted ∧
        (b.await m j).1.managers.length = b.managers.length := by
  unfold await
  split
  · exact ⟨rfl, rfl, rfl, List.length_modify ..⟩
  · exact b.stepManager_said m (.job j)

private theorem apart_await (b : Broker) (m : ManagerId) (j : JobId) :
    Apart b (b.await m j).1 := by
  obtain ⟨files, said, prompted, _⟩ := b.await_said m j
  exact .of_files files (congrArg Prod.snd said) prompted

private theorem apart_entry (b : Broker) (scope : Scope) : Apart b (b.entry scope).1 := by
  rcases entry_cases b scope with same | ⟨_, same⟩ <;> rw [same]
  · exact .refl b
  · exact ⟨⟨[scope], files_append b scope⟩, rfl, rfl⟩

private theorem apart_forgetErrand (b : Broker) (e : ErrandId) : Apart b (b.forgetErrand e) := by
  rcases forgetErrand_cases b e with ⟨_, same⟩ | ⟨_, _, _, _, _, same⟩ <;> rw [same] <;>
    exact .of_files rfl rfl rfl

private theorem apart_beginDisposal {s : Broker} (apart : Apart b s) (e : ErrandId)
    (m : ManagerId) (left : List Record) (evicted : List ScopeKey) :
    Apart b (s.beginDisposal e m left evicted) :=
  (apart.trans (apart_ask s m .dispose)).putErrand ..

private theorem apart_observe (b : Broker) (a : ActivationId) : Apart b (b.observe a) := by
  refine .of_files (List.ext_getElem? fun i => ?_) rfl rfl
  simp only [files, observe, List.getElem?_map, List.getElem?_modify]
  cases b.activations[i]? with
  | none => split <;> rfl
  | some x => split <;> rfl

private theorem apart_beginErrand (b : Broker) (e : ErrandId) (task : Errand.Task) :
    Apart b (b.beginErrand e task) := by
  cases task with
  | locate resource interpreter =>
    cases located : locate b.site.host resource interpreter <;>
      simp only [beginErrand, located] <;> exact (Apart.refl b).putErrand ..
  | prepare resource interpreter | find resource interpreter =>
    cases located : locate b.site.host resource interpreter with
    | error cause =>
      simp only [beginErrand, located]
      exact (Apart.refl b).putErrand ..
    | ok scope =>
      simp only [beginErrand, located]
      exact (apart_entry b scope).putErrand ..
  | deliver record method params => exact (apart_ask b record.manager .lookUp).putErrand ..
  | inspect record => exact (apart_ask b record.manager .lookUp).putErrand ..
  | sweep kind =>
    cases kind with
    | folders => exact .of_files rfl rfl rfl
    | interpreters => exact .of_files rfl rfl rfl
    | everything =>
      simp only [beginErrand]
      split
      · exact (apart_forgetErrand b _).trans (.of_files rfl rfl rfl)
      · exact .of_files rfl rfl rfl

private theorem apart_reach {s : Broker} (apart : Apart b s) (e : ErrandId)
    (server : Option BackendId) (task : Errand.Task) : Apart b (s.reach e server task) := by
  refine apart.trans ?_
  unfold reach
  split
  · next method params =>
    split
    · exact (Apart.refl s).putErrand ..
    · next server =>
      have same := Site.prompts_beginCall s.site server method params
      split
      · next here =>
        rw [here] at same
        exact .of_files rfl same rfl
      · next here =>
        rw [here] at same
        exact .of_files rfl same rfl
  · exact (Apart.refl s).putErrand ..

theorem apart_stepErrand (b : Broker) (e : ErrandId) : Apart b (b.stepErrand e) := by
  unfold stepErrand
  split
  · exact .refl b
  next x found =>
  cases stage : x.stage with
  | fresh => exact apart_beginErrand ..
  | awaiting a =>
    have seen := apart_observe b a
    dsimp only
    split
    · exact seen.putErrand ..
    · exact seen.putErrand ..
    · exact seen
  | asking m j =>
    obtain ⟨⟨d, o⟩, here⟩ : ∃ pair, b.await m j = pair := ⟨_, rfl⟩
    have apart := here ▸ apart_await b m j
    simp only [here]
    rcases o with _ | (_ | _ | _)
    · exact apart
    · exact apart_reach apart ..
    · exact apart_reach apart ..
    · exact apart_reach apart ..
  | serving d =>
    dsimp only
    split
    · exact .of_files rfl (Site.prompts_endCall ..) rfl
    · exact .of_files rfl (Site.prompts_cancelCall ..) rfl
  | surveying left active stale => cases left <;> exact .of_files rfl rfl rfl
  | gathering left records evicted =>
    cases left with
    | nil => exact .of_files rfl rfl rfl
    | cons a left => exact (apart_observe b a).putErrand ..
  | releasing left evicted =>
    cases left with
    | nil => exact .of_files rfl rfl rfl
    | cons r left =>
      dsimp only
      unfold release
      split
      · split <;> exact .of_files rfl rfl rfl
      · exact apart_beginDisposal (.refl b) ..
  | queuedSimple r left evicted =>
    exact apart_beginDisposal (b := b) (s := b.dropSimple e r) (.of_files rfl rfl rfl) ..
  | disposing m j left evicted =>
    obtain ⟨⟨d, o⟩, here⟩ : ∃ pair, b.await m j = pair := ⟨_, rfl⟩
    have apart := here ▸ apart_await b m j
    simp only [here]
    cases o with
    | none => exact apart
    | some o => exact apart.putErrand ..
  | done outcome => exact .refl b

private theorem apart_stepWatch (b : Broker) : Apart b b.stepWatch := by
  unfold stepWatch
  split
  · exact .refl b
  · exact .of_files rfl rfl rfl
  · next e watch =>
    unfold awaitErrand
    cases b.errandOutcome? e with
    | some o => exact (apart_forgetErrand b e).trans (.of_files rfl rfl rfl)
    | none => exact apart_stepErrand b e

/-- A move that is not the turn of an activation leaves all activations where they are. -/
theorem apart_move (b : Broker) {next : Move} (other : ∀ a, next ≠ .agent (.activation a)) :
    Apart b (b.move next) := by
  have ticked : Apart b b.ticked := .of_files rfl rfl rfl
  cases next with
  | agent agent =>
    simp only [move]
    split
    · cases agent with
      | watch => exact (ticked.trans (apart_stepWatch b.ticked)).tidy
      | activation a => exact absurd rfl (other a)
      | manager m duty => exact (ticked.trans (apart_stepManager b.ticked m duty)).tidy
    · exact .refl b
  | errand e =>
    simp only [move]
    split
    · exact (ticked.trans (apart_stepErrand b.ticked e)).tidy
    · exact .refl b
  | enter e host =>
    simp only [move]
    split
    · have before : Apart b (b.inHost host) := .of_files rfl rfl rfl
      have after (c : Broker) : Apart c (c.inHost b.site.host) := .of_files rfl rfl rfl
      exact ((before.trans (apart_stepErrand _ e)).trans (after _)).tidy
    · exact .refl b
  | entrust task =>
    simp only [move]
    split <;> exact .of_files rfl rfl rfl
  | drop e =>
    simp only [move]
    split
    · exact .refl b
    · exact (apart_forgetErrand b e).tidy
  | cancel e | hear event | wait duration | change host plan | hold held =>
    exact .of_files rfl rfl rfl

end Broker

end LanguageBroker
