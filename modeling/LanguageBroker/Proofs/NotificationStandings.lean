import LanguageBroker.Proofs.MannedSessions

/-!
How far a notification is that has come to its activation: it waits for the activation, then goes on
to the line before the slot of the server's manager, waits there, and is told which server there
is. Others leave it where it stands, and when it is polled it goes on to the next place.
-/

namespace LanguageBroker

namespace Broker

variable {b c : Broker} {e : ErrandId} {r : Record} {method : Method} {params : Json} {j : JobId}
  {stage : Job.Stage}

/-- The errand delivers a call, and the job with which it asks for the server is at that stage. -/
structure Asks (b : Broker) (e : ErrandId) (r : Record) (method : Method) (params : Json)
    (j : JobId) (stage : Job.Stage) : Prop where
  post : b.post? e = some (.deliver r method params, .asking r.manager j)
  job : ∃ n, b.managers[r.manager]? = some n ∧
    n.job? j = some { id := j, task := .lookUp, stage }

namespace Asks

theorem waitsFor (h : b.Asks e r method params j stage) : b.WaitsFor e r.manager j :=
  ⟨_, _, h.post, rfl⟩

theorem respects (h : b.Asks e r method params j stage) (respects : Respects b c e) :
    c.Asks e r method params j stage := by
  obtain ⟨n, manager, job⟩ := h.job
  obtain ⟨x, hx, kept⟩ := respects.job h.waitsFor manager job
  exact ⟨respects.post.trans h.post, x, hx, kept.job⟩

end Asks

/-- The errand's manager is there. -/
theorem Diligent.manager (diligent : b.Diligent) {stage : Errand.Stage}
    (found : b.post? e = some (.deliver r method params, stage)) :
    ∃ n, b.managers[r.manager]? = some n := by
  obtain ⟨x, hx, task, -⟩ := errand_of_post? found
  have recorded := (diligent.kept.knows hx).task (r := r)
    (by rw [task]; rfl)
  exact ⟨_, List.getElem?_eq_getElem (diligent.kept.recorded_within recorded)⟩

/-- Who is to deliver a call asks for the server first. -/
theorem Diligent.inquires (diligent : b.Diligent)
    (found : b.post? e = some (.deliver r method params, .fresh)) :
    ∃ j, (b.stepErrand e).Asks e r method params j .fresh := by
  obtain ⟨n, manager⟩ := diligent.manager found
  rw [stepErrand_inquire found manager]
  refine ⟨n.nextJob, post?_put found _, (n.ask .lookUp).1, ?_, ?_⟩
  · exact List.getElem?_set_self (List.getElem?_eq_some_iff.mp manager).1
  · rw [Manager.job?_ask (diligent.kept.lined manager).free, if_pos rfl]

/-- The job of an errand takes a step, in the same manager. -/
private theorem asks_moves (h : b.Asks e r method params j stage)
    (live : ∀ o, stage ≠ .done o) :
    ∃ n, b.managers[r.manager]? = some n ∧
      n.job? j = some { id := j, task := .lookUp, stage } ∧
      (b.stepErrand e).post? e = some (.deliver r method params, .asking r.manager j) ∧
      (b.stepErrand e).managers[r.manager]? =
        some (n.stepJob b.site { id := j, task := .lookUp, stage }).1 := by
  obtain ⟨n, manager, job⟩ := h.job
  have going : ¬ ({ id := j, task := .lookUp, stage } : Job).isDone := by
    cases stage <;> simp_all [Job.isDone]
  have step := stepErrand_moves h.post manager job going
  refine ⟨n, manager, job, ?_, ?_⟩ <;> rw [step]
  · exact h.post
  · exact List.getElem?_set_self (List.getElem?_eq_some_iff.mp manager).1

/-- A job that has not begun goes to the end of the line. -/
theorem Asks.joins (h : b.Asks e r method params j .fresh) :
    (b.stepErrand e).Asks e r method params j .queued ∧
      ∃ n m, b.managers[r.manager]? = some n ∧
        (b.stepErrand e).managers[r.manager]? = some m ∧ m.line = n.line ++ [j] := by
  obtain ⟨n, manager, job, post, after⟩ := asks_moves h (by simp)
  refine ⟨⟨post, _, after, ?_⟩, n, _, manager, after, ?_⟩
  · simpa [Manager.stepJob, Manager.beginJob] using
      Manager.job?_put_self (m := n.enqueue j) job .queued
  · simp [Manager.stepJob, Manager.beginJob]

/-- A job that stands at the head of the line hears which server there is. -/
theorem Asks.hears (h : b.Asks e r method params j .queued) (ready : b.canRun e) :
    (∃ server, (b.stepErrand e).Asks e r method params j (.done (.found server))) ∧
      ∃ n, b.managers[r.manager]? = some n ∧ n.line.head? = some j := by
  obtain ⟨n, manager, job, post, after⟩ := asks_moves h (by simp)
  refine ⟨⟨n.slot, post, _, after, ?_⟩, n, manager, ?_⟩
  · simpa [Manager.stepJob, Manager.enter, Manager.finish] using
      Manager.job?_put_self (m := n.leave j) job (.done (.found n.slot))
  · obtain ⟨x, hx, -, asking⟩ := errand_of_post? h.post
    simp only [canRun, hx, asking, canAwait, manager, Manager.isMoving, Manager.outcome?, job,
      Manager.canStep] at ready
    simpa using ready

theorem errandOutcome?_of_post {task : Errand.Task} {at_stage : Errand.Stage}
    (found : b.post? e = some (task, at_stage)) : b.errandOutcome? e = at_stage.outcome? := by
  obtain ⟨⟨id, task, stage, since, cancelled⟩, hx, -, rfl⟩ := errand_of_post? found
  simp only [errandOutcome?, hx]
  cases stage <;> rfl

theorem not_canRun_of_outcome {outcome : Errand.Outcome}
    (ended : b.errandOutcome? e = some outcome) : ¬ b.canRun e := by
  unfold errandOutcome? at ended
  split at ended
  · next found => simp [canRun, found]
  · simp at ended

/-- Nothing is written when an errand is put away. -/
theorem journal_forgetErrand (b : Broker) (e : ErrandId) :
    (b.forgetErrand e).site.journal = b.site.journal := by
  rcases forgetErrand_cases b e with ⟨_, same⟩ | ⟨_, _, _, _, _, same⟩ <;> rw [same] <;> rfl

end Broker

namespace Editor

/-- How far a notification is that has come to its activation. -/
inductive Standing
  | awaiting
  /-- The activation is over, and the notification goes on to the line before the slot. -/
  | entering
  | queued (m : ManagerId) (j : JobId)
  /-- It knows the server and leaves the line. -/
  | leaving
  deriving DecidableEq, Repr

/-- What is written when a call comes to that end. -/
def Ending.Writes (call : BackendEvent) (news : List (Time × Happening)) : Ending → Prop
  | .told _ => ∃ time name, news = [(time, .backend name call)]
  | _ => news = []

/-- How a notification has ended is what has happened: the server was told of it or nobody was, and
there was a server to find unless it has failed. -/
def Passing.Accounts (x : Passing) (b : Broker) (c : Coming) : Prop :=
  x.ending.Writes (.call c.method c.params) x.news ∧
    match x.ending with
    | .failed cause => b.result? c.activation = some (.error cause)
    | _ => ∃ r, b.result? c.activation = some (.ok r)

theorem Passing.Accounts.leads {x : Passing} {b d : Broker} {c : Coming} (accounts : x.Accounts b c)
    (leads : b.Leads d) : x.Accounts d c := by
  obtain ⟨number, ending, news⟩ := x
  obtain ⟨writes, result⟩ := accounts
  refine ⟨writes, ?_⟩
  cases ending with
  | failed => exact leads.result? result
  | _ => exact result.imp fun _ => leads.result?

namespace Session

/-- The notification that has come to the activation stands there. -/
inductive Stands (s : Session) (c : Coming) : Standing → Prop
  | awaiting {e : ErrandId} {document : Option Uri}
      (handler : s.handler? c.number = some ⟨c.number, none, .finding e c.method c.params⟩)
      (post : s.broker.post? e = some (.find document none, .awaiting c.activation)) :
      Stands s c .awaiting
  | heard {e : ErrandId} {document : Option Uri} {stage : Errand.Stage}
      (handler : s.handler? c.number = some ⟨c.number, none, .finding e c.method c.params⟩)
      (post : s.broker.post? e = some (.find document none, stage))
      (tells : s.broker.Tells c.activation stage) : Stands s c .entering
  | sent {e : ErrandId} {r : Record}
      (handler : s.handler? c.number = some ⟨c.number, none, .delivering e⟩)
      (post : s.broker.post? e = some (.deliver r c.method c.params, .fresh))
      (result : s.broker.result? c.activation = some (.ok r)) : Stands s c .entering
  | asks {e : ErrandId} {r : Record} {j : JobId}
      (handler : s.handler? c.number = some ⟨c.number, none, .delivering e⟩)
      (asks : s.broker.Asks e r c.method c.params j .fresh)
      (result : s.broker.result? c.activation = some (.ok r)) : Stands s c .entering
  | queued {e : ErrandId} {r : Record} {j : JobId}
      (handler : s.handler? c.number = some ⟨c.number, none, .delivering e⟩)
      (asks : s.broker.Asks e r c.method c.params j .queued)
      (result : s.broker.result? c.activation = some (.ok r)) : Stands s c (.queued r.manager j)
  | leaving {e : ErrandId} {r : Record} {j : JobId} {server : Option BackendId}
      (handler : s.handler? c.number = some ⟨c.number, none, .delivering e⟩)
      (asks : s.broker.Asks e r c.method c.params j (.done (.found server)))
      (result : s.broker.result? c.activation = some (.ok r)) : Stands s c .leaving

variable {s t : Session} {c : Coming} {x : Standing} {h : Handler} {received number : Nat}

/-- It stands where others have left it. -/
theorem Stands.spared (stands : s.Stands c x) {but : Option Nat} (spares : s.Spares number but t)
    {later : Nat} (after : t.Manned later)
    (other : some c.number ≠ but) : t.Stands c x := by
  have stays {stage : Handler.Stage}
      (found : s.handler? c.number = some ⟨c.number, none, stage⟩) :
      t.handler? c.number = some ⟨c.number, none, stage⟩ ∧
        (stage.isUnderWay → s.broker.Respects t.broker stage.errand) := by
    have hx := (mem_of_handler? found).1
    have there := spares.stays hx other rfl
    exact ⟨after.handler? there, spares.kept hx there other⟩
  have known {result : Except ActivationError Record}
      (ended : s.broker.result? c.activation = some result) :
      t.broker.result? c.activation = some result := spares.leads.result? ended
  cases stands with
  | awaiting handler post =>
    obtain ⟨there, kept⟩ := stays handler
    exact .awaiting there ((kept rfl).post.trans post)
  | heard handler post tells =>
    obtain ⟨there, kept⟩ := stays handler
    exact .heard there ((kept rfl).post.trans post) (spares.leads.tells tells)
  | sent handler post result =>
    obtain ⟨there, kept⟩ := stays handler
    exact .sent there ((kept rfl).post.trans post) (known result)
  | asks handler asks result =>
    obtain ⟨there, kept⟩ := stays handler
    exact .asks there (asks.respects (kept rfl)) (known result)
  | queued handler asks result =>
    obtain ⟨there, kept⟩ := stays handler
    exact .queued there (asks.respects (kept rfl)) (known result)
  | leaving handler asks result =>
    obtain ⟨there, kept⟩ := stays handler
    exact .leaving there (asks.respects (kept rfl)) (known result)

/-- The handler of a notification. -/
theorem Stands.handler (stands : s.Stands c x) :
    ∃ stage, s.handler? c.number = some ⟨c.number, none, stage⟩ ∧ stage.isUnderWay := by
  cases stands <;> exact ⟨_, ‹_›, rfl⟩

/-! A step of its own. -/

/-- A manager that is silenced keeps its line. -/
private theorem line_tidy {b : Broker} {m : ManagerId} {n : Manager}
    (found : b.managers[m]? = some n) :
    ∃ n', b.tidy.managers[m]? = some n' ∧ n'.line = n.line := by
  simp only [Broker.tidy, List.getElem?_map, List.getElem?_zipIdx, found, Option.map_some]
  split <;> exact ⟨_, rfl, rfl⟩

/-- Until its errand is done, a handler takes it further. -/
private theorem works (polled : s.Polled h t) (mine : h.stage.isHandedOver = false)
    (going : s.broker.errandOutcome? h.stage.errand = none) :
    s.broker.canRun h.stage.errand ∧
      t.broker = (s.broker.stepErrand h.stage.errand).tidy ∧ t.handlers = s.handlers := by
  cases polled with
  | rests handed => simp [mine] at handed
  | works _ runs broker handlers => exact ⟨runs, broker, handlers⟩
  | sends stage found =>
    rw [stage] at going
    simp [Handler.Stage.errand, found] at going
  | ends ended => simp [going] at ended

private theorem handler?_same (handlers : t.handlers = s.handlers) (n : Nat) :
    t.handler? n = s.handler? n := by
  simp only [handler?, handlers]

/-- Who waited for an activation hears how it has ended. -/
theorem Stands.of_awaiting (stands : s.Stands c .awaiting) (manned : s.Manned received)
    (found : s.handler? c.number = some h) (polled : s.Polled h t) : t.Stands c .entering := by
  cases stands with
  | @awaiting e document handler post =>
    obtain rfl := Option.some.inj (handler.symm.trans found)
    obtain ⟨runs, broker, handlers⟩ := works polled rfl (Broker.errandOutcome?_of_post post)
    obtain ⟨next, after, -, -, goes⟩ := Broker.stepErrand_find post trivial runs
    have leads := polled.leads manned (mem_of_handler? found).1
    rcases goes with ⟨fresh, -⟩ | ⟨a, same, tells⟩
    · simp at fresh
    · obtain rfl := Errand.Stage.awaiting.inj same
      have there : t.broker.post? e = some (.find document none, next) := by
        rw [broker]
        exact after
      exact .heard ((handler?_same handlers _).trans handler) there (leads.tells tells)

/-- Who has heard of the activation's end goes on to the line, unless there is no server. -/
theorem Stands.of_entering (stands : s.Stands c .entering) (manned : s.Manned received)
    (found : s.handler? c.number = some h) (polled : s.Polled h t) :
    t.Stands c .entering ∨
      (∃ m j n n', t.Stands c (.queued m j) ∧ s.broker.managers[m]? = some n ∧
        t.broker.managers[m]? = some n' ∧ n'.line = n.line ++ [j]) ∨
      s.ending? c.number ≠ none := by
  have hx := (mem_of_handler? found).1
  have leads := polled.leads manned hx
  cases stands with
  | @heard e _ _ handler post tells =>
    obtain rfl := Option.some.inj (handler.symm.trans found)
    have note := (manned.fits _ hx).1
    rcases tells with ⟨r, ended, rfl⟩ | ⟨cause, ended, rfl⟩
    · left
      have outcome := Broker.errandOutcome?_of_post post
      have after := polled.manned manned hx
      cases polled with
      | rests handed => simp [Handler.Stage.isHandedOver] at handed
      | works _ runs =>
        obtain ⟨y, hy, -, done⟩ := Broker.errand_of_post? post
        simp [Handler.Stage.errand, Broker.canRun, hy, done] at runs
      | @sends i method params record stage known next errand kind broker handlers =>
        obtain ⟨rfl, rfl, rfl⟩ := Handler.Stage.finding.inj stage
        obtain rfl : record = r := by simpa [known] using outcome
        rw [if_pos (by simpa using note.symm)] at kind
        subst kind
        have forgotten : s.broker.Leads (s.broker.forgetErrand e) := .forgetErrand .rest e
        have numbered := (forgotten.diligent manned.diligent).watchful.numbered
        have there := numbered.post?_entrust (.deliver record c.method c.params)
        rw [Broker.nextErrand_forgetErrand] at there
        have mem : (⟨c.number, none, .delivering s.broker.nextErrand⟩ : Handler) ∈ t.handlers := by
          rw [handlers]
          exact List.mem_map.mpr ⟨_, hx, if_pos rfl⟩
        refine .sent (after.handler? mem) (r := record) ?_ (leads.result? ended)
        rw [broker]
        exact there
      | ends _ other => exact absurd outcome (other rfl)
    · have kind : c.method.isNotification = true := note.symm
      simp [ending?, stage?, handler, Broker.errandOutcome?_of_post post, kind]
  | sent handler post result =>
    obtain rfl := Option.some.inj (handler.symm.trans found)
    obtain ⟨runs, broker, handlers⟩ := works polled rfl (Broker.errandOutcome?_of_post post)
    obtain ⟨j, after⟩ := manned.diligent.inquires post
    exact .inl (.asks ((handler?_same handlers _).trans handler)
      (broker ▸ after.respects (.tidy _ _)) (leads.result? result))
  | @asks e r j handler asks result =>
    obtain rfl := Option.some.inj (handler.symm.trans found)
    obtain ⟨runs, broker, handlers⟩ := works polled rfl (Broker.errandOutcome?_of_post asks.post)
    obtain ⟨after, n, m, manager, there, line⟩ := asks.joins
    obtain ⟨n', there', line'⟩ := line_tidy there
    exact .inr (.inl ⟨r.manager, j, n, n', .queued ((handler?_same handlers _).trans handler)
      (broker ▸ after.respects (.tidy _ _)) (leads.result? result), manager, broker ▸ there',
      line'.trans line⟩)

/-- Whose turn in the line has come hears which server there is. -/
theorem Stands.of_queued {m : ManagerId} {j : JobId} (stands : s.Stands c (.queued m j))
    (manned : s.Manned received) (found : s.handler? c.number = some h) (polled : s.Polled h t) :
    t.Stands c .leaving ∧ ∃ n, s.broker.managers[m]? = some n ∧ n.line.head? = some j := by
  cases stands with
  | queued handler asks result =>
    obtain rfl := Option.some.inj (handler.symm.trans found)
    obtain ⟨runs, broker, handlers⟩ := works polled rfl (Broker.errandOutcome?_of_post asks.post)
    have leads := polled.leads manned (mem_of_handler? found).1
    obtain ⟨⟨server, after⟩, n, manager, head⟩ := asks.hears runs
    exact ⟨.leaving ((handler?_same handlers _).trans handler)
      (broker ▸ after.respects (.tidy _ _)) (leads.result? result), n, manager, head⟩

/-- Who knows the server is told, or turned away. -/
theorem Stands.of_leaving (stands : s.Stands c .leaving) : s.ending? c.number ≠ none := by
  cases stands with
  | leaving handler asks result =>
    obtain ⟨n, manager, job⟩ := asks.job
    simp [ending?, stage?, handler, asks.post, Broker.outcome?, manager, Manager.outcome?, job]

/-- Only who has heard that there is no server, or which server there is, comes to an end. -/
theorem Stands.of_ending (stands : s.Stands c x) (ends : s.ending? c.number ≠ none) :
    x = .leaving ∨ x = .entering ∧ ∃ cause, s.broker.result? c.activation = some (.error cause) ∧
      s.ending? c.number = some (.failed cause) := by
  have silent {e : ErrandId} {r : Record} {j : JobId} {stage : Job.Stage}
      (handler : s.handler? c.number = some ⟨c.number, none, .delivering e⟩)
      (asks : s.broker.Asks e r c.method c.params j stage) (live : ∀ o, stage ≠ .done o) :
      s.ending? c.number = none := by
    obtain ⟨n, manager, job⟩ := asks.job
    cases stage with
    | done o => exact absurd rfl (live o)
    | _ =>
      simp [ending?, stage?, handler, asks.post, Broker.outcome?, manager, Manager.outcome?, job]
  cases stands with
  | awaiting handler post =>
    simp [ending?, stage?, handler, Broker.errandOutcome?_of_post post] at ends
  | heard handler post tells =>
    rcases tells with ⟨r, ended, rfl⟩ | ⟨cause, ended, rfl⟩
    · simp [ending?, stage?, handler, Broker.errandOutcome?_of_post post] at ends
    · refine .inr ⟨rfl, cause, ended, ?_⟩
      simpa [ending?, stage?, handler, Broker.errandOutcome?_of_post post] using ends
  | sent handler post => simp [ending?, stage?, handler, post] at ends
  | asks handler asks => exact absurd (silent handler asks (by simp)) ends
  | queued handler asks => exact absurd (silent handler asks (by simp)) ends
  | leaving => exact .inl rfl

/-- The call is written down if the server is told, and nothing otherwise. -/
private theorem journal_reach (b : Broker) (e : ErrandId) (r : Record) (method : Method)
    (params : Json) (server : Option BackendId) :
    ∃ news, (b.reach e server (.deliver r method params)).site.journal = b.site.journal ++ news ∧
      (endingAt b.site method params (.found server)).Writes (.call method params) news := by
  cases server with
  | none => exact ⟨[], (List.append_nil _).symm, rfl⟩
  | some server =>
    simp only [Broker.reach, Site.beginCall, endingAt]
    cases found : b.site.backend? server with
    | none => exact ⟨[], (List.append_nil _).symm, rfl⟩
    | some x =>
      cases passes : x.middleware.passes method params with
      | false =>
        exact ⟨[], by simp [Broker.finish, Broker.putErrand, passes],
          by simp [passes, Ending.Writes]⟩
      | true =>
        refine ⟨[(b.site.clock.now, .backend x.name (.call method params))], ?_,
          by simp [passes, Ending.Writes]⟩
        simp [Broker.putErrand, Site.noteBackend, Site.note, found, passes]

theorem endingAt_ne_failed (x : Site) (method : Method) (params : Json) (o : Job.Outcome)
    (cause : ActivationError) : endingAt x method params o ≠ .failed cause := by
  unfold endingAt
  split
  · split <;> simp
  · simp

/-- What is written when a notification comes to its end tells how it has ended. -/
theorem Stands.accounts (stands : s.Stands c x) (found : s.handler? c.number = some h)
    (polled : s.Polled h t) {ending : Ending} (ends : s.ending? c.number = some ending) :
    ∃ news, t.broker.site.journal = s.broker.site.journal ++ news ∧
      (⟨c.number, ending, news⟩ : Passing).Accounts s.broker c := by
  rcases stands.of_ending (by simp [ends]) with rfl | ⟨rfl, cause, failed, same⟩
  · cases stands with
    | @leaving e r j server handler asks result =>
      obtain rfl := Option.some.inj (handler.symm.trans found)
      obtain ⟨-, broker, -⟩ := works polled rfl (Broker.errandOutcome?_of_post asks.post)
      obtain ⟨n, manager, job⟩ := asks.job
      have outcome : s.broker.outcome? r.manager j = some (.found server) := by
        simp [Broker.outcome?, manager, Manager.outcome?, job]
      obtain ⟨news, written, writes⟩ :=
        journal_reach (s.broker.forgetJob r.manager j) e r c.method c.params server
      obtain rfl : endingAt s.broker.site c.method c.params (.found server) = ending := by
        simpa [ending?, stage?, handler, asks.post, outcome] using ends
      refine ⟨news, ?_, writes, ?_⟩
      · rw [broker]
        exact (congrArg (·.site.journal) (Broker.stepErrand_answer asks.post outcome)).trans written
      · split
        · next cause failed => exact absurd failed (endingAt_ne_failed _ _ _ _ cause)
        · exact ⟨r, result⟩
  · obtain rfl := Option.some.inj (ends.symm.trans same)
    refine ⟨[], ?_, rfl, failed⟩
    obtain ⟨e, at_stage, ended⟩ : ∃ e, h.stage = .finding e c.method c.params ∧
        s.broker.errandOutcome? e = some (.failed cause) := by
      cases stands with
      | heard handler post tells =>
        obtain rfl := Option.some.inj (handler.symm.trans found)
        rcases tells with ⟨r, ended, -⟩ | ⟨other, ended, rfl⟩
        · simp [failed] at ended
        · obtain rfl : cause = other := by simpa [failed] using ended
          exact ⟨_, rfl, Broker.errandOutcome?_of_post post⟩
      | sent _ _ result | asks _ _ result => simp [failed] at result
    cases polled with
    | rests handed => simp [at_stage, Handler.Stage.isHandedOver] at handed
    | works _ runs =>
      rw [at_stage] at runs
      exact absurd runs (Broker.not_canRun_of_outcome ended)
    | sends stage other =>
      obtain ⟨rfl, -, -⟩ := Handler.Stage.finding.inj (at_stage.symm.trans stage)
      simp [ended] at other
    | ends _ _ broker =>
      rw [broker]
      exact (Broker.journal_forgetErrand ..).trans (List.append_nil _).symm

/-- Who has not to wait can go on. -/
theorem Stands.ready (stands : s.Stands c x) (free : x = .entering ∨ x = .leaving) :
    s.isReady (.handler c.number) := by
  have asked {e : ErrandId} {r : Record} {j : JobId} {stage : Job.Stage}
      (handler : s.handler? c.number = some ⟨c.number, none, .delivering e⟩)
      (asks : s.broker.Asks e r c.method c.params j stage)
      (moves : stage = .fresh ∨ ∃ o, stage = .done o) : s.isReady (.handler c.number) := by
    obtain ⟨n, manager, job⟩ := asks.job
    obtain ⟨y, hy, -, asking⟩ := Broker.errand_of_post? asks.post
    rcases moves with rfl | ⟨o, rfl⟩ <;>
      simp [isReady, handler, Broker.canAwaitErrand, Handler.Stage.errand, Broker.canRun, hy,
        asking, Broker.canAwait, manager, Manager.outcome?, Manager.isMoving, job,
        Manager.canStep]
  cases stands with
  | awaiting | queued => simp at free
  | heard handler post tells =>
    rcases tells with ⟨r, ended, rfl⟩ | ⟨cause, ended, rfl⟩ <;>
      simp [isReady, handler, Broker.canAwaitErrand, Handler.Stage.errand,
        Broker.errandOutcome?_of_post post]
  | sent handler post =>
    obtain ⟨y, hy, -, fresh⟩ := Broker.errand_of_post? post
    simp [isReady, handler, Broker.canAwaitErrand, Handler.Stage.errand, Broker.canRun, hy, fresh]
  | asks handler asks => exact asked handler asks (.inl rfl)
  | leaving handler asks => exact asked handler asks (.inr ⟨_, rfl⟩)

theorem Stands.awaited? (stands : s.Stands c x) :
    s.awaited? c.number = if x = .awaiting then some c.activation else none := by
  cases stands with
  | awaiting handler post =>
    simp [Session.awaited?, finding?, stage?, handler, Broker.errandStage?_of_post post]
  | heard handler post tells =>
    rcases tells with ⟨r, ended, rfl⟩ | ⟨cause, ended, rfl⟩ <;>
      simp [Session.awaited?, finding?, stage?, handler, Broker.errandStage?_of_post post]
  | sent handler | asks handler | queued handler | leaving handler =>
    simp [Session.awaited?, finding?, stage?, handler]

/-- A job that waits is in the line of its server's manager. -/
theorem Stands.line {m : ManagerId} {j : JobId} (stands : s.Stands c (.queued m j))
    (manned : s.Manned received) :
    ∃ r n, s.broker.result? c.activation = some (.ok r) ∧ r.manager = m ∧
      s.broker.managers[m]? = some n ∧ n.Lined ∧ j ∈ n.line := by
  cases stands with
  | @queued e r _ handler asks result =>
    obtain ⟨n, manager, job⟩ := asks.job
    have lined := manned.diligent.kept.lined manager
    exact ⟨r, n, result, rfl, manager, lined, (lined.mem_line j).mpr ⟨_, job, rfl⟩⟩

/-- Nobody has come before it in line meanwhile. -/
theorem Stands.ahead {m : ManagerId} {j : JobId} (stands : s.Stands c (.queued m j))
    {but : Option Nat} (spares : s.Spares number but t) (other : some c.number ≠ but)
    {n n' : Manager} (manager : s.broker.managers[m]? = some n)
    (manager' : t.broker.managers[m]? = some n') {i : JobId}
    (ahead : [i, j].Sublist n'.line) : [i, j].Sublist n.line := by
  cases stands with
  | queued handler asks result =>
    have hx := (mem_of_handler? handler).1
    have kept := spares.kept hx (spares.stays hx other rfl) other rfl
    obtain ⟨x, hx', job⟩ := asks.job
    obtain rfl := Option.some.inj (manager.symm.trans hx')
    obtain ⟨y, hy, respects⟩ := kept.job asks.waitsFor manager job
    obtain rfl := Option.some.inj (manager'.symm.trans hy)
    exact respects.ahead i ahead

end Session

end Editor

end LanguageBroker
