import LanguageBroker.Proofs.CarriedErrands
import LanguageBroker.Proofs.PolledSessions

/-!
The handlers of a session and their errands. Every handler has an errand of its own, which nobody
else takes further or puts away while the handler looks for an activation or sends a notification.
-/

namespace LanguageBroker

namespace Editor

/-- A message looks for its activation, or a notification is on its way. -/
def Handler.Stage.isUnderWay : Handler.Stage → Bool
  | .finding .. | .delivering _ => true
  | _ => false

/-- Is the call in other hands? -/
def Handler.Stage.isHandedOver : Handler.Stage → Bool
  | .handedOver .. => true
  | _ => false

/-- The errand is there to do what the handler is about. -/
def Handler.Fits (b : Broker) (h : Handler) : Prop :=
  match h.stage with
  | .finding e method _ => h.id.isNone = method.isNotification ∧
    ∃ document stage, b.post? e = some (.find document none, stage) ∧ b.Seeks stage
  | .delivering e => h.id = none ∧ ∃ record method params stage,
    b.post? e = some (.deliver record method params, stage) ∧ stage.isSending
  | _ => True

namespace Session

/-- Handlers have numbers and errands of their own. -/
structure Manned (s : Session) (received : Nat) : Prop where
  diligent : s.broker.Diligent
  numbered : (s.handlers.map (·.number)).Nodup
  early : ∀ h ∈ s.handlers, h.number < received
  distinct : (s.handlers.map (·.stage.errand)).Nodup
  old : ∀ h ∈ s.handlers, h.stage.errand < s.broker.nextErrand
  apart : ∀ h ∈ s.handlers, h.stage.errand ∈ s.background → h.stage.isHandedOver
  known : ∀ e ∈ s.background, e < s.broker.nextErrand
  fits : ∀ h ∈ s.handlers, h.Fits s.broker

/-- Handlers but the given one are left in peace between one state and another: those that are
under way keep their errands and jobs, and only requests can be given up. -/
structure Spares (received : Nat) (but : Option Nat) (s t : Session) : Prop where
  leads : s.broker.Leads t.broker
  old : ∀ {h}, h ∈ t.handlers → h.number < received → some h.number ≠ but → h ∈ s.handlers
  stays : ∀ {h}, h ∈ s.handlers → some h.number ≠ but → h.id = none → h ∈ t.handlers
  kept : ∀ {h}, h ∈ s.handlers → h ∈ t.handlers → some h.number ≠ but → h.stage.isUnderWay →
    s.broker.Respects t.broker h.stage.errand

/-- What happens aside from the handlers: requests may be given up, errands may be put away with
them, and errands may go on in the background. -/
structure Ushers (s t : Session) : Prop where
  leads : s.broker.Leads t.broker
  handlers : t.handlers.Sublist s.handlers
  stays : ∀ {h}, h ∈ s.handlers → h.id = none → h ∈ t.handlers
  background : ∀ {e}, e ∈ t.background →
    e ∈ s.background ∨ s.broker.nextErrand ≤ e ∧ e < t.broker.nextErrand
  respects : s.broker.Diligent → ∀ e, s.broker.Carries e →
    (∀ h ∈ s.handlers, h.stage.errand = e → h ∈ t.handlers) → s.broker.Respects t.broker e

variable {s t u : Session} {h : Handler} {received number : Nat} {e : ErrandId}

theorem Manned.eq_of_errand (manned : s.Manned received) {x y : Handler} (hx : x ∈ s.handlers)
    (hy : y ∈ s.handlers) (same : x.stage.errand = y.stage.errand) : x = y :=
  List.inj_on_of_nodup_map manned.distinct hx hy same

theorem Manned.eq_of_number (manned : s.Manned received) {x y : Handler} (hx : x ∈ s.handlers)
    (hy : y ∈ s.handlers) (same : x.number = y.number) : x = y :=
  List.inj_on_of_nodup_map manned.numbered hx hy same

theorem Manned.handler? (manned : s.Manned received) (hx : h ∈ s.handlers) :
    s.handler? h.number = some h := by
  cases found : s.handler? h.number with
  | none => simpa using List.find?_eq_none.mp found h hx
  | some y =>
    have same : y.number = h.number := by simpa using List.find?_some found
    rw [manned.eq_of_number (List.mem_of_find?_eq_some found) hx same]

theorem mem_of_handler? (found : s.handler? number = some h) :
    h ∈ s.handlers ∧ h.number = number :=
  ⟨List.mem_of_find?_eq_some found, by simpa using List.find?_some found⟩

theorem finding?_eq_some {stage : Errand.Stage} : s.finding? number = some stage ↔
    ∃ h e method params, s.handler? number = some h ∧ h.stage = .finding e method params ∧
      s.broker.errandStage? e = some stage := by
  cases found : s.handler? number with
  | none => simp [finding?, stage?, found]
  | some h => cases at_stage : h.stage <;> simp [finding?, stage?, found, at_stage]

theorem isUnresolved_iff : s.isUnresolved number ↔ s.finding? number = some .fresh := by
  cases found : s.finding? number with
  | none => simp [isUnresolved, found]
  | some stage => cases stage <;> simp [isUnresolved, found, Errand.Stage.isFresh]

theorem awaited?_eq_some {a : ActivationId} :
    s.awaited? number = some a ↔ s.finding? number = some (.awaiting a) := by
  cases found : s.finding? number with
  | none => simp [awaited?, found]
  | some stage => cases stage <;> simp [awaited?, found]

/-- An errand of a handler under way is no sweep. -/
theorem carries_of_fits {b : Broker} (fits : h.Fits b) (underway : h.stage.isUnderWay) :
    b.Carries h.stage.errand := by
  obtain ⟨number, id, stage⟩ := h
  cases stage with
  | finding e method params =>
    obtain ⟨-, document, stage, found, -⟩ := fits
    exact ⟨_, stage, found, by simp⟩
  | delivering e =>
    obtain ⟨-, record, method, params, stage, found, -⟩ := fits
    exact ⟨_, stage, found, by simp⟩
  | _ => simp [Handler.Stage.isUnderWay] at underway

theorem fits_of_respects {b c : Broker} (fits : h.Fits b) (leads : b.Leads c)
    (kept : h.stage.isUnderWay → b.Respects c h.stage.errand) : h.Fits c := by
  obtain ⟨number, id, stage⟩ := h
  cases stage with
  | finding e method params =>
    obtain ⟨id, document, stage, found, seeks⟩ := fits
    exact ⟨id, document, stage, (kept rfl).post.trans found, leads.seeks seeks⟩
  | delivering e =>
    obtain ⟨id, record, method, params, stage, found, sending⟩ := fits
    exact ⟨id, record, method, params, stage, (kept rfl).post.trans found, sending⟩
  | _ => trivial

theorem answer_eq (s : Session) (number : Nat) (id : Option Json) (result : Except RpcError Json) :
    ∃ r, s.answer number id result = s.respond number r := by
  unfold answer
  split <;> exact ⟨_, rfl⟩

@[simp] theorem broker_answer (s : Session) (number : Nat) (id : Option Json)
    (result : Except RpcError Json) : (s.answer number id result).broker = s.broker := by
  obtain ⟨r, same⟩ := answer_eq s number id result
  rw [same]
  rfl

@[simp] theorem handlers_answer (s : Session) (number : Nat) (id : Option Json)
    (result : Except RpcError Json) : (s.answer number id result).handlers = s.handlers := by
  obtain ⟨r, same⟩ := answer_eq s number id result
  rw [same]
  rfl

@[simp] theorem background_answer (s : Session) (number : Nat) (id : Option Json)
    (result : Except RpcError Json) : (s.answer number id result).background = s.background := by
  obtain ⟨r, same⟩ := answer_eq s number id result
  rw [same]
  rfl

theorem handlers_abandon (s : Session) (h : Handler) :
    (s.abandon h).handlers = s.handlers.filter fun x => x.number ≠ h.number := by
  simp [abandon]

theorem background_abandon (s : Session) (h : Handler) :
    (s.abandon h).background = s.background := by
  simp [abandon]

theorem broker_abandon (s : Session) (h : Handler) :
    (s.abandon h).broker = s.broker.cancelErrand h.stage.errand ∨
      (s.abandon h).broker = s.broker.forgetErrand h.stage.errand := by
  simp only [abandon, broker_answer]
  cases h.stage <;> simp [Handler.Stage.errand]

/-! What happens aside. -/

namespace Ushers

theorem trans (h : s.Ushers t) (h' : t.Ushers u) : s.Ushers u where
  leads := h.leads.trans h'.leads
  handlers := h'.handlers.trans h.handlers
  stays hx none := h'.stays (h.stays hx none) none
  background mem := by
    rcases h'.background mem with old | ⟨late, early⟩
    · rcases h.background old with old | ⟨late, early⟩
      · exact .inl old
      · exact .inr ⟨late, Nat.lt_of_lt_of_le early h'.leads.next⟩
    · exact .inr ⟨Nat.le_trans h.leads.next late, early⟩
  respects diligent e carries stay := by
    have one := h.respects diligent e carries fun x hx own => h'.handlers.subset (stay x hx own)
    exact one.trans (h'.respects (h.leads.diligent diligent) e (carries.respects one)
      fun x hx own => stay x (h.handlers.subset hx) own)

/-- The handlers and their errands are the same. -/
theorem of_broker (leads : s.broker.Leads t.broker)
    (respects : ∀ e, s.broker.Respects t.broker e) (handlers : t.handlers = s.handlers)
    (background : t.background = s.background) : s.Ushers t where
  leads := leads
  handlers := handlers ▸ .refl _
  stays hx _ := handlers ▸ hx
  background mem := .inl (background ▸ mem)
  respects _ _ _ _ := respects _

/-- The site is another one. -/
theorem of_site {x : Site} (broker : t.broker = { s.broker with site := x })
    (calm : s.broker.site.Calm x) (handlers : t.handlers = s.handlers)
    (background : t.background = s.background) : s.Ushers t :=
  of_broker (broker ▸ .of_site calm) (fun _ => broker ▸ .of_errands rfl rfl) handlers background

/-- Nothing of it has to do with the broker. -/
theorem of_same (broker : t.broker = s.broker) (handlers : t.handlers = s.handlers)
    (background : t.background = s.background) : s.Ushers t :=
  of_site broker (.refl _) handlers background

theorem refl (s : Session) : s.Ushers s := of_same rfl rfl rfl

theorem ticked (s : Session) : s.Ushers s.ticked :=
  of_site rfl (Broker.calm_ticked _) rfl rfl

theorem refresh (s : Session) : s.Ushers s.refresh :=
  of_site rfl (.of_journal rfl rfl (.inl rfl)) rfl rfl

theorem announce (s : Session) (event : WorkspaceEvent) (diligent : s.broker.Diligent) :
    s.Ushers (s.announce event) :=
  of_broker (Broker.Leads.move diligent (.hear event)) (fun e => .hear s.broker e event) rfl rfl

/-- A request is given up. -/
theorem abandon (manned : s.Manned received) (before : s.Ushers t) (hx : h ∈ s.handlers)
    (request : h.id.isSome) : s.Ushers (t.abandon h) := by
  have diligent := before.leads.diligent manned.diligent
  have gone : h ∉ (t.abandon h).handlers := by simp [handlers_abandon]
  refine ⟨?leads, ?handlers, ?stays, fun mem => ?background,
    fun diligent' e carries stay => ?respects⟩
  case leads =>
    rcases broker_abandon t h with same | same <;> rw [same]
    · exact before.leads.trans (.move diligent (.cancel _))
    · exact before.leads.forgetErrand _
  case handlers =>
    rw [handlers_abandon]
    exact List.filter_sublist.trans before.handlers
  case stays =>
    intro x hx' none
    rw [handlers_abandon]
    refine List.mem_filter.mpr ⟨before.stays hx' none, ?_⟩
    have other : x.number ≠ h.number := fun same => by
      obtain rfl := manned.eq_of_number hx' hx same
      simp [none] at request
    simpa using other
  case background =>
    rw [background_abandon] at mem
    rcases before.background mem with old | ⟨late, early⟩
    · exact .inl old
    · refine .inr ⟨late, ?_⟩
      rcases broker_abandon t h with same | same <;> rw [same]
      · exact early
      · rwa [Broker.nextErrand_forgetErrand]
  case respects =>
    have one := before.respects diligent' e carries fun x hx own => by
      have there := stay x hx own
      rw [handlers_abandon] at there
      exact (List.mem_filter.mp there).1
    have owns := diligent.owns (carries.respects one)
    have other : e ≠ h.stage.errand := fun same => gone (stay h hx same.symm)
    rcases broker_abandon t h with same | same <;> rw [same]
    · exact one.trans (.cancelErrand _ _ _)
    · exact one.trans (Broker.respects_forgetErrand owns other)

/-- Requests are given up. -/
theorem abandons (manned : s.Manned received) (before : s.Ushers t) {given : List Handler}
    (requests : ∀ h ∈ given, h ∈ s.handlers ∧ h.id.isSome) :
    s.Ushers (given.foldl Session.abandon t) := by
  induction given generalizing t with
  | nil => exact before
  | cons h given ih =>
    obtain ⟨hx, request⟩ := requests h List.mem_cons_self
    exact ih (.abandon manned before hx request) fun x hx => requests x (List.mem_cons_of_mem h hx)

theorem respond (before : s.Ushers t) (number : Nat) (r : Response) :
    s.Ushers (t.respond number r) := before.trans (of_same rfl rfl rfl)

theorem answer (before : s.Ushers t) (number : Nat) (id : Option Json)
    (result : Except RpcError Json) : s.Ushers (t.answer number id result) :=
  before.trans (of_same (broker_answer ..) (handlers_answer ..) (background_answer ..))

/-- Something is looked for in the background. -/
theorem warm (s : Session) : s.Ushers s.warm := by
  have broker : s.warm.broker =
      (s.broker.entrust (.find (s.editor.folders.head?.map (·.uri)) none)).1 := by
    simp only [Session.warm]
    split <;> rfl
  have handlers : s.warm.handlers = s.handlers := by
    simp only [Session.warm]
    split <;> rfl
  have background : s.warm.background = s.background ++ [s.broker.nextErrand] := by
    simp only [Session.warm]
    split <;> rfl
  refine ⟨broker ▸ .entrust .rest rfl, handlers ▸ .refl _, fun hx _ => handlers ▸ hx,
    fun mem => ?_, fun _ e carries _ => ?_⟩
  · rw [background] at mem
    rcases List.mem_append.mp mem with old | new
    · exact .inl old
    · obtain rfl := List.mem_singleton.mp new
      exact .inr ⟨Nat.le_refl _, broker ▸ Nat.lt_succ_self _⟩
  · exact broker ▸ carries.entrust _

theorem announces (diligent : s.broker.Diligent) (before : s.Ushers t) (event : WorkspaceEvent) :
    s.Ushers (t.announce event) :=
  before.trans (announce t event (before.leads.diligent diligent))

theorem announceSettings (diligent : s.broker.Diligent) (before : s.Ushers t) (old : Settings)
    (given : Json) : s.Ushers (t.announceSettings old given) := by
  have told := before.announces diligent (.settings ⟨Settings.sectionName ::
    (given.members?.getD []).map fun m => Settings.sectionName ++ "." ++ m.1⟩)
  unfold Session.announceSettings
  dsimp only
  split <;> split
  · exact (told.announces diligent _).announces diligent _
  · exact told.announces diligent _
  · exact told.announces diligent _
  · exact told

theorem changeSettings (diligent : s.broker.Diligent) (params : Json) :
    s.Ushers (s.changeSettings params) := by
  unfold Session.changeSettings
  split
  · exact refl s
  · split
    · exact refl s
    · next editor _ =>
      have aside : s.Ushers { s with editor } := of_same rfl rfl rfl
      exact (aside.trans (refresh _)).announceSettings diligent _ _

theorem changeFiles (diligent : s.broker.Diligent) (params : Json) :
    s.Ushers (s.changeFiles params) := by
  unfold Session.changeFiles
  dsimp only
  split
  · exact announce s _ diligent
  · exact refl s

theorem commence (s : Session) (params : Json) : s.Ushers (s.commence params) :=
  of_site rfl (.of_journal rfl rfl (.inl rfl)) rfl rfl

end Ushers

/-- What the session makes of a message: it may take on a handler for it, with a new errand. -/
inductive Receipt (s : Session) (number : Nat) : Session → Prop
  | aside {t : Session} (h : s.Ushers t) : Receipt s number t
  | takes {t u : Session} {task : Errand.Task} {id : Option Json} {stage : Handler.Stage}
      (h : s.Ushers t) (known : t.broker.knows task) (errand : stage.errand = t.broker.nextErrand)
      (fits : (⟨number, id, stage⟩ : Handler).Fits (t.broker.entrust task).1)
      (broker : u.broker = (t.broker.entrust task).1)
      (handlers : u.handlers = t.handlers ++ [⟨number, id, stage⟩])
      (background : u.background = t.background) : Receipt s number u

namespace Receipt

theorem sweep (before : s.Ushers t) (number : Nat) (id : Option Json) (kind : Sweep) :
    Receipt s number (t.sweep number id kind) :=
  @Receipt.takes s number t _ (.sweep kind) id (.sweeping t.broker.nextErrand) before rfl rfl
    trivial rfl rfl rfl

theorem route (manned : s.Manned received) (number : Nat) {id : Option Json} {method : Method}
    (kind : id.isNone = method.isNotification) (params : Json) :
    Receipt s number (s.route number id method params) := by
  have found := manned.diligent.watchful.numbered.post?_entrust
  exact @Receipt.takes s number s _ (.find _ none) id
    (.finding s.broker.nextErrand method params) (.refl s) rfl rfl
    ⟨kind, _, .fresh, found _, trivial⟩ rfl rfl rfl

theorem serve (manned : s.Manned received) (number : Nat) {id : Option Json} (params : Json)
    {duty : Duty} (kind : id.isNone = duty.isNotification) :
    Receipt s number (s.serve number id params duty) := by
  cases duty with
  | initialized => exact .aside ((Ushers.warm s).respond _ _)
  | folders =>
    have aside (editor : EditorState) : s.Ushers { s with editor } := .of_same rfl rfl rfl
    exact .sweep ((aside _).trans (.refresh _)) _ _ _
  | configuration => exact .aside ((Ushers.changeSettings manned.diligent params).respond _ _)
  | watchedFiles => exact .aside ((Ushers.changeFiles manned.diligent params).respond _ _)
  | route method => exact .route manned number kind params
  | unserved => exact .aside ((Ushers.refl s).answer _ _ _)

theorem accept (manned : s.Manned received) (number : Nat) (m : Message) (duty : Duty) :
    Receipt s number (s.accept number m duty) := by
  unfold Session.accept
  split
  · exact .aside ((Ushers.refl s).answer _ _ _)
  split
  · exact .aside ((Ushers.refl s).answer _ _ _)
  split
  · exact .aside ((Ushers.refl s).answer _ _ _)
  next request =>
  split
  · exact .aside ((Ushers.refl s).respond _ _)
  next notification =>
  split
  · exact .aside ((Ushers.refl s).answer _ _ _)
  · refine .serve manned number _ ?_
    cases id : m.id <;> simp_all

end Receipt

theorem receipt_receive (manned : s.Manned received) (number : Nat) (m : Message) :
    Receipt s number (s.receive number m) := by
  have here := Ushers.refl s
  have requests {p : Handler → Bool} (kind : ∀ h, p h → h.id.isSome) :
      ∀ h ∈ s.handlers.filter p, h ∈ s.handlers ∧ h.id.isSome := fun h hx =>
    ⟨(List.mem_filter.mp hx).1, kind h (List.mem_filter.mp hx).2⟩
  unfold receive
  split
  · exact .aside (here.respond _ _)
  split
  · unfold greet
    split
    · exact .aside (here.answer _ _ _)
    split
    · exact .aside (here.respond _ _)
    · exact .aside (here.answer _ _ _)
    · exact .aside ((Ushers.commence s _).respond _ _)
  · unfold shutDown
    split
    · exact .aside (here.answer _ _ _)
    dsimp only
    have down : s.Ushers { s with phase := .shutDown } := .of_same rfl rfl rfl
    split
    · exact .aside (down.respond _ _)
    · split
      · exact .aside (down.respond _ _)
      · split
        · exact .aside (down.respond _ _)
        · exact .sweep down _ _ _
  · exact .aside ((Ushers.abandons manned here (requests fun h some => some)).trans
      (.of_same rfl rfl rfl))
  · unfold cancel
    split
    · exact .aside (here.answer _ _ _)
    · refine .aside ((Ushers.abandons manned here fun h hx => ?_).respond _ _)
      split at hx
      · next id _ =>
        refine requests (fun h same => ?_) h hx
        cases own : h.id with
        | none => simp [own] at same
        | some _ => rfl
      · simp at hx
  · exact .accept manned number m _
  · exact .aside (here.answer _ _ _)


/-! Handlers that are left in peace. -/

/-- Handlers are dropped, and what is left fits. -/
theorem Manned.of_sublist (manned : s.Manned received) (leads : s.broker.Leads t.broker)
    (handlers : t.handlers.Sublist s.handlers)
    (background : ∀ {e}, e ∈ t.background →
      e ∈ s.background ∨ s.broker.nextErrand ≤ e ∧ e < t.broker.nextErrand)
    (fits : ∀ h ∈ t.handlers, h.Fits t.broker) : t.Manned received where
  diligent := leads.diligent manned.diligent
  numbered := (handlers.map _).nodup manned.numbered
  early h hx := manned.early h (handlers.subset hx)
  distinct := (handlers.map _).nodup manned.distinct
  old h hx := Nat.lt_of_lt_of_le (manned.old h (handlers.subset hx)) leads.next
  apart h hx mem := by
    rcases background mem with old | ⟨late, -⟩
    · exact manned.apart h (handlers.subset hx) old
    · exact absurd (manned.old h (handlers.subset hx)) (Nat.not_lt.mpr late)
  known e mem := by
    rcases background mem with old | ⟨-, early⟩
    · exact Nat.lt_of_lt_of_le (manned.known e old) leads.next
    · exact early
  fits := fits

namespace Ushers

theorem kept (ushers : s.Ushers t) (manned : s.Manned received) (hx : h ∈ s.handlers)
    (there : h ∈ t.handlers) (underway : h.stage.isUnderWay) :
    s.broker.Respects t.broker h.stage.errand :=
  ushers.respects manned.diligent _ (carries_of_fits (manned.fits h hx) underway)
    fun x own same => by rwa [manned.eq_of_errand own hx same]

theorem manned (ushers : s.Ushers t) (manned : s.Manned received) : t.Manned received :=
  manned.of_sublist ushers.leads ushers.handlers ushers.background fun h there =>
    fits_of_respects (manned.fits h (ushers.handlers.subset there)) ushers.leads
      (ushers.kept manned (ushers.handlers.subset there) there)

theorem spares (ushers : s.Ushers t) (manned : s.Manned received) (n : Nat) :
    s.Spares n none t where
  leads := ushers.leads
  old hx _ _ := ushers.handlers.subset hx
  stays hx _ request := ushers.stays hx request
  kept hx there _ underway := ushers.kept manned hx there underway

end Ushers

namespace Receipt

theorem manned (receipt : s.Receipt number t) (manned : s.Manned number) :
    t.Manned (number + 1) := by
  have later {u : Session} (h : u.Manned number) : u.Manned (number + 1) :=
    ⟨h.diligent, h.numbered, fun x hx => Nat.lt_succ_of_lt (h.early x hx), h.distinct, h.old,
      h.apart, h.known, h.fits⟩
  cases receipt with
  | aside ushers => exact later (ushers.manned manned)
  | @takes u t task id stage ushers known errand fits broker handlers background =>
    have here := ushers.manned manned
    have leads : u.broker.Leads t.broker := broker ▸ .entrust .rest known
    have next : t.broker.nextErrand = u.broker.nextErrand + 1 := by rw [broker]; rfl
    have one {x : Handler} (hx : x ∈ t.handlers) : x ∈ u.handlers ∨ x = ⟨number, id, stage⟩ := by
      rw [handlers] at hx
      exact (List.mem_append.mp hx).imp_right List.mem_singleton.mp
    refine ⟨leads.diligent here.diligent, ?numbered, fun x hx => ?early, ?distinct,
      fun x hx => ?old, fun x hx mem => ?apart, fun e mem => ?known, fun x hx => ?fits⟩
    case numbered =>
      rw [handlers, List.map_append, List.nodup_append]
      refine ⟨here.numbered, List.nodup_singleton _, ?_⟩
      rintro n old m new rfl
      obtain ⟨x, hx, rfl⟩ := List.mem_map.mp old
      exact absurd (List.mem_singleton.mp new) (Nat.ne_of_lt (here.early x hx))
    case early =>
      rcases one hx with old | rfl
      · exact Nat.lt_succ_of_lt (here.early x old)
      · exact Nat.lt_succ_self _
    case distinct =>
      rw [handlers, List.map_append, List.nodup_append]
      refine ⟨here.distinct, List.nodup_singleton _, ?_⟩
      rintro e old i new rfl
      obtain ⟨x, hx, rfl⟩ := List.mem_map.mp old
      exact absurd ((List.mem_singleton.mp new).trans errand) (Nat.ne_of_lt (here.old x hx))
    case old =>
      rw [next]
      rcases one hx with old | rfl
      · exact Nat.lt_succ_of_lt (here.old x old)
      · exact errand ▸ Nat.lt_succ_self _
    case apart =>
      rw [background] at mem
      rcases one hx with old | rfl
      · exact here.apart x old mem
      · exact absurd (here.known _ mem) (errand ▸ Nat.lt_irrefl _)
    case known => exact next ▸ Nat.lt_succ_of_lt (here.known e (background ▸ mem))
    case fits =>
      rcases one hx with old | rfl
      · refine fits_of_respects (here.fits x old) leads fun underway => ?_
        exact broker ▸ (carries_of_fits (here.fits x old) underway).entrust task
      · exact broker ▸ fits

theorem spares (receipt : s.Receipt number t) (manned : s.Manned number) :
    s.Spares number none t := by
  cases receipt with
  | aside ushers => exact ushers.spares manned number
  | @takes u t task id stage ushers known errand fits broker handlers background =>
    have here := ushers.manned manned
    refine ⟨ushers.leads.trans (broker ▸ .entrust .rest known), fun hx early _ => ?old,
      fun hx _ request => ?stays, fun hx there _ underway => ?kept⟩
    case old =>
      rw [handlers] at hx
      rcases List.mem_append.mp hx with old | new
      · exact ushers.handlers.subset old
      · rw [List.mem_singleton.mp new] at early
        exact absurd early (Nat.lt_irrefl _)
    case stays =>
      rw [handlers]
      exact List.mem_append_left _ (ushers.stays hx request)
    case kept =>
      rw [handlers] at there
      rcases List.mem_append.mp there with old | new
      · refine (ushers.kept manned hx old underway).trans (broker ▸ ?_)
        exact (carries_of_fits (here.fits _ old) underway).entrust task
      · rw [List.mem_singleton.mp new] at hx
        exact absurd (manned.early _ hx) (Nat.lt_irrefl _)

end Receipt

/-- The broker does something on its own. -/
theorem Ushers.agent (diligent : s.broker.Diligent) {a : Broker.Agent}
    (listed : a ∈ s.broker.agents) (ready : s.broker.isReady a) : s.Ushers (s.ticked.act (.broker a)) := by
  have ticked := Broker.Leads.ticked s.broker
  have moved : s.broker.ticked.act a = s.broker.move (.agent a) := by simp [Broker.move, ready]
  refine ⟨?_, .refl _, fun hx _ => hx, fun mem => .inl mem, fun _ e carries _ => ?_⟩
  · exact (moved ▸ Broker.Leads.move diligent (.agent a) : s.broker.Leads (s.broker.ticked.act a))
  · exact (Broker.Respects.of_errands (b := s.broker) (c := s.broker.ticked) rfl rfl).trans
      (Broker.respects_agent (ticked.diligent diligent) carries listed ready)

/-! Handlers and calls in the background that go on. -/

/-- What a handler makes of its turn. -/
inductive Polled (s : Session) (h : Handler) (t : Session) : Prop
  | rests (handed : h.stage.isHandedOver) (broker : t.broker = s.broker.tidy)
      (handlers : t.handlers = s.handlers) (background : t.background = s.background)
  /-- Its errand takes a step. -/
  | works (mine : h.stage.isHandedOver = false) (runs : s.broker.canRun h.stage.errand)
      (broker : t.broker = (s.broker.stepErrand h.stage.errand).tidy)
      (handlers : t.handlers = s.handlers) (background : t.background = s.background)
  /-- It has found the server of its document, and a call is sent there. -/
  | sends {e : ErrandId} {method : Method} {params : Json} {record : Record}
      (stage : h.stage = .finding e method params)
      (found : s.broker.errandOutcome? e = some (.found record))
      (next : Handler.Stage) (errand : next.errand = s.broker.nextErrand)
      (kind : if method.isNotification then next = .delivering s.broker.nextErrand
        else next = .handedOver s.broker.nextErrand method params)
      (broker : t.broker =
        ((s.broker.forgetErrand e).entrust (.deliver record method params)).1.tidy)
      (handlers : t.handlers =
        s.handlers.map fun x => if x.number = h.number then { x with stage := next } else x)
      (background : ∀ {i}, i ∈ t.background → i ∈ s.background ∨
        method.isNotification = false ∧ i = s.broker.nextErrand)
  | ends (ended : (s.broker.errandOutcome? h.stage.errand).isSome)
      (other : ∀ {e method params record}, h.stage = .finding e method params →
        s.broker.errandOutcome? e ≠ some (.found record))
      (broker : t.broker = (s.broker.forgetErrand h.stage.errand).tidy)
      (handlers : t.handlers = s.handlers.filter fun x => x.number ≠ h.number)
      (background : t.background.Sublist s.background)

@[simp] theorem broker_conclude (s : Session) (h : Handler) (result : Except RpcError Json) :
    (s.conclude h result).broker = s.broker := by simp [conclude]

@[simp] theorem handlers_conclude (s : Session) (h : Handler) (result : Except RpcError Json) :
    (s.conclude h result).handlers = s.handlers.filter fun x => x.number ≠ h.number := by
  simp [conclude]

@[simp] theorem background_conclude (s : Session) (h : Handler) (result : Except RpcError Json) :
    (s.conclude h result).background = s.background := by simp [conclude]

theorem polled_act (found : s.handler? number = some h) (ready : s.isReady (.handler number)) :
    s.Polled h (s.act (.handler number)) := by
  have own : h.number = number := (mem_of_handler? found).2
  have runs {e : ErrandId} (waits : s.broker.canAwaitErrand e)
      (going : s.broker.errandOutcome? e = none) : s.broker.canRun e := by
    simpa [Broker.canAwaitErrand, going] using waits
  simp only [isReady, found, Option.any_some] at ready
  simp only [act, found, Option.map_some, Option.getD_some, stepHandler]
  cases stage : h.stage with
  | finding e method params =>
    simp only [stage, Handler.Stage.errand] at ready
    simp only [Broker.awaitErrand]
    cases ended : s.broker.errandOutcome? e with
    | none =>
      refine .works (by rw [stage]; rfl) ?_ ?_ rfl rfl <;> rw [stage]
      · exact runs ready ended
      · rfl
    | some outcome =>
      cases outcome with
      | found record =>
        have next := Broker.nextErrand_forgetErrand s.broker e
        simp only [deliver]
        cases kind : method.isNotification with
        | true =>
          refine .sends stage ended (.delivering s.broker.nextErrand) rfl (by simp [kind]) rfl ?_
            fun mem => .inl mem
          simp only [if_true, tidy, put, Broker.entrust, next]
        | false =>
          refine .sends stage ended (.handedOver s.broker.nextErrand method params) rfl
            (by simp [kind]) rfl ?_ fun mem => ?_
          · simp only [Bool.false_eq_true, if_false, tidy, put, Broker.entrust, next]
          · simp only [Bool.false_eq_true, if_false, tidy, put, Broker.entrust, next] at mem
            rcases List.mem_append.mp mem with old | new
            · exact .inl old
            · exact .inr ⟨kind, List.mem_singleton.mp new⟩
      | _ =>
        refine .ends ?_ (fun same => ?_) ?_ ?_ ?_
        · rw [stage]
          simp [Handler.Stage.errand, ended]
        · obtain ⟨rfl, rfl, rfl⟩ := Handler.Stage.finding.inj (stage.symm.trans same)
          simp [ended]
        · simp [deliver, tidy, stage, Handler.Stage.errand]
        · simp [deliver, tidy]
        · simp [deliver, tidy]
  | delivering e | sweeping e =>
    simp only [stage, Handler.Stage.errand] at ready
    simp only [Broker.awaitErrand]
    cases ended : s.broker.errandOutcome? e with
    | none =>
      refine .works (by rw [stage]; rfl) ?_ ?_ rfl rfl <;> rw [stage]
      · exact runs ready ended
      · rfl
    | some outcome =>
      refine .ends ?_ (fun same => ?_) ?_ ?_ ?_
      · rw [stage]
        simp [Handler.Stage.errand, ended]
      · simp [stage] at same
      · simp [tidy, stage, Handler.Stage.errand]
      · simp [tidy]
      · simp [tidy]
  | handedOver e method params =>
    dsimp only
    split
    · next ended =>
      refine .ends ?_ (fun same => ?_) ?_ ?_ ?_
      · rw [stage]
        simp [Handler.Stage.errand, ended]
      · simp [stage] at same
      · simp [tidy, stage, Handler.Stage.errand]
      · simp [tidy]
      · simp only [tidy, background_conclude]
        exact List.filter_sublist
    · exact .rests (by rw [stage]; rfl) rfl rfl rfl

/-- The errand that a handler takes further or puts away leaves those of others in peace. -/
theorem Manned.others (manned : s.Manned received) (hx : h ∈ s.handlers) {x : Handler}
    (mem : x ∈ s.handlers) (other : x.number ≠ h.number) :
    x.stage.errand ≠ h.stage.errand := fun same =>
  other (congrArg Handler.number (manned.eq_of_errand mem hx same))

/-- A handler that found the server of its document knows it from an activation. -/
theorem Manned.finds (manned : s.Manned received) (hx : h ∈ s.handlers) {method : Method}
    {params : Json} {record : Record} (stage : h.stage = .finding e method params)
    (found : s.broker.errandOutcome? e = some (.found record)) :
    ∃ document a, s.broker.post? e = some (.find document none, .done (.found record)) ∧
      s.broker.result? a = some (.ok record) := by
  have fits := manned.fits h hx
  simp only [Handler.Fits, stage] at fits
  obtain ⟨-, document, at_stage, post, seeks⟩ := fits
  obtain ⟨x, here, task, same⟩ := Broker.errand_of_post? post
  obtain rfl : at_stage = .done (.found record) := by
    rw [← same]
    unfold Broker.errandOutcome? at found
    split at found
    · next also =>
      obtain rfl := Option.some.inj (here.symm.trans also)
      exact congrArg _ (Option.some.inj found)
    · simp at found
  obtain ⟨a, ended⟩ := seeks
  exact ⟨document, a, post, ended⟩

namespace Polled

theorem leads (polled : s.Polled h t) (manned : s.Manned received) (hx : h ∈ s.handlers) :
    s.broker.Leads t.broker := by
  cases polled with
  | rests _ broker => exact broker ▸ .tidy .rest
  | works _ runs broker => exact broker ▸ (Broker.Leads.stepErrand manned.diligent runs).tidy
  | @sends e method params record stage found next errand kind broker =>
    obtain ⟨document, a, -, ended⟩ := manned.finds hx stage found
    have forgotten := Broker.Leads.rest.forgetErrand (b := s.broker) e
    have known := Broker.knows_of_result? (forgotten.result? ended) method params
    exact broker ▸ (forgotten.entrust known).tidy
  | ends _ _ broker => exact broker ▸ (Broker.Leads.rest.forgetErrand _).tidy

/-- Nobody else is disturbed. -/
theorem kept (polled : s.Polled h t) (manned : s.Manned received) (hx : h ∈ s.handlers)
    {x : Handler} (mem : x ∈ s.handlers) (other : x.number ≠ h.number)
    (underway : x.stage.isUnderWay) : s.broker.Respects t.broker x.stage.errand := by
  have carries := carries_of_fits (manned.fits x mem) underway
  have owns := manned.diligent.owns carries
  have lined : s.broker.IsLined := manned.diligent.kept.lined
  have differs := manned.others hx mem other
  have forgotten := Broker.respects_forgetErrand owns differs
  cases polled with
  | rests _ broker => exact broker ▸ .tidy _ _
  | works _ runs broker =>
    exact broker ▸ (Broker.respects_stepErrand owns lined differs runs).trans (.tidy _ _)
  | sends stage _ _ _ _ broker =>
    rw [stage] at forgotten
    exact broker ▸ (forgotten.trans ((carries.respects forgotten).entrust _)).trans (.tidy _ _)
  | ends _ _ broker => exact broker ▸ forgotten.trans (.tidy _ _)

/-- The errand of a handler that works on does what it did. -/
theorem fits (manned : s.Manned received) (hx : h ∈ s.handlers)
    (mine : h.stage.isHandedOver = false) (runs : s.broker.canRun h.stage.errand)
    (broker : t.broker = (s.broker.stepErrand h.stage.errand).tidy) : h.Fits t.broker := by
  have fits := manned.fits h hx
  have leads : s.broker.Leads t.broker :=
    broker ▸ (Broker.Leads.stepErrand manned.diligent runs).tidy
  cases stage : h.stage with
  | finding e method params =>
    simp only [Handler.Fits, stage, Handler.Stage.errand] at fits runs broker ⊢
    obtain ⟨id, document, at_stage, post, seeks⟩ := fits
    obtain ⟨next, there, -, -, goes⟩ := Broker.stepErrand_find post seeks runs
    refine ⟨id, document, next, broker ▸ there, ?_⟩
    rcases goes with ⟨-, ⟨a, rfl⟩ | ⟨cause, rfl⟩⟩ | ⟨a, -, tells⟩
    · trivial
    · trivial
    · rcases leads.tells tells with ⟨record, ended, rfl⟩ | ⟨cause, ended, rfl⟩
      · exact ⟨a, ended⟩
      · trivial
  | delivering e =>
    simp only [Handler.Fits, stage, Handler.Stage.errand] at fits runs broker ⊢
    obtain ⟨id, record, method, params, at_stage, post, sending⟩ := fits
    obtain ⟨next, there, sending, -⟩ := Broker.stepErrand_deliver post sending runs
    exact ⟨id, record, method, params, next, broker ▸ there, sending⟩
  | handedOver => simp [stage, Handler.Stage.isHandedOver] at mine
  | sweeping e => simp [Handler.Fits, stage]

theorem manned (polled : s.Polled h t) (manned : s.Manned received) (hx : h ∈ s.handlers) :
    t.Manned received := by
  have leads := polled.leads manned hx
  have old {x : Handler} (mem : x ∈ s.handlers) (other : x.number ≠ h.number) :
      x.Fits t.broker :=
    fits_of_respects (manned.fits x mem) leads (polled.kept manned hx mem other)
  cases polled with
  | rests handed broker handlers background =>
    refine manned.of_sublist leads (handlers ▸ .refl _) (fun mem => .inl (background ▸ mem))
      fun x mem => ?_
    rw [handlers] at mem
    by_cases here : x.number = h.number
    · obtain rfl := manned.eq_of_number mem hx here
      cases stage : x.stage <;> simp_all [Handler.Stage.isHandedOver, Handler.Fits]
    · exact old mem here
  | works mine runs broker handlers background =>
    refine manned.of_sublist leads (handlers ▸ .refl _) (fun mem => .inl (background ▸ mem))
      fun x mem => ?_
    rw [handlers] at mem
    by_cases here : x.number = h.number
    · obtain rfl := manned.eq_of_number mem hx here
      exact fits manned mem mine runs broker
    · exact old mem here
  | ends _ _ broker handlers background =>
    refine manned.of_sublist leads (handlers ▸ List.filter_sublist)
      (fun mem => .inl (background.subset mem)) fun x mem => ?_
    rw [handlers, List.mem_filter] at mem
    exact old mem.1 (by simpa using mem.2)
  | @sends e method params record stage found next errand kind broker handlers background =>
    have later : t.broker.nextErrand = s.broker.nextErrand + 1 := by
      rw [broker, ← Broker.nextErrand_forgetErrand s.broker e]
      rfl
    have one {y : Handler} (mem : y ∈ t.handlers) :
        (y ∈ s.handlers ∧ y.number ≠ h.number) ∨ y = { h with stage := next } := by
      rw [handlers] at mem
      obtain ⟨x, hx', rfl⟩ := List.mem_map.mp mem
      split
      · next here => exact .inr (by rw [manned.eq_of_number hx' hx here])
      · next here => exact .inl ⟨hx', here⟩
    refine ⟨leads.diligent manned.diligent, ?numbered, fun y mem => ?early, ?distinct,
      fun y mem => ?older, fun y mem back => ?apart, fun i back => ?known, fun y mem => ?fits⟩
    case numbered =>
      have same : t.handlers.map (·.number) = s.handlers.map (·.number) := by
        rw [handlers, List.map_map]
        refine List.map_congr_left fun x _ => ?_
        simp only [Function.comp]
        split <;> rfl
      exact same ▸ manned.numbered
    case early =>
      rcases one mem with ⟨mem, -⟩ | rfl
      · exact manned.early y mem
      · exact manned.early h hx
    case distinct =>
      rw [handlers, List.map_map]
      refine List.Nodup.map_on (fun x hx' y hy' same => ?_) (List.Nodup.of_map _ manned.numbered)
      simp only [Function.comp] at same
      split at same <;> split at same
      · next here also =>
        rw [manned.eq_of_number hx' hx here, manned.eq_of_number hy' hx also]
      · exact absurd (same.symm.trans errand) (Nat.ne_of_lt (manned.old y hy'))
      · exact absurd (same.trans errand) (Nat.ne_of_lt (manned.old x hx'))
      · exact manned.eq_of_errand hx' hy' same
    case older =>
      rw [later]
      rcases one mem with ⟨mem, -⟩ | rfl
      · exact Nat.lt_succ_of_lt (manned.old y mem)
      · exact errand ▸ Nat.lt_succ_self _
    case apart =>
      rcases one mem with ⟨mem, -⟩ | rfl
      · rcases background back with before | ⟨-, new⟩
        · exact manned.apart y mem before
        · exact absurd new (Nat.ne_of_lt (manned.old y mem))
      · rcases background back with before | ⟨request, -⟩
        · exact absurd (errand ▸ manned.known _ before) (Nat.lt_irrefl _)
        · rw [if_neg (by simp [request])] at kind
          simp [kind, Handler.Stage.isHandedOver]
    case known =>
      rw [later]
      rcases background back with before | ⟨-, rfl⟩
      · exact Nat.lt_succ_of_lt (manned.known i before)
      · exact Nat.lt_succ_self _
    case fits =>
      rcases one mem with ⟨mem, other⟩ | rfl
      · exact old mem other
      · have before := manned.fits h hx
        simp only [Handler.Fits, stage] at before
        split at kind
        · next note =>
          have numbered : (s.broker.forgetErrand e).IsNumbered :=
            ((Broker.Leads.rest.forgetErrand e).diligent manned.diligent).watchful.numbered
          have there := numbered.post?_entrust (.deliver record method params)
          rw [Broker.nextErrand_forgetErrand] at there
          simp only [Handler.Fits, kind]
          exact ⟨by simpa [note] using before.1, record, method, params, .fresh, broker ▸ there,
            rfl⟩
        · simp [Handler.Fits, kind]

theorem spares (polled : s.Polled h t) (manned : s.Manned received) (hx : h ∈ s.handlers)
    (n : Nat) : s.Spares n (some h.number) t := by
  have others {x : Handler} (other : some x.number ≠ some h.number) : x.number ≠ h.number :=
    fun same => other (congrArg some same)
  refine ⟨polled.leads manned hx, fun {x} mem _ other => ?_, fun {x} mem other _ => ?_,
    fun {x} mem _ other underway => polled.kept manned hx mem (others other) underway⟩
  · cases polled with
    | rests _ _ handlers | works _ _ _ handlers => exact handlers ▸ mem
    | ends _ _ _ handlers =>
      rw [handlers] at mem
      exact (List.mem_filter.mp mem).1
    | sends _ _ _ _ _ _ handlers =>
      rw [handlers] at mem
      obtain ⟨y, hy, rfl⟩ := List.mem_map.mp mem
      split at other
      · next here => exact absurd (congrArg some here) other
      · next differs =>
        rw [if_neg differs]
        exact hy
  · cases polled with
    | rests _ _ handlers | works _ _ _ handlers => exact handlers ▸ mem
    | ends _ _ _ handlers =>
      rw [handlers]
      exact List.mem_filter.mpr ⟨mem, by simpa using others other⟩
    | sends _ _ _ _ _ _ handlers =>
      rw [handlers]
      exact List.mem_map.mpr ⟨x, mem, if_neg (others other)⟩

end Polled

/-- A call in the background goes on, or is forgotten when it is done. -/
theorem background_cases (ready : s.isReady (.background e)) :
    (s.act (.background e)).handlers = s.handlers ∧
      (s.act (.background e)).background.Sublist s.background ∧
      (s.broker.canRun e ∧ (s.act (.background e)).broker = (s.broker.stepErrand e).tidy ∨
        (s.act (.background e)).broker = (s.broker.forgetErrand e).tidy) := by
  simp only [isReady] at ready
  simp only [act, stepBackground, tidy]
  cases ended : s.broker.errandOutcome? e with
  | some outcome => exact ⟨rfl, List.filter_sublist, .inr rfl⟩
  | none =>
    rw [ended] at ready
    exact ⟨rfl, .refl _, .inl ⟨ready, rfl⟩⟩

theorem Manned.background (manned : s.Manned received) (mem : e ∈ s.background)
    (ready : s.isReady (.background e)) :
    (s.act (.background e)).Manned received ∧
      ∀ n, s.Spares n none (s.act (.background e)) := by
  obtain ⟨handlers, background, broker⟩ := background_cases ready
  generalize s.act (.background e) = t at handlers background broker
  have leads : s.broker.Leads t.broker := by
    rcases broker with ⟨runs, same⟩ | same <;> rw [same]
    · exact (Broker.Leads.stepErrand manned.diligent runs).tidy
    · exact (Broker.Leads.rest.forgetErrand e).tidy
  have kept {h : Handler} (hx : h ∈ s.handlers) (underway : h.stage.isUnderWay) :
      s.broker.Respects t.broker h.stage.errand := by
    have owns := manned.diligent.owns (carries_of_fits (manned.fits h hx) underway)
    have differs : h.stage.errand ≠ e := by
      rintro rfl
      have handed := manned.apart h hx mem
      cases stage : h.stage <;>
        simp_all [Handler.Stage.isHandedOver, Handler.Stage.isUnderWay]
    rcases broker with ⟨runs, same⟩ | same <;> rw [same]
    · exact (Broker.respects_stepErrand owns manned.diligent.kept.lined differs runs).trans
        (.tidy _ _)
    · exact (Broker.respects_forgetErrand owns differs).trans (.tidy _ _)
  refine ⟨manned.of_sublist leads (handlers ▸ .refl _) (fun mem => .inl (background.subset mem))
    fun h hx => ?_, fun n => ⟨leads, fun hx _ _ => handlers ▸ hx, fun hx _ _ => handlers ▸ hx,
    fun hx _ _ underway => kept hx underway⟩⟩
  rw [handlers] at hx
  exact fits_of_respects (manned.fits h hx) leads (kept hx)

/-! One step of a reception. -/

theorem Spares.trans {but : Option Nat} (manned : s.Manned number) (h : s.Spares number but t)
    (h' : t.Spares number but u) : s.Spares number but u where
  leads := h.leads.trans h'.leads
  old hx early other := h.old (h'.old hx early other) early other
  stays hx other request := h'.stays (h.stays hx other request) other request
  kept hx there other underway := by
    have between := h'.old there (manned.early _ hx) other
    exact (h.kept hx between other underway).trans (h'.kept between there other underway)

theorem Spares.weaken (h : s.Spares number none t) (but : Option Nat) :
    s.Spares number but t where
  leads := h.leads
  old hx early _ := h.old hx early (by simp)
  stays hx _ request := h.stays hx (by simp) request
  kept hx there _ underway := h.kept hx there (by simp) underway

theorem Ushers.inHost (s : Session) (host : Host) : s.Ushers (s.inHost host) :=
  of_site rfl (.of_journal rfl rfl (.inl rfl)) rfl rfl

end Session

namespace Reception

variable {r t : Reception} {number : Nat}

/-- The session before a message is polled in the given surroundings. -/
def before (r : Reception) (host : Host) : Session := r.session.ticked.inHost host

theorem ready_of_isUnresolved {s : Session} (unresolved : s.isUnresolved number) :
    s.isReady (.handler number) := by
  obtain ⟨h, e, method, params, found, stage, fresh⟩ :=
    Session.finding?_eq_some.mp (Session.isUnresolved_iff.mp unresolved)
  obtain ⟨x, hx, at_stage⟩ := Option.map_eq_some_iff.mp fresh
  simp [Session.isReady, found, stage, Handler.Stage.errand, Broker.canAwaitErrand,
    Broker.canRun, hx, at_stage]

/-- A handler that is polled takes its step. -/
theorem polled_before {h : Handler} (found : r.session.handler? number = some h)
    (ready : r.session.isReady (.handler number)) (host : Host) :
    (r.before host).Polled h ((r.before host).act (.handler number)) :=
  Session.polled_act (s := r.before host) found ready

theorem before_ushers (r : Reception) (host : Host) : r.session.Ushers (r.before host) :=
  (Session.Ushers.ticked r.session).trans (.inHost _ host)

theorem spares_poll (manned : r.session.Manned r.received) {h : Handler}
    (found : r.session.handler? number = some h) (ready : r.session.isReady (.handler number))
    (host : Host) : (r.poll number host).session.Manned r.received ∧
      r.session.Spares r.received (some number) (r.poll number host).session := by
  obtain ⟨hx, rfl⟩ := Session.mem_of_handler? found
  have before := r.before_ushers host
  have here := before.manned manned
  have polled := polled_before found ready host
  have after := polled.manned here hx
  have back := Session.Ushers.inHost ((r.before host).act (.handler h.number))
    r.session.broker.site.host
  exact ⟨back.manned after, ((before.spares manned _).weaken _).trans manned
    ((polled.spares here hx _).trans here ((back.spares after _).weaken _))⟩

/-- A session that nobody has used has no handlers. -/
theorem manned_opening (editor : EditorState) (surroundings : EditorState → Host)
    (plan : BackendName → Plan) (clock : Clock) :
    (opening editor surroundings plan clock).session.Manned 0 := by
  constructor
  case diligent => exact Broker.diligent_opening (surroundings editor) plan clock
  all_goals simp [opening]

/-- All that a move can be: something aside from the handlers, or a handler that is polled. -/
inductive Step (r : Reception) : Reception → Prop
  | aside {t : Reception} (manned : t.session.Manned t.received)
      (spares : r.session.Spares r.received none t.session) (received : r.received ≤ t.received)
      (same : (t.suspended, t.turn, t.came, t.passed) =
        (r.suspended, r.turn, r.came, r.passed)) : Step r t
  | suspend {number : Nat} (new : r.isNew number) (oldest : r.isOldest number)
      (free : r.isFree number) :
      Step r { r with suspended := r.suspended ++ [number], turn := none }
  | poll {number : Nat} {host : Host} {h : Handler}
      (found : r.session.handler? number = some h)
      (ready : r.session.isReady (.handler number)) (free : r.isFree number)
      (order : r.isNew number → r.isOldest number)
      (next : r.session.isUnresolved number ∨ number ∉ r.suspended ∧ r.isNext number) :
      Step r (r.poll number host)

theorem step_move (manned : r.session.Manned r.received) (next : Move) :
    r.Step (r.move next) := by
  have here := Session.Ushers.refl r.session
  have ushers {s : Session} (h : r.session.Ushers s) : r.Step { r with session := s } :=
    .aside (h.manned manned) (h.spares manned _) (Nat.le_refl _) rfl
  have rests : r.Step r := ushers here
  have ticked := Session.Ushers.ticked r.session
  cases next with
  | receive message =>
    have receipt := Session.receipt_receive (ticked.manned manned) r.received message
    exact .aside (receipt.manned (ticked.manned manned))
      ((ticked.spares manned _).trans manned (receipt.spares (ticked.manned manned)))
      (Nat.le_succ _) rfl
  | broker agent =>
    simp only [move]
    split
    · next can => exact ushers (.agent manned.diligent can.1 can.2)
    · exact rests
  | background e =>
    simp only [move]
    split
    · next can =>
      obtain ⟨after, spares⟩ := (ticked.manned manned).background (e := e) can.1 can.2
      exact .aside after ((ticked.spares manned _).trans manned (spares _)) (Nat.le_refl _) rfl
    · exact rests
  | poll number =>
    simp only [move]
    split
    · next can =>
      simp only [canPoll, mayGo, Bool.and_eq_true, Bool.or_eq_true, Bool.not_eq_true',
        List.contains_eq_mem, decide_eq_false_iff_not] at can
      obtain ⟨⟨⟨⟨unsuspended, ready⟩, next⟩, free⟩, order⟩ := can
      obtain ⟨h, found⟩ : ∃ h, r.session.handler? number = some h := by
        cases found : r.session.handler? number with
        | none => simp [Session.isReady, found] at ready
        | some h => exact ⟨h, rfl⟩
      exact .poll found ready free (fun new => order.resolve_left (by simp [new]))
        (.inr ⟨unsuspended, next⟩)
    · exact rests
  | suspend number =>
    simp only [move]
    split
    · next can => exact .suspend can.1 can.2.1 can.2.2
    · exact rests
  | resolve number host =>
    simp only [move]
    split
    · next can =>
      obtain ⟨suspended, unresolved, free⟩ := can
      obtain ⟨h, -, -, -, found, -, -⟩ :=
        Session.finding?_eq_some.mp (Session.isUnresolved_iff.mp unresolved)
      refine .poll found (ready_of_isUnresolved unresolved) free (fun new => ?_) (.inl unresolved)
      simp [isNew, suspended] at new
    · exact rests
  | wait duration =>
    exact ushers (.of_site rfl (.of_journal rfl rfl (.inl rfl)) rfl rfl)
  | announce event => exact ushers (.announce r.session event manned.diligent)
  | change surroundings plan =>
    exact ushers (.of_site rfl (.of_journal rfl rfl (.inl rfl)) rfl rfl)

end Reception

end Editor

end LanguageBroker
