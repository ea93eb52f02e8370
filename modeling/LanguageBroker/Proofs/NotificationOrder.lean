import LanguageBroker.Proofs.NotificationStandings

/-!
The order in which notifications get as far as their server. Those that come to one activation
leave in the order in which they came to it, and they come to it in the order in which they were
received, unless one of them has to wait for its interpreter.
-/

namespace LanguageBroker

/-! One thing comes before another in a list. -/

section Pairs

variable {α : Type} {a b : α} {l : List α}

theorem pair_sublist_iff : [a, b].Sublist l ↔ ∃ r s, l = r ++ s ∧ a ∈ r ∧ b ∈ s := by
  rw [List.cons_sublist_iff]
  simp only [List.singleton_sublist]

theorem ne_of_pair_sublist (order : [a, b].Sublist l) (nodup : l.Nodup) : a ≠ b := by
  simpa using order.nodup nodup

theorem pair_sublist_or (first : a ∈ l) (second : b ∈ l) (other : a ≠ b) :
    [a, b].Sublist l ∨ [b, a].Sublist l := by
  obtain ⟨r, s, rfl⟩ := List.append_of_mem first
  rcases List.mem_append.mp second with before | after
  · exact .inr (pair_sublist_iff.mpr ⟨r, a :: s, rfl, before, List.mem_cons_self⟩)
  · have after := (List.mem_cons.mp after).resolve_left other.symm
    exact .inl (pair_sublist_iff.mpr ⟨r ++ [a], s, by simp, by simp, after⟩)

theorem not_pair_sublist_swap (order : [a, b].Sublist l) (nodup : l.Nodup) :
    ¬ [b, a].Sublist l := fun swapped => by
  induction nodup with
  | nil => simp at order
  | @cons x l absent _ ih =>
    have outside {y : α} (inside : y ∈ l) : x ≠ y := absent y inside
    cases order with
    | cons _ order =>
      cases swapped with
      | cons _ swapped => exact ih order swapped
      | cons_cons _ swapped => exact outside (order.subset (by simp)) rfl
    | cons_cons _ order =>
      cases swapped with
      | cons _ swapped => exact outside (swapped.subset (by simp)) rfl
      | cons_cons _ swapped => exact outside (order.subset (by simp)) rfl

theorem head?_ne_of_pair_sublist (order : [a, b].Sublist l) (nodup : l.Nodup) :
    l.head? ≠ some b := by
  obtain ⟨r, s, rfl, first, second⟩ := pair_sublist_iff.mp order
  obtain ⟨x, r, rfl⟩ := List.exists_cons_of_ne_nil (List.ne_nil_of_mem first)
  rintro same
  obtain rfl : x = b := by simpa using same
  exact (List.nodup_append.mp nodup).2.2 x List.mem_cons_self x second rfl

end Pairs

namespace Editor

namespace Session

/-- Can the message still be told to a server, or be turned away? -/
def isOnWay (s : Session) (number : Nat) : Bool :=
  match s.stage? number with
  | some (.finding ..) => true
  | some (.delivering e) => (s.broker.post? e).any (·.2.isUnsent)
  | _ => false

variable {s t : Session} {c : Coming} {x : Standing} {h : Handler} {received number n : Nat}
  {but : Option Nat} {a : ActivationId} {stage : Errand.Stage}

/-- A message that others have left in peace is where it was. -/
theorem Spares.handler? (spares : s.Spares number but t) (manned : s.Manned received)
    (early : n < number) (other : some n ≠ but) (found : t.handler? n = some h) :
    s.handler? n = some h ∧ (h.stage.isUnderWay → s.broker.Respects t.broker h.stage.errand) := by
  obtain ⟨there, rfl⟩ := mem_of_handler? found
  have hx := spares.old there early other
  exact ⟨manned.handler? hx, spares.kept hx there other⟩

theorem Spares.finding? (spares : s.Spares number but t) (manned : s.Manned received)
    (early : n < number) (other : some n ≠ but) (found : t.finding? n = some stage) :
    s.finding? n = some stage := by
  obtain ⟨h, e, method, params, there, at_stage, errand⟩ := finding?_eq_some.mp found
  obtain ⟨here, kept⟩ := spares.handler? manned early other there
  rw [at_stage] at kept
  exact finding?_eq_some.mpr
    ⟨h, e, method, params, here, at_stage, (kept rfl).errandStage?.symm.trans errand⟩

theorem Spares.isOnWay (spares : s.Spares number but t) (manned : s.Manned received)
    (early : n < number) (other : some n ≠ but) (onWay : t.isOnWay n) : s.isOnWay n := by
  cases there : t.handler? n with
  | none => simp [Session.isOnWay, stage?, there] at onWay
  | some h =>
    obtain ⟨here, kept⟩ := spares.handler? manned early other there
    cases at_stage : h.stage with
    | finding e method params => simp [Session.isOnWay, stage?, here, at_stage]
    | delivering e =>
      rw [at_stage] at kept
      have same : t.broker.post? e = s.broker.post? e := (kept rfl).post
      simpa [Session.isOnWay, stage?, here, there, at_stage, same] using onWay
    | _ => simp [Session.isOnWay, stage?, there, at_stage] at onWay

/-- Only who is on the way comes to an end. -/
theorem isOnWay_of_ending (ends : s.ending? n ≠ none) : s.isOnWay n := by
  unfold ending? at ends
  unfold isOnWay
  cases stage : s.stage? n with
  | none => simp [stage] at ends
  | some x =>
    cases x with
    | finding => rfl
    | delivering e =>
      rw [stage] at ends
      dsimp only at ends ⊢
      split at ends
      · next post => simp [post, Errand.Stage.isUnsent]
      · exact absurd rfl ends
    | _ => simp [stage] at ends

theorem isOnWay_of_isUnresolved (unresolved : s.isUnresolved n) : s.isOnWay n := by
  obtain ⟨h, e, method, params, found, at_stage, -⟩ :=
    finding?_eq_some.mp (isUnresolved_iff.mp unresolved)
  simp [isOnWay, stage?, found, at_stage]

/-- The scope is known before that. -/
theorem ending?_of_isUnresolved (unresolved : s.isUnresolved n) : s.ending? n = none := by
  obtain ⟨h, e, method, params, found, at_stage, errand⟩ :=
    finding?_eq_some.mp (isUnresolved_iff.mp unresolved)
  obtain ⟨x, hx, fresh⟩ := Option.map_eq_some_iff.mp errand
  have going := Broker.errandOutcome?_of_post (Broker.post?_of_errand hx)
  simp [ending?, stage?, found, at_stage, going, fresh]

namespace Polled

/-- The handler itself, if it is still there. -/
theorem handler (polled : s.Polled h t) (manned : s.Manned received)
    (mine : s.handler? n = some h) {x : Handler} (there : t.handler? n = some x) :
    h.stage.isHandedOver ∧ x = h ∨
      (h.stage.isHandedOver = false ∧ x = h ∧ s.broker.canRun h.stage.errand ∧
        t.broker = (s.broker.stepErrand h.stage.errand).tidy) ∨
      ∃ e method params record, h.stage = .finding e method params ∧
        s.broker.errandOutcome? e = some (.found record) ∧
        if method.isNotification then x.stage = .delivering s.broker.nextErrand
        else x.stage = .handedOver s.broker.nextErrand method params := by
  obtain ⟨hx, number⟩ := mem_of_handler? mine
  obtain ⟨mem, number'⟩ := mem_of_handler? there
  cases polled with
  | rests handed _ handlers =>
    rw [handlers] at mem
    exact .inl ⟨handed, manned.eq_of_number mem hx (number'.trans number.symm)⟩
  | works mine runs broker handlers =>
    rw [handlers] at mem
    exact .inr (.inl ⟨mine, manned.eq_of_number mem hx (number'.trans number.symm), runs, broker⟩)
  | @sends e method params record stage found next errand kind broker handlers =>
    rw [handlers] at mem
    obtain ⟨y, hy, rfl⟩ := List.mem_map.mp mem
    have here : y.number = h.number := by
      rw [number, ← number']
      split <;> rfl
    refine .inr (.inr ⟨e, method, params, record, stage, found, ?_⟩)
    rwa [if_pos here]
  | ends _ _ _ handlers =>
    rw [handlers] at mem
    exact absurd (number'.trans number.symm) (by simpa using (List.mem_filter.mp mem).2)

/-- A message that looks for its activation has come to it only after its scope was known. -/
theorem finding (polled : s.Polled h t) (manned : s.Manned received)
    (mine : s.handler? n = some h) (found : t.finding? n = some stage) :
    stage ≠ .fresh ∧ ∀ a, stage = .awaiting a → s.finding? n = some .fresh := by
  obtain ⟨x, e, method, params, there, at_stage, errand⟩ := finding?_eq_some.mp found
  rcases polled.handler manned mine there with
    ⟨handed, rfl⟩ | ⟨-, rfl, runs, broker⟩ | ⟨_, _, _, _, -, -, kind⟩
  · simp [at_stage, Handler.Stage.isHandedOver] at handed
  · have fits := manned.fits x (mem_of_handler? mine).1
    simp only [Handler.Fits, at_stage] at fits
    obtain ⟨-, document, old, post, seeks⟩ := fits
    simp only [at_stage, Handler.Stage.errand] at runs broker
    obtain ⟨next, after, -, -, goes⟩ := Broker.stepErrand_find post seeks runs
    obtain rfl : next = stage := by
      rw [broker] at errand
      exact Option.some.inj ((Broker.errandStage?_of_post after).symm.trans errand)
    have before := Broker.errandStage?_of_post post
    rcases goes with ⟨rfl, ⟨a, rfl⟩ | ⟨cause, rfl⟩⟩ | ⟨a, -, ⟨_, -, rfl⟩ | ⟨_, -, rfl⟩⟩
    · exact ⟨by simp, fun _ _ =>
        finding?_eq_some.mpr ⟨x, e, method, params, mine, at_stage, before⟩⟩
    · exact ⟨by simp, by simp⟩
    · exact ⟨by simp, by simp⟩
    · exact ⟨by simp, by simp⟩
  · split at kind <;> simp [at_stage] at kind

/-- Who is still on the way was so before and has not come to its end. -/
theorem isOnWay (polled : s.Polled h t) (manned : s.Manned received)
    (mine : s.handler? n = some h) (onWay : t.isOnWay n) : s.isOnWay n ∧ s.ending? n = none := by
  cases there : t.handler? n with
  | none => simp [Session.isOnWay, stage?, there] at onWay
  | some x =>
  rcases polled.handler manned mine there with
    ⟨handed, rfl⟩ | ⟨own, rfl, runs, broker⟩ | ⟨e, method, params, record, at_stage, found, kind⟩
  · cases at_stage : x.stage <;>
      simp_all [Handler.Stage.isHandedOver, Session.isOnWay, stage?]
  · cases at_stage : x.stage with
    | finding e method params =>
      have fits := manned.fits x (mem_of_handler? mine).1
      simp only [Handler.Fits, at_stage] at fits
      simp only [at_stage, Handler.Stage.errand] at runs
      obtain ⟨-, document, old, post, seeks⟩ := fits
      obtain ⟨next, -, -, -, goes⟩ := Broker.stepErrand_find post seeks runs
      refine ⟨by simp [Session.isOnWay, stage?, mine, at_stage], ?_⟩
      have going := Broker.errandOutcome?_of_post post
      rcases goes with ⟨rfl, -⟩ | ⟨a, rfl, -⟩ <;> simp [ending?, stage?, mine, at_stage, going]
    | delivering e =>
      have fits := manned.fits x (mem_of_handler? mine).1
      simp only [Handler.Fits, at_stage] at fits
      simp only [at_stage, Handler.Stage.errand] at runs broker
      obtain ⟨-, record, method, params, old, post, sending⟩ := fits
      obtain ⟨next, after, -, sent⟩ := Broker.stepErrand_deliver post sending runs
      have unsent : next.isUnsent := by
        have here : t.broker.post? e = some (.deliver record method params, next) := by
          rw [broker]
          exact after
        simpa [Session.isOnWay, stage?, there, at_stage, here] using onWay
      refine ⟨by simp [Session.isOnWay, stage?, mine, at_stage, post, sent unsent], ?_⟩
      simp only [ending?, stage?, mine, at_stage, Option.map_some, post]
      split
      · next m j same =>
        obtain ⟨-, rfl⟩ := Prod.mk.inj (Option.some.inj same)
        cases outcome : s.broker.outcome? m j with
        | none => rfl
        | some o =>
          have answered := Broker.stepErrand_answer post outcome
          have kept : (s.broker.forgetJob m j).post? e = _ := post
          obtain ⟨told, there', -, sent'⟩ := Broker.post?_reach kept o.server?
          rw [answered, there'] at after
          obtain ⟨-, rfl⟩ := Prod.mk.inj (Option.some.inj after)
          simp [sent'] at unsent
      · rfl
    | _ => simp [Session.isOnWay, stage?, there, at_stage] at onWay
  · refine ⟨by simp [Session.isOnWay, stage?, mine, at_stage], ?_⟩
    simp [ending?, stage?, mine, at_stage, found]

end Polled

/-- A notification that has just come to an activation waits for it. -/
theorem stands_of_awaited (manned : s.Manned received) {e : ErrandId} {method : Method}
    {params : Json} (waits : s.awaited? n = some a)
    (looks : s.stage? n = some (.finding e method params)) (kind : method.isNotification)
    (suspended : Bool) : s.Stands ⟨n, a, method, params, suspended⟩ .awaiting := by
  obtain ⟨⟨number, id, _⟩, _, _, _, found, rfl, errand⟩ :=
    finding?_eq_some.mp (awaited?_eq_some.mp waits)
  obtain ⟨rfl, rfl, rfl⟩ : _ ∧ _ ∧ _ := by simpa [stage?, found] using looks
  obtain ⟨hx, rfl⟩ := mem_of_handler? found
  obtain ⟨request, document, stage, post, -⟩ := manned.fits _ hx
  obtain rfl : stage = .awaiting a :=
    Option.some.inj ((Broker.errandStage?_of_post post).symm.trans errand)
  obtain rfl : id = none := by simpa [kind] using request
  exact .awaiting found post

end Session

/-- How a notification goes on in a turn of its own. -/
inductive Standing.Goes (before after : List Manager) : Standing → Standing → Prop
  | hears : Goes before after .awaiting .entering
  | nears : Goes before after .entering .entering
  | joins {m : ManagerId} {j : JobId} {n n' : Manager} (found : before[m]? = some n)
      (there : after[m]? = some n') (line : n'.line = n.line ++ [j]) :
      Goes before after .entering (.queued m j)
  | leads {m : ManagerId} {j : JobId} {n : Manager} (found : before[m]? = some n)
      (head : n.line.head? = some j) : Goes before after (.queued m j) .leaving

namespace Session

variable {s t : Session} {c : Coming} {x : Standing} {h : Handler} {received : Nat}

/-- A notification that is polled goes on, or comes to its end. -/
theorem Stands.goes (stands : s.Stands c x) (manned : s.Manned received)
    (found : s.handler? c.number = some h) (polled : s.Polled h t) :
    (∃ y, t.Stands c y ∧ x.Goes s.broker.managers t.broker.managers y) ∨
      s.ending? c.number ≠ none := by
  cases x with
  | awaiting => exact .inl ⟨_, stands.of_awaiting manned found polled, .hears⟩
  | entering =>
    rcases stands.of_entering manned found polled with
      there | ⟨m, j, n, n', there, before, after, line⟩ | ends
    · exact .inl ⟨_, there, .nears⟩
    · exact .inl ⟨_, there, .joins before after line⟩
    · exact .inr ends
  | queued m j =>
    obtain ⟨there, n, before, head⟩ := stands.of_queued manned found polled
    exact .inl ⟨_, there, .leads before head⟩
  | leaving => exact .inr stands.of_leaving

end Session

/-- The first of two notifications is ahead of the second. -/
inductive Standing.Ahead (managers : List Manager) : Standing → Standing → Prop
  | leaving {x : Standing} (late : x ≠ .leaving) : Ahead managers .leaving x
  | line {m : ManagerId} {i j : JobId} {n : Manager} (found : managers[m]? = some n)
      (order : [i, j].Sublist n.line) : Ahead managers (.queued m i) (.queued m j)
  | queued {m : ManagerId} {i : JobId} {x : Standing} (late : x = .entering ∨ x = .awaiting) :
      Ahead managers (.queued m i) x
  | entering : Ahead managers .entering .awaiting
  | awaiting : Ahead managers .awaiting .awaiting

namespace Reception

variable {r t : Reception} {c p q : Coming} {x y : Standing} {number n : Nat} {host : Host}
  {h : Handler} {received later : Nat} {but : Option Nat}

/-- The notifications that have come to an end. -/
def past (r : Reception) : List Nat := r.passed.map (·.number)

/-- A notification stands there, and it has the turn if it does not have to wait. -/
structure Waits (r : Reception) (c : Coming) (x : Standing) : Prop where
  stands : r.session.Stands c x
  turn : x = .entering ∨ x = .leaving → r.turn = some c.number

theorem mayGo_of_stands (stands : r.session.Stands c x) (free : x = .entering ∨ x = .leaving)
    (resolved : c.number ∉ r.suspended) : r.mayGo c.number := by
  have waits := stands.awaited?
  rw [if_neg (by rcases free with rfl | rfl <;> simp)] at waits
  simp [mayGo, isNext, waits, stands.ready free, resolved]

/-- Nobody else goes on while a notification has the turn. -/
theorem Waits.idle (waits : r.Waits c x) (resolved : c.number ∉ r.suspended)
    (free : r.isFree number) (other : c.number ≠ number) : x ≠ .entering ∧ x ≠ .leaving := by
  refine not_or.mp fun moves => ?_
  have goes := mayGo_of_stands waits.stands moves resolved
  simp [isFree, waits.turn moves, goes, other] at free

theorem Waits.spared (waits : r.Waits c x) (spares : r.session.Spares received but t.session)
    (manned : t.session.Manned later) (other : some c.number ≠ but)
    (turn : x = .entering ∨ x = .leaving → t.turn = r.turn) : t.Waits c x where
  stands := waits.stands.spared spares manned other
  turn moves := (turn moves).trans (waits.turn moves)

theorem turn_poll (r : Reception) (number : Nat) (host : Host) :
    (r.poll number host).turn = if (r.poll number host).mayGo number then some number else none :=
  rfl

/-- A notification that is polled goes on, or it comes to its end. -/
theorem Waits.goes (waits : r.Waits c x) (manned : r.session.Manned r.received)
    (found : r.session.handler? c.number = some h)
    (ready : r.session.isReady (.handler c.number)) (host : Host) :
    (∃ y, (r.poll c.number host).Waits c y ∧
        x.Goes r.session.broker.managers (r.poll c.number host).session.broker.managers y) ∨
      r.session.ending? c.number ≠ none := by
  have before := r.before_ushers host
  have here := before.manned manned
  have polled := polled_before found ready host
  have back := Session.Ushers.inHost ((r.before host).act (.handler c.number))
    r.session.broker.site.host
  have after := polled.manned here (Session.mem_of_handler? found).1
  have stands := waits.stands.spared (before.spares manned r.received) here (by simp)
  refine (stands.goes here found polled).imp_left ?_
  rintro ⟨y, there, goes⟩
  have there' : (r.poll c.number host).session.Stands c y :=
    there.spared (back.spares after r.received) (back.manned after) (by simp)
  refine ⟨y, ⟨there', fun moves => ?_⟩, goes⟩
  rw [turn_poll, if_pos (mayGo_of_stands there' moves (by simp [poll]))]

/-- Nobody who waits for an activation goes on before one who came to it earlier. -/
theorem not_isNext (order : [p, q].Sublist r.came) (distinct : (r.came.map (·.number)).Nodup)
    {a : ActivationId} (first : r.session.awaited? p.number = some a)
    (second : r.session.awaited? q.number = some a) : ¬ r.isNext q.number := by
  obtain ⟨before, after, split, here, there⟩ := pair_sublist_iff.mp order
  rw [split, List.map_append, List.nodup_append] at distinct
  obtain ⟨c, found⟩ : ∃ c, before.find? (fun c => r.session.awaited? c.number = some a) = some c :=
    Option.isSome_iff_exists.mp (List.find?_isSome.mpr ⟨p, here, by simpa using first⟩)
  have other : c.number ≠ q.number := distinct.2.2 _
    (List.mem_map_of_mem (List.mem_of_find?_eq_some found)) _ (List.mem_map_of_mem there)
  simp [isNext, second, split, List.find?_append, found, other]

end Reception

namespace Standing

variable {x y z : Standing} {before after : List Manager}

/-- The first of two who goes on stays ahead. -/
theorem Ahead.goes (ahead : x.Ahead before y) (goes : x.Goes before after z) :
    z.Ahead after y := by
  cases goes with
  | hears | nears =>
    cases ahead
    exact .entering
  | joins =>
    cases ahead
    exact .queued (.inr rfl)
  | leads =>
    cases ahead with
    | line => exact .leaving (by simp)
    | queued late => exact .leaving (by rintro rfl; simp at late)

end Standing

namespace Reception

variable {r t : Reception} {p q : Coming} {x y z : Standing} {received : Nat} {but : Option Nat}

/-- Two that are left in peace stay in their order. -/
theorem Waits.ahead_spared (first : r.Waits p x) (second : r.Waits q y)
    (manned : r.session.Manned r.received) (after : t.session.Manned t.received)
    (spares : r.session.Spares received but t.session) (other : some p.number ≠ but)
    (there : t.Waits p x) (there' : t.Waits q y)
    (ahead : x.Ahead r.session.broker.managers y) : x.Ahead t.session.broker.managers y := by
  cases ahead with
  | leaving late => exact .leaving late
  | queued late => exact .queued late
  | entering => exact .entering
  | awaiting => exact .awaiting
  | @line m i j n found order =>
    obtain ⟨-, n', -, -, found', lined', mem⟩ := there.stands.line after
    obtain ⟨-, n'', -, -, found'', -, mem'⟩ := there'.stands.line after
    obtain rfl := Option.some.inj (found'.symm.trans found'')
    obtain ⟨-, n'', -, -, same, lined, -⟩ := first.stands.line manned
    obtain rfl := Option.some.inj (found.symm.trans same)
    have apart := ne_of_pair_sublist order lined.nodup
    refine .line found' ((pair_sublist_or mem mem' apart).resolve_right fun swapped => ?_)
    exact not_pair_sublist_swap order lined.nodup
      (first.stands.ahead spares other found found' swapped)

/-- The second of two who goes on does not come past the first. -/
theorem Waits.ahead_goes (first : r.Waits p x) (there : t.Waits p x) (there' : t.Waits q z)
    (manned : r.session.Manned r.received) (after : t.session.Manned t.received)
    (idle : x ≠ .entering ∧ x ≠ .leaving) (next : ¬ (x = .awaiting ∧ y = .awaiting))
    (same : p.activation = q.activation) (ahead : x.Ahead r.session.broker.managers y)
    (goes : y.Goes r.session.broker.managers t.session.broker.managers z) :
    x.Ahead t.session.broker.managers z := by
  cases ahead with
  | leaving => simp at idle
  | entering => simp at idle
  | awaiting => simp at next
  | line found order =>
    obtain ⟨-, n', -, -, also, lined, -⟩ := first.stands.line manned
    obtain rfl := Option.some.inj (found.symm.trans also)
    cases goes with
    | leads found' head =>
      obtain rfl := Option.some.inj (found.symm.trans found')
      exact absurd head (head?_ne_of_pair_sublist order lined.nodup)
  | queued late =>
    cases goes with
    | hears | nears => exact .queued (.inl rfl)
    | leads => simp at late
    | @joins m' j n n' found found' line =>
      obtain ⟨record, -, result, rfl, -⟩ := there.stands.line after
      obtain ⟨record', -, result', rfl, -⟩ := there'.stands.line after
      rw [same, result', Option.some.injEq, Except.ok.injEq] at result
      subst result
      obtain ⟨-, n'', -, -, also, -, mem⟩ := first.stands.line manned
      obtain rfl := Option.some.inj (found.symm.trans also)
      exact .line found' (line ▸ pair_sublist_concat_iff.mpr (.inr ⟨mem, rfl⟩))

/-- The second of two does not come to its end before the first. -/
theorem Waits.not_ending (first : r.Waits p x) (second : r.Waits q y) (other : p.number ≠ q.number)
    (manned : r.session.Manned r.received) (same : p.activation = q.activation)
    (ahead : x.Ahead r.session.broker.managers y) : r.session.ending? q.number = none := by
  by_contra ends
  rcases second.stands.of_ending ends with rfl | ⟨rfl, cause, failed, -⟩
  · cases ahead with
    | leaving late => exact late rfl
    | queued late => simp at late
  · cases ahead with
    | leaving =>
      have turn := (first.turn (.inr rfl)).symm.trans (second.turn (.inl rfl))
      exact other (Option.some.inj turn)
    | queued =>
      obtain ⟨record, -, result, -⟩ := first.stands.line manned
      rw [same, failed] at result
      simp at result

end Reception

end Editor

end LanguageBroker
