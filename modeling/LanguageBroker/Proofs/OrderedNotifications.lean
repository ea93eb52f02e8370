import LanguageBroker.Proofs.NotificationOrder
import LanguageBroker.Proofs.ServerFolders

/-!
Notifications that come to one activation come to their ends in the order in which they came to it,
however long they wait for the activation or for the slot of its manager. They come to it in the
order in which they were received, those apart that had to wait for their interpreter: one that is
received later may come past them meanwhile. Nor is every notification told to a server, for
it may be that none runs when its turn has come.
-/

namespace LanguageBroker

namespace Editor

def Ending.isTold : Ending → Bool
  | .told _ => true
  | _ => false

/-- Is there a server to find, and yet none is told? -/
def Ending.isRefusal : Ending → Bool
  | .unserved | .withheld _ => true
  | _ => false

/-- Two notifications have come to one activation. -/
def Coming.Meets (p q : Coming) : Prop :=
  p.activation = q.activation ∧ p.method.isNotification ∧ q.method.isNotification

namespace Reception

variable {r t : Reception} {c p q : Coming} {x y : Standing} {number n : Nat} {host : Host}
  {h : Handler}

/-- The notifications that servers were told of, in this order. -/
def told (r : Reception) : List Nat := (r.passed.filter (·.ending.isTold)).map (·.number)

/-- Those who came to an activation stand in their order, and so do those who have come to an
end. -/
structure Sound (r : Reception) : Prop where
  manned : r.session.Manned r.received
  held : ∀ n ∈ r.suspended, n < r.received
  early : ∀ c ∈ r.came, c.number < r.received
  distinct : (r.came.map (·.number)).Nodup
  resolved : ∀ c ∈ r.came, ¬ r.session.isUnresolved c.number ∧ c.number ∉ r.suspended
  oldest : ∀ n, n ∈ r.suspended ∨ n ∈ r.came.map (·.number) → r.isOldest n
  ordered : ∀ {p q}, p ∈ r.came → q ∈ r.came → p.number < q.number → p.suspended = false →
    [p, q].Sublist r.came
  ended : ∀ n ∈ r.past, n < r.received ∧ ¬ r.session.isOnWay n
  once : r.past.Nodup
  waits : ∀ {c}, c ∈ r.came → c.method.isNotification → c.number ∉ r.past → ∃ x, r.Waits c x
  ahead : ∀ {p q}, [p, q].Sublist r.came → p.Meets q → p.number ∉ r.past →
    ∃ x y, r.Waits p x ∧ r.Waits q y ∧ x.Ahead r.session.broker.managers y
  behind : ∀ {p q}, [p, q].Sublist r.came → p.Meets q → q.number ∈ r.past →
    [p.number, q.number].Sublist r.past
  accounts : ∀ x ∈ r.passed, ∀ c ∈ r.came, c.number = x.number → c.method.isNotification →
    x.Accounts r.session.broker c

theorem isOldest_iff : r.isOldest n ↔ ∀ m < n, r.isNew m = false := by
  simp [isOldest]

/-- What is not new any more keeps nobody back. -/
theorem isOldest_mono (old : r.isOldest n) (early : n ≤ r.received)
    (new : ∀ {m}, m < r.received → t.isNew m → r.isNew m) : t.isOldest n := by
  refine isOldest_iff.mpr fun m before => Bool.eq_false_iff.mpr fun fresh => ?_
  have known := isOldest_iff.mp old m before
  simp [new (Nat.lt_of_lt_of_le before early) fresh] at known

/-! A message is polled. -/

theorem past_poll (r : Reception) (number : Nat) (host : Host) :
    r.session.ending? number = none ∧ (r.poll number host).past = r.past ∨
      r.session.ending? number ≠ none ∧ (r.poll number host).past = r.past ++ [number] := by
  cases ends : r.session.ending? number with
  | none => exact .inl ⟨rfl, by simp [past, poll, ends]⟩
  | some ending => exact .inr ⟨(by simp), by simp [past, poll, ends]⟩

/-- Who has come to an end stays there. -/
theorem left_of_poll (left : n ∉ (r.poll number host).past) : n ∉ r.past := by
  rcases past_poll r number host with ⟨-, same⟩ | ⟨-, same⟩ <;> rw [same] at left
  · exact left
  · exact fun mem => left (List.mem_append_left _ mem)

theorem ending?_of_left (left : number ∉ (r.poll number host).past) :
    r.session.ending? number = none := by
  rcases past_poll r number host with ⟨ends, -⟩ | ⟨-, same⟩
  · exact ends
  · simp [same] at left

theorem suspended_poll (r : Reception) (number : Nat) (host : Host) :
    n ∈ (r.poll number host).suspended ↔ n ∈ r.suspended ∧ n ≠ number := by
  simp [poll]

section Turn

variable (manned : r.session.Manned r.received) (found : r.session.handler? number = some h)
  (ready : r.session.isReady (.handler number)) (host : Host)

include manned found ready

/-- The message itself does not look for its activation any longer. -/
theorem finding_poll {stage : Errand.Stage}
    (looks : (r.poll number host).session.finding? number = some stage) :
    stage ≠ .fresh ∧ ∀ a, stage = .awaiting a → r.session.isUnresolved number := by
  have polled := polled_before found ready host
  obtain ⟨other, comes⟩ := polled.finding ((r.before_ushers host).manned manned) found looks
  exact ⟨other, fun a same => Session.isUnresolved_iff.mpr (comes a same)⟩

theorem isUnresolved_poll (early : n < r.received)
    (unresolved : (r.poll number host).session.isUnresolved n) :
    r.session.isUnresolved n ∧ n ≠ number := by
  have looks := Session.isUnresolved_iff.mp unresolved
  by_cases own : n = number
  · subst own
    exact absurd rfl (finding_poll manned found ready host looks).1
  · obtain ⟨-, spares⟩ := spares_poll manned found ready host
    exact ⟨Session.isUnresolved_iff.mpr (spares.finding? manned early (by simpa using own) looks),
      own⟩

theorem isNew_poll (early : n < r.received) (new : (r.poll number host).isNew n) :
    r.isNew n ∧ n ≠ number := by
  simp only [isNew, Bool.and_eq_true, Bool.not_eq_true', List.contains_eq_mem,
    decide_eq_false_iff_not, suspended_poll] at new ⊢
  obtain ⟨before, other⟩ := isUnresolved_poll manned found ready host early new.1
  exact ⟨⟨before, fun held => new.2 ⟨held, other⟩⟩, other⟩

theorem isOnWay_poll (early : n < r.received)
    (onWay : (r.poll number host).session.isOnWay n) :
    r.session.isOnWay n ∧ (n = number → r.session.ending? number = none) := by
  by_cases own : n = number
  · subst own
    have polled := polled_before found ready host
    obtain ⟨before, goes⟩ :=
      polled.isOnWay ((r.before_ushers host).manned manned) found onWay
    exact ⟨before, fun _ => goes⟩
  · obtain ⟨-, spares⟩ := spares_poll manned found ready host
    exact ⟨spares.isOnWay manned early (by simpa using own) onWay, fun same => absurd same own⟩

/-- Nobody or the message itself comes to an activation. -/
theorem came_poll : (r.poll number host).came = r.came ∨
    r.session.isUnresolved number ∧ ∃ c e, (r.poll number host).came = r.came ++ [c] ∧
      c.number = number ∧ c.suspended = r.suspended.contains number ∧
      (r.poll number host).session.awaited? number = some c.activation ∧
      (r.poll number host).session.stage? number = some (.finding e c.method c.params) := by
  have came : (r.poll number host).came = r.came ++ (r.session.coming?
    (r.poll number host).session number (r.suspended.contains number)).toList := rfl
  rw [came]
  unfold Session.coming?
  split
  · next a e method params _ waits looks =>
    refine .inr ⟨?_, _, e, rfl, rfl, rfl, waits, looks⟩
    exact (finding_poll manned found ready host (Session.awaited?_eq_some.mp waits)).2 a rfl
  · exact .inl (List.append_nil _)

end Turn

namespace Sound

theorem opening (editor : EditorState) (surroundings : EditorState → Host)
    (plan : BackendName → Plan) (clock : Clock) :
    (opening editor surroundings plan clock).Sound := by
  constructor
  case manned => exact manned_opening editor surroundings plan clock
  all_goals simp [Reception.opening, past]

/-- Something happens aside from the handlers. -/
theorem aside (sound : r.Sound) (manned : t.session.Manned t.received)
    (spares : r.session.Spares r.received none t.session) (received : r.received ≤ t.received)
    (same : (t.suspended, t.turn, t.came, t.passed) = (r.suspended, r.turn, r.came, r.passed)) :
    t.Sound := by
  simp only [Prod.mk.injEq] at same
  obtain ⟨suspended, turn, came, passed⟩ := same
  have past : t.past = r.past := by simp only [past, passed]
  have early {c : Coming} (mem : c ∈ r.came) := sound.early c mem
  have unresolved {n : Nat} (early : n < r.received) (fresh : t.session.isUnresolved n) :
      r.session.isUnresolved n :=
    Session.isUnresolved_iff.mpr (spares.finding? sound.manned early (by simp)
      (Session.isUnresolved_iff.mp fresh))
  have new {n : Nat} (early : n < r.received) (fresh : t.isNew n) : r.isNew n := by
    simp only [isNew, suspended, Bool.and_eq_true] at fresh ⊢
    exact ⟨unresolved early fresh.1, fresh.2⟩
  have kept {c : Coming} {x : Standing} (waits : r.Waits c x) : t.Waits c x :=
    waits.spared spares manned (by simp) fun _ => turn
  refine ⟨manned, ?held, ?early, came ▸ sound.distinct, ?resolved, ?oldest, ?ordered, ?ended,
    past ▸ sound.once, ?waits, ?ahead, ?behind, ?accounts⟩
  case held =>
    exact fun n mem => Nat.lt_of_lt_of_le (sound.held n (suspended ▸ mem)) received
  case early =>
    exact fun c mem => Nat.lt_of_lt_of_le (sound.early c (came ▸ mem)) received
  case resolved =>
    intro c mem
    rw [came] at mem
    rw [suspended]
    exact ⟨fun fresh => (sound.resolved c mem).1 (unresolved (early mem) fresh),
      (sound.resolved c mem).2⟩
  case oldest =>
    intro n mem
    rw [suspended, came] at mem
    refine isOldest_mono (sound.oldest n mem) (Nat.le_of_lt ?_) new
    rcases mem with held | there
    · exact sound.held n held
    · obtain ⟨c, mem, rfl⟩ := List.mem_map.mp there
      exact early mem
  case ordered => exact came ▸ sound.ordered
  case ended =>
    intro n mem
    obtain ⟨before, gone⟩ := sound.ended n (past ▸ mem)
    exact ⟨Nat.lt_of_lt_of_le before received,
      fun onWay => gone (spares.isOnWay sound.manned before (by simp) onWay)⟩
  case waits =>
    intro c mem kind left
    rw [came] at mem
    rw [past] at left
    exact (sound.waits mem kind left).imp fun _ => kept
  case ahead =>
    intro p q order meets left
    rw [came] at order
    rw [past] at left
    obtain ⟨x, y, first, second, ahead⟩ := sound.ahead order meets left
    exact ⟨x, y, kept first, kept second,
      first.ahead_spared second sound.manned manned spares (by simp) (kept first) (kept second)
        ahead⟩
  case behind => rw [came, past]; exact sound.behind
  case accounts =>
    intro x mem c there own kind
    rw [passed] at mem
    rw [came] at there
    exact (sound.accounts x mem c there own kind).leads spares.leads

/-- Who is in the middle of a turn keeps the others from theirs. -/
theorem idle (sound : r.Sound) (mem : c ∈ r.came) (waits : r.Waits c x) (free : r.isFree number)
    (other : c.number ≠ number) : x ≠ .entering ∧ x ≠ .leaving :=
  waits.idle (sound.resolved c mem).2 free other

theorem apart (sound : r.Sound) (order : [p, q].Sublist r.came) : p.number ≠ q.number := by
  have numbers : [p.number, q.number].Sublist (r.came.map (·.number)) := order.map _
  exact ne_of_pair_sublist numbers sound.distinct

/-- Whose scope is still to be worked out has not come to an activation. -/
theorem not_come (sound : r.Sound) (unresolved : r.session.isUnresolved number) :
    number ∉ r.came.map (·.number) := fun mem => by
  obtain ⟨c, there, rfl⟩ := List.mem_map.mp mem
  exact (sound.resolved c there).1 unresolved

theorem early_of_isUnresolved (sound : r.Sound) (unresolved : r.session.isUnresolved number) :
    number < r.received := by
  obtain ⟨h, -, -, -, found, -, -⟩ :=
    Session.finding?_eq_some.mp (Session.isUnresolved_iff.mp unresolved)
  obtain ⟨mem, rfl⟩ := Session.mem_of_handler? found
  exact sound.manned.early h mem

/-- A message has to wait for its interpreter. -/
theorem suspend (sound : r.Sound) (new : r.isNew number) (oldest : r.isOldest number)
    (free : r.isFree number) :
    Sound { r with suspended := r.suspended ++ [number], turn := none } := by
  have unresolved : r.session.isUnresolved number := by
    simp only [isNew, Bool.and_eq_true] at new
    exact new.1
  have early := sound.early_of_isUnresolved unresolved
  have other {c : Coming} (mem : c ∈ r.came) : c.number ≠ number := fun same =>
    sound.not_come unresolved (same ▸ List.mem_map_of_mem mem)
  have kept {c : Coming} {x : Standing} (mem : c ∈ r.came) (waits : r.Waits c x) :
      Waits { r with suspended := r.suspended ++ [number], turn := none } c x :=
    ⟨waits.stands, fun moves => absurd moves
      (not_or.mpr (sound.idle mem waits free (other mem)))⟩
  have mem_suspended {n : Nat} : n ∈ r.suspended ++ [number] ↔ n ∈ r.suspended ∨ n = number := by
    simp
  have now {n : Nat}
      (fresh : isNew { r with suspended := r.suspended ++ [number], turn := none } n) :
      r.isNew n := by
    simp only [isNew, Bool.and_eq_true, Bool.not_eq_true', List.contains_eq_mem,
      decide_eq_false_iff_not, mem_suspended, not_or] at fresh ⊢
    exact ⟨fresh.1, fresh.2.1⟩
  refine ⟨sound.manned, ?held, sound.early, sound.distinct, ?resolved, ?oldest, sound.ordered,
    sound.ended, sound.once, ?waits, ?ahead, sound.behind, sound.accounts⟩
  case held =>
    intro n mem
    rcases mem_suspended.mp mem with held | rfl
    · exact sound.held n held
    · exact early
  case resolved =>
    intro c mem
    refine ⟨(sound.resolved c mem).1, fun held => ?_⟩
    rcases mem_suspended.mp held with held | same
    · exact (sound.resolved c mem).2 held
    · exact other mem same
  case oldest =>
    intro n mem
    rw [mem_suspended] at mem
    have known : r.isOldest n ∧ n ≤ r.received := by
      rcases mem with (held | rfl) | there
      · exact ⟨sound.oldest n (.inl held), Nat.le_of_lt (sound.held n held)⟩
      · exact ⟨oldest, Nat.le_of_lt early⟩
      · obtain ⟨c, mem, rfl⟩ := List.mem_map.mp there
        exact ⟨sound.oldest _ (.inr there), Nat.le_of_lt (sound.early c mem)⟩
    exact isOldest_mono known.1 known.2 fun _ => now
  case waits => exact fun mem kind left => (sound.waits mem kind left).imp fun _ => kept mem
  case ahead =>
    intro p q order meets left
    obtain ⟨x, y, first, second, ahead⟩ := sound.ahead order meets left
    exact ⟨x, y, kept (order.subset (by simp)) first, kept (order.subset (by simp)) second, ahead⟩

section Turn

variable (sound : r.Sound) (found : r.session.handler? number = some h)
  (ready : r.session.isReady (.handler number)) (free : r.isFree number) (host : Host)

include sound found ready

theorem manned_poll : (r.poll number host).session.Manned r.received ∧
    r.session.Spares r.received (some number) (r.poll number host).session :=
  spares_poll sound.manned found ready host

include free in
/-- Others stand where they stood. -/
theorem others_poll (mem : c ∈ r.came) (waits : r.Waits c x) (other : c.number ≠ number) :
    (r.poll number host).Waits c x := by
  obtain ⟨manned, spares⟩ := sound.manned_poll found ready host
  exact waits.spared spares manned (by simpa using other) fun moves =>
    absurd moves (not_or.mpr (sound.idle mem waits free other))

omit ready in
/-- The message that is polled was received. -/
theorem received_poll : number < r.received := by
  obtain ⟨mem, rfl⟩ := Session.mem_of_handler? found
  exact sound.manned.early h mem

/-- Who is polled and has come to an activation goes on, unless its end has come. -/
theorem goes_poll (waits : r.Waits c x) (own : c.number = number)
    (ends : r.session.ending? number = none) :
    ∃ y, (r.poll number host).Waits c y ∧
      x.Goes r.session.broker.managers (r.poll number host).session.broker.managers y := by
  subst own
  exact (waits.goes sound.manned found ready host).resolve_right (· ends)

include free in
/-- Two that have come to an activation stay in their order. -/
theorem ahead_stays (next : r.session.isUnresolved number ∨
      number ∉ r.suspended ∧ r.isNext number)
    (order : [p, q].Sublist r.came) (meets : p.Meets q)
    (left : p.number ∉ (r.poll number host).past) :
    ∃ x y, (r.poll number host).Waits p x ∧ (r.poll number host).Waits q y ∧
      x.Ahead (r.poll number host).session.broker.managers y := by
  obtain ⟨manned, spares⟩ := sound.manned_poll found ready host
  have first_mem : p ∈ r.came := order.subset (by simp)
  have second_mem : q ∈ r.came := order.subset (by simp)
  have apart := sound.apart order
  obtain ⟨x, y, first, second, ahead⟩ := sound.ahead order meets (left_of_poll left)
  by_cases own : p.number = number
  · obtain ⟨z, there, goes⟩ :=
      sound.goes_poll found ready host first own (ending?_of_left (own ▸ left))
    have there' := sound.others_poll found ready free host second_mem second (own ▸ apart.symm)
    exact ⟨z, y, there, there', ahead.goes goes⟩
  have there := sound.others_poll found ready free host first_mem first own
  by_cases also : q.number = number
  · have stays := first.not_ending second apart sound.manned meets.1 ahead
    have turn : ¬ (x = .awaiting ∧ y = .awaiting) := by
      rintro ⟨rfl, rfl⟩
      rw [← also] at next
      refine not_isNext order sound.distinct (a := q.activation) ?_ ?_
        (next.resolve_left (sound.resolved q second_mem).1).2
      · simpa [meets.1] using first.stands.awaited?
      · simpa using second.stands.awaited?
    obtain ⟨z, there', goes⟩ := sound.goes_poll found ready host second also (also ▸ stays)
    exact ⟨x, z, there, there', first.ahead_goes there there' sound.manned manned
      (sound.idle first_mem first free own) turn meets.1 ahead goes⟩
  · have there' := sound.others_poll found ready free host second_mem second also
    exact ⟨x, y, there, there', first.ahead_spared second sound.manned manned spares
      (by simpa using own) there there' ahead⟩

/-- Whoever comes to an activation does so for the first time, and waits there. -/
theorem newcomer : (r.poll number host).came = r.came ∨ r.session.isUnresolved number ∧
    (r.poll number host).past = r.past ∧ ∃ c, (r.poll number host).came = r.came ++ [c] ∧
      c.number = number ∧ c.suspended = r.suspended.contains number ∧
      (c.method.isNotification → (r.poll number host).Waits c .awaiting) := by
  obtain ⟨manned, -⟩ := sound.manned_poll found ready host
  refine (came_poll sound.manned found ready host).imp_right ?_
  rintro ⟨unresolved, c, e, came, rfl, held, waits, looks⟩
  have ends := Session.ending?_of_isUnresolved unresolved
  have past := (past_poll r c.number host).resolve_right fun other => other.1 ends
  refine ⟨unresolved, past.2, c, came, rfl, held, fun kind => ⟨?_, by simp⟩⟩
  exact Session.stands_of_awaited manned waits looks kind c.suspended

/-- Whoever has come to an activation did so before, or in this turn. -/
theorem came_cases (mem : c ∈ (r.poll number host).came) : c ∈ r.came ∨ c.number = number ∧
    r.session.isUnresolved number ∧ (r.poll number host).past = r.past ∧
    (c.method.isNotification → (r.poll number host).Waits c .awaiting) := by
  rcases sound.newcomer found ready host with
    same | ⟨unresolved, past, d, same, own, -, arrives⟩ <;> rw [same] at mem
  · exact .inl mem
  · refine (List.mem_append.mp mem).imp_right fun new => ?_
    rw [List.mem_singleton.mp new]
    exact ⟨own, unresolved, past, arrives⟩

theorem early_poll (mem : c ∈ (r.poll number host).came) : c.number < r.received := by
  rcases sound.came_cases found ready host mem with old | ⟨own, -⟩
  · exact sound.early c old
  · exact own ▸ sound.received_poll found

theorem distinct_poll : ((r.poll number host).came.map (·.number)).Nodup := by
  rcases sound.newcomer found ready host with same | ⟨unresolved, -, d, same, rfl, -, -⟩ <;>
    rw [same]
  · exact sound.distinct
  · rw [List.map_append]
    simpa using List.Nodup.concat (sound.not_come unresolved) sound.distinct

theorem resolved_poll (mem : c ∈ (r.poll number host).came) :
    ¬ (r.poll number host).session.isUnresolved c.number ∧
      c.number ∉ (r.poll number host).suspended := by
  have early := sound.early_poll found ready host mem
  have came := sound.came_cases found ready host mem
  refine ⟨fun fresh => ?_, fun held => ?_⟩
  · obtain ⟨before, other⟩ := isUnresolved_poll sound.manned found ready host early fresh
    rcases came with old | ⟨own, -⟩
    · exact (sound.resolved c old).1 before
    · exact other own
  · obtain ⟨before, other⟩ := (suspended_poll r number host).mp held
    rcases came with old | ⟨own, -⟩
    · exact (sound.resolved c old).2 before
    · exact other own

theorem oldest_poll (order : r.isNew number → r.isOldest number)
    (mem : n ∈ (r.poll number host).suspended ∨ n ∈ (r.poll number host).came.map (·.number)) :
    (r.poll number host).isOldest n := by
  have known : r.isOldest n ∧ n ≤ r.received := by
    rcases mem with held | there
    · have held := ((suspended_poll r number host).mp held).1
      exact ⟨sound.oldest n (.inl held), Nat.le_of_lt (sound.held n held)⟩
    · obtain ⟨c, mem, rfl⟩ := List.mem_map.mp there
      refine ⟨?_, Nat.le_of_lt (sound.early_poll found ready host mem)⟩
      rcases sound.came_cases found ready host mem with old | ⟨own, unresolved, -⟩
      · exact sound.oldest _ (.inr (List.mem_map_of_mem old))
      rw [own]
      by_cases held : number ∈ r.suspended
      · exact sound.oldest _ (.inl held)
      · exact order (by simp [isNew, unresolved, held])
  exact isOldest_mono known.1 known.2 fun early fresh =>
    (isNew_poll sound.manned found ready host early fresh).1

theorem ordered_poll (first : p ∈ (r.poll number host).came)
    (second : q ∈ (r.poll number host).came) (less : p.number < q.number)
    (free : p.suspended = false) : [p, q].Sublist (r.poll number host).came := by
  rcases sound.newcomer found ready host with same | ⟨unresolved, -, d, same, own, held, -⟩ <;>
    rw [same] at first second ⊢
  · exact sound.ordered first second less free
  rw [pair_sublist_concat_iff]
  rcases List.mem_append.mp second with old | last
  · refine .inl ?_
    rcases List.mem_append.mp first with before | last
    · exact sound.ordered before old less free
    · -- it would have been polled before the other one
      obtain rfl := List.mem_singleton.mp last
      have oldest := isOldest_iff.mp (sound.oldest _ (.inr (List.mem_map_of_mem old)))
      have new := oldest _ less
      rw [own] at new
      rw [held] at free
      simp_all [isNew]
  · obtain rfl := List.mem_singleton.mp last
    refine .inr ⟨(List.mem_append.mp first).resolve_right fun also => ?_, rfl⟩
    exact Nat.lt_irrefl _ (List.mem_singleton.mp also ▸ less)

theorem ended_poll (mem : n ∈ (r.poll number host).past) :
    n < r.received ∧ ¬ (r.poll number host).session.isOnWay n := by
  have before (old : n ∈ r.past) :
      n < r.received ∧ ¬ (r.poll number host).session.isOnWay n := by
    obtain ⟨early, gone⟩ := sound.ended n old
    exact ⟨early, fun onWay => gone (isOnWay_poll sound.manned found ready host early onWay).1⟩
  rcases past_poll r number host with ⟨-, same⟩ | ⟨ends, same⟩ <;> rw [same] at mem
  · exact before mem
  rcases List.mem_append.mp mem with old | last
  · exact before old
  · obtain rfl := List.mem_singleton.mp last
    have received := sound.received_poll found
    exact ⟨received, fun onWay =>
      ends ((isOnWay_poll sound.manned found ready host received onWay).2 rfl)⟩

omit found ready in
theorem once_poll : (r.poll number host).past.Nodup := by
  rcases past_poll r number host with ⟨-, same⟩ | ⟨ends, same⟩ <;> rw [same]
  · exact sound.once
  · have new : number ∉ r.past := fun mem =>
      (sound.ended _ mem).2 (Session.isOnWay_of_ending ends)
    simpa using List.Nodup.concat new sound.once

include free in
theorem waits_poll (mem : c ∈ (r.poll number host).came) (kind : c.method.isNotification)
    (left : c.number ∉ (r.poll number host).past) : ∃ x, (r.poll number host).Waits c x := by
  rcases sound.came_cases found ready host mem with old | ⟨-, -, -, arrives⟩
  · obtain ⟨x, waits⟩ := sound.waits old kind (left_of_poll left)
    by_cases own : c.number = number
    · obtain ⟨y, there, -⟩ :=
        sound.goes_poll found ready host waits own (ending?_of_left (own ▸ left))
      exact ⟨y, there⟩
    · exact ⟨x, sound.others_poll found ready free host old waits own⟩
  · exact ⟨_, arrives kind⟩

include free in
/-- Two that have come to an activation, also if the second has just come, stand in their order. -/
theorem ahead_poll (next : r.session.isUnresolved number ∨
      number ∉ r.suspended ∧ r.isNext number)
    (order : [p, q].Sublist (r.poll number host).came) (meets : p.Meets q)
    (left : p.number ∉ (r.poll number host).past) :
    ∃ x y, (r.poll number host).Waits p x ∧ (r.poll number host).Waits q y ∧
      x.Ahead (r.poll number host).session.broker.managers y := by
  rcases sound.newcomer found ready host with same | ⟨unresolved, -, d, same, own, -, arrives⟩ <;>
    rw [same] at order
  · exact sound.ahead_stays found ready free host next order meets left
  rcases pair_sublist_concat_iff.mp order with old | ⟨first, rfl⟩
  · exact sound.ahead_stays found ready free host next old meets left
  obtain ⟨x, waits⟩ := sound.waits first meets.2.1 (left_of_poll left)
  have other : p.number ≠ number := fun same =>
    sound.not_come unresolved (same ▸ List.mem_map_of_mem first)
  refine ⟨x, .awaiting, sound.others_poll found ready free host first waits other,
    arrives meets.2.2, ?_⟩
  have idle := sound.idle first waits free other
  cases x with
  | awaiting => exact .awaiting
  | queued => exact .queued (.inr rfl)
  | entering | leaving => simp at idle

omit found ready in
/-- The second of two does not come to its end in this turn while the first has not. -/
theorem behind_stays (order : [p, q].Sublist r.came) (meets : p.Meets q)
    (gone : q.number ∈ (r.poll number host).past) :
    [p.number, q.number].Sublist (r.poll number host).past := by
  rcases past_poll r number host with ⟨-, same⟩ | ⟨ends, same⟩ <;> rw [same] at gone ⊢
  · exact sound.behind order meets gone
  rw [pair_sublist_concat_iff]
  refine (List.mem_append.mp gone).imp (sound.behind order meets) fun last => ?_
  have own := List.mem_singleton.mp last
  refine ⟨by_contra fun left => ends ?_, own⟩
  obtain ⟨x, y, first, second, ahead⟩ := sound.ahead order meets left
  exact own ▸ first.not_ending second (sound.apart order) sound.manned meets.1 ahead

theorem behind_poll (order : [p, q].Sublist (r.poll number host).came) (meets : p.Meets q)
    (gone : q.number ∈ (r.poll number host).past) :
    [p.number, q.number].Sublist (r.poll number host).past := by
  rcases sound.newcomer found ready host with same | ⟨unresolved, past, d, same, own, -⟩ <;>
    rw [same] at order
  · exact sound.behind_stays host order meets gone
  rcases pair_sublist_concat_iff.mp order with old | ⟨first, rfl⟩
  · exact sound.behind_stays host old meets gone
  · rw [past, own] at gone
    exact absurd (Session.isOnWay_of_isUnresolved unresolved) (sound.ended _ gone).2

/-- What is written in the turn in which a notification comes to its end. -/
theorem accounts_ending (mem : c ∈ r.came) (kind : c.method.isNotification)
    (own : c.number = number) {ending : Ending} (ends : r.session.ending? number = some ending) :
    (⟨number, ending, (r.poll number host).session.broker.site.journal.drop
      r.session.broker.site.journal.length⟩ : Passing).Accounts
        (r.poll number host).session.broker c := by
  subst own
  have onWay := Session.isOnWay_of_ending (s := r.session) (n := c.number) (by simp [ends])
  obtain ⟨x, waits⟩ := sound.waits mem kind fun gone => (sound.ended _ gone).2 onWay
  have before := r.before_ushers host
  have here := before.manned sound.manned
  have polled := polled_before found ready host
  have back := Session.Ushers.inHost ((r.before host).act (.handler c.number))
    r.session.broker.site.host
  have stands := waits.stands.spared (before.spares sound.manned r.received) here (by simp)
  obtain ⟨news, written, accounts⟩ := stands.accounts found polled ends
  have journal : (r.poll c.number host).session.broker.site.journal =
      r.session.broker.site.journal ++ news := written
  rw [journal, List.drop_left]
  exact (accounts.leads (polled.leads here (Session.mem_of_handler? found).1)).leads back.leads

theorem accounts_poll {x : Passing} (mem : x ∈ (r.poll number host).passed)
    (there : c ∈ (r.poll number host).came) (own : c.number = x.number)
    (kind : c.method.isNotification) : x.Accounts (r.poll number host).session.broker c := by
  obtain ⟨-, spares⟩ := sound.manned_poll found ready host
  rcases sound.came_cases found ready host there with old | ⟨here, unresolved, past, -⟩
  · rcases List.mem_append.mp mem with before | new
    · exact (sound.accounts x before c old own kind).leads spares.leads
    · obtain ⟨ending, ends, rfl⟩ := List.mem_map.mp new
      exact sound.accounts_ending found ready host old kind own (Option.mem_toList.mp ends)
  · have gone : x.number ∈ (r.poll number host).past := List.mem_map_of_mem mem
    rw [past, ← own, here] at gone
    exact absurd (Session.isOnWay_of_isUnresolved unresolved) (sound.ended _ gone).2

include free in
/-- A message is polled. -/
theorem poll (order : r.isNew number → r.isOldest number)
    (next : r.session.isUnresolved number ∨ number ∉ r.suspended ∧ r.isNext number) :
    (r.poll number host).Sound where
  manned := (sound.manned_poll found ready host).1
  held n mem := sound.held n ((suspended_poll r number host).mp mem).1
  early _ := sound.early_poll found ready host
  distinct := sound.distinct_poll found ready host
  resolved _ := sound.resolved_poll found ready host
  oldest _ := sound.oldest_poll found ready host order
  ordered := sound.ordered_poll found ready host
  ended _ := sound.ended_poll found ready host
  once := sound.once_poll host
  waits := sound.waits_poll found ready free host
  ahead := sound.ahead_poll found ready free host next
  behind := sound.behind_poll found ready host
  accounts _ mem _ := sound.accounts_poll found ready host mem

end Turn

theorem move (sound : r.Sound) (next : Move) : (r.move next).Sound := by
  have step := step_move sound.manned next
  generalize r.move next = t at step
  cases step with
  | aside manned spares received same => exact sound.aside manned spares received same
  | suspend new oldest free => exact sound.suspend new oldest free
  | poll found ready free order next => exact sound.poll found ready free _ order next

theorem run (sound : r.Sound) (moves : List Move) : (r.run moves).Sound :=
  run_induction (fun _ next before => before.move next) sound moves

/-- Two of one activation that came to their ends one after the other. -/
theorem passed_in_order (sound : r.Sound) (order : [p, q].Sublist r.came) (meets : p.Meets q)
    (gone : q.number ∈ r.past) : ∃ x y, [x, y].Sublist r.passed ∧ x.number = p.number ∧
      y.number = q.number ∧ x.Accounts r.session.broker p ∧ y.Accounts r.session.broker q := by
  obtain ⟨ends, inside, numbers⟩ := List.sublist_map_iff.mp (sound.behind order meets gone)
  obtain ⟨x, rest, rfl, first, numbers⟩ := List.map_eq_cons_iff.mp numbers.symm
  obtain ⟨y, rest, rfl, second, numbers⟩ := List.map_eq_cons_iff.mp numbers
  obtain rfl := List.map_eq_nil_iff.mp numbers
  have member {c : Coming} (mem : c ∈ [p, q]) : c ∈ r.came := order.subset mem
  exact ⟨x, y, inside, first, second,
    sound.accounts x (inside.subset (by simp)) p (member (by simp)) first.symm meets.2.1,
    sound.accounts y (inside.subset (by simp)) q (member (by simp)) second.symm meets.2.2⟩

/-- If the second is told to a server, then the first was told before or turned away. -/
theorem told_in_order (sound : r.Sound) (order : [p, q].Sublist r.came) (meets : p.Meets q)
    (told : q.number ∈ r.told) : [p.number, q.number].Sublist r.told ∨
      ∃ x ∈ r.passed, x.number = p.number ∧ x.ending.isRefusal := by
  obtain ⟨z, mem, own⟩ := List.mem_map.mp told
  obtain ⟨mem, told⟩ := List.mem_filter.mp mem
  obtain ⟨x, y, inside, first, second, before, after⟩ :=
    sound.passed_in_order order meets (own ▸ List.mem_map_of_mem mem)
  have y_mem : y ∈ r.passed := inside.subset (by simp)
  obtain rfl : y = z :=
    List.inj_on_of_nodup_map sound.once y_mem mem (second.trans own.symm)
  cases kind : x.ending with
  | told server =>
    have both : [x, y].Sublist (r.passed.filter (·.ending.isTold)) := by
      have first_told : x.ending.isTold := by rw [kind]; rfl
      have kept := inside.filter (·.ending.isTold)
      rwa [List.filter_eq_self.mpr (by simp [first_told, told])] at kept
    have numbers : [x.number, y.number].Sublist r.told := both.map _
    exact .inl (first ▸ second ▸ numbers)
  | unserved | withheld =>
    exact .inr ⟨x, inside.subset (by simp), first, by simp [kind, Ending.isRefusal]⟩
  | failed cause =>
    obtain ⟨-, failed⟩ := before
    obtain ⟨-, result⟩ := after
    simp only [kind] at failed
    cases ending : y.ending <;> simp_all [Ending.isTold, Coming.Meets]

end Sound

/-- Of two notifications that were received in order and came to one activation, servers are told in
that order, whatever happens to them meanwhile. -/
def TellsInOrder (r : Reception) : Prop :=
  ∀ p ∈ r.came, ∀ q ∈ r.came, p.number < q.number → p.Meets q → q.number ∈ r.told →
    [p.number, q.number].Sublist r.told

instance (p q : Coming) : Decidable (p.Meets q) :=
  inferInstanceAs (Decidable (p.activation = q.activation ∧ _ ∧ _))

instance (r : Reception) : Decidable r.TellsInOrder :=
  inferInstanceAs (Decidable (∀ p ∈ r.came, ∀ q ∈ r.came, p.number < q.number → p.Meets q →
    q.number ∈ r.told → [p.number, q.number].Sublist r.told))

/-- One folder is open. -/
def oneFolder : Host :=
  { Broker.fullHost with
    folders := [Broker.outerFolder]
    interpreter := fun _ => .ok (some Broker.python) }

/-- A notification of the folder's file. -/
def noticed (method : String) (about : List (String × Json)) : Message where
  method := "textDocument/" ++ method
  params := some (.obj (about ++
    [("textDocument", .obj [("languageId", .str "python"), ("text", .str ""),
      ("uri", .str "file:///a/x.py"), ("version", .int 1)])]))

/-- The session begins, and the file is opened. -/
def beginning : List Move :=
  [.receive ⟨some (.int 1), "initialize", some (.obj [("capabilities", .obj [])])⟩,
    .receive (noticed "didOpen" [])]

/-- The server of the activation is made. -/
def activating : List Move := List.replicate 10 (.broker (.activation 0))

/-- The server is restarted after a change, and a notification comes meanwhile. The new server takes
half a second to start, and may fail to. -/
def restarting (failure : Option BackendError) (number : Nat) (message : Message) : List Move :=
  [.change (fun _ => oneFolder) (fun _ => { startDelay := 500, startFailure := failure }),
    .announce .interpreter, .broker (.manager 0 (.options .listen)),
    .broker (.manager 0 .forward), .wait 1000] ++
  List.replicate 5 (.broker (.manager 0 .restart)) ++
  .receive message :: List.replicate 5 (.poll number) ++
  .wait 500 :: List.replicate 3 (.broker (.manager 0 .restart)) ++ List.replicate 5 (.poll number)

/-- The file is changed while the server is restarted, which fails, and saved during another
restart, which succeeds. -/
def betweenRestarts : List Move :=
  beginning ++ .poll 1 :: activating ++ List.replicate 9 (.poll 1) ++
    restarting (some .notStarted) 2 (noticed "didChange" [("contentChanges", .arr [])]) ++
    restarting none 3 (noticed "didSave" [])

/-- The interpreter of the opened file is still looked for when the one of the changed file has been
found. -/
def behindInterpreter : List Move :=
  beginning ++
    [.suspend 1, .receive (noticed "didChange" [("contentChanges", .arr [])]), .poll 2] ++
    activating ++ List.replicate 9 (.poll 2) ++ .resolve 1 oneFolder :: List.replicate 9 (.poll 1)

def inOneFolder : Reception := opening {} (fun _ => oneFolder) (fun _ => {}) {}

end Reception

end Editor

end LanguageBroker
