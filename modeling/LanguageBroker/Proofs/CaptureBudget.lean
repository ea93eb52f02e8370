import LanguageBroker.Proofs.CallReports

/-!
How many calls one rate limit lets through. Calls are offered in the order in which they end, so
the times at which they began go up and down, and one that is refused may have opened a window all
the same. What bounds the number is where the windows begin: each lies more than a window's length
beyond the one before it, and in each there is room for `limit` reports.
-/

namespace LanguageBroker.CaptureWindow

variable {w : CaptureWindow} {limits : CaptureLimits} {low high now admitted : Nat}

/-- A call that asks to be reported. -/
structure Candidate where
  method : Method
  debounce : Nat
  start : Nat

/-- Offers one call after the other: the window after them, and which of them were admitted. -/
def offerAll (limits : CaptureLimits) (w : CaptureWindow) :
    List Candidate → CaptureWindow × List Bool
  | [] => (w, [])
  | c :: later =>
    let (next, taken) := w.offer c.method c.debounce c.start limits
    let (last, others) := offerAll limits next later
    (last, taken :: others)

/-- What was admitted so far has room in the windows that are over and in the one in force. A
window that begins at `t` is preceded by at most one for each `window + 1` units since `low`. -/
structure InBudget (w : CaptureWindow) (limits : CaptureLimits) (low high admitted : Nat) :
    Prop where
  sent : w.sent ≤ limits.limit
  unopened : w.start = none → admitted = 0
  opened : ∀ {t}, w.start = some t → low ≤ t ∧ t ≤ high ∧
    admitted ≤ limits.limit * ((t - low) / (limits.window + 1)) + w.sent

theorem inBudget_empty : InBudget {} limits low high 0 := by
  constructor <;> simp

/-- Only a window with room left takes a report. -/
theorem sent_lt_of_offer {method : Method} {debounce : Nat}
    (taken : (w.offer method debounce now limits).2) :
    (w.current now limits).sent < limits.limit := by
  by_contra full
  simp [offer, Nat.le_of_not_lt full] at taken

/-- The window before one that begins at `now` began a whole length and more before. -/
theorem succ_div_le {t size : Nat} (after : low ≤ t) (beyond : t + size < now) :
    (t - low) / (size + 1) + 1 ≤ (now - low) / (size + 1) := by
  rw [← Nat.add_div_right _ (Nat.succ_pos size)]
  exact Nat.div_le_div_right (by omega)

namespace InBudget

/-- A window that has passed leaves its whole room to the account. -/
theorem current (h : w.InBudget limits low high admitted) (after : low ≤ now)
    (before : now ≤ high) :
    (w.current now limits).InBudget limits low high admitted := by
  by_cases lapsed : w.expired now limits
  · have fresh : w.current now limits = { w with start := some now, sent := 0 } := by
      simp [CaptureWindow.current, lapsed]
    rw [fresh]
    refine ⟨Nat.zero_le _, by simp, fun began => ?_⟩
    obtain rfl := Option.some.inj began
    refine ⟨after, before, ?_⟩
    cases start : w.start with
    | none => simp [h.unopened start]
    | some t =>
      obtain ⟨from_low, -, account⟩ := h.opened start
      have beyond : t + limits.window < now := by simpa [expired, start] using lapsed
      calc admitted
        _ ≤ limits.limit * ((t - low) / (limits.window + 1)) + w.sent := account
        _ ≤ limits.limit * ((t - low) / (limits.window + 1)) + limits.limit :=
          Nat.add_le_add_left h.sent _
        _ = limits.limit * ((t - low) / (limits.window + 1) + 1) := rfl
        _ ≤ limits.limit * ((now - low) / (limits.window + 1)) :=
          Nat.mul_le_mul_left _ (succ_div_le from_low beyond)
  · simpa [CaptureWindow.current, lapsed] using h

/-- One call more is offered. -/
theorem offer (h : w.InBudget limits low high admitted) (c : Candidate) (after : low ≤ c.start)
    (before : c.start ≤ high) :
    (w.offer c.method c.debounce c.start limits).1.InBudget limits low high
      (admitted + (w.offer c.method c.debounce c.start limits).2.toNat) := by
  have here := h.current after before
  rcases w.offer_cases c.method c.debounce c.start limits with same | same
  · simpa [same] using here
  · have room := sent_lt_of_offer (w := w) (by rw [same])
    have began := current_start w c.start limits
    obtain ⟨from_low, to_high, account⟩ := here.opened began
    simp only [same, Bool.toNat_true]
    refine ⟨room, fun none => ?_, fun {t} start => ?_⟩
    · simp [record, began] at none
    · obtain rfl : w.opened c.start limits = t := by simpa [record, began] using start
      exact ⟨from_low, to_high, Nat.add_le_add_right account 1⟩

/-- Any number of calls more are offered. -/
theorem offerAll (h : w.InBudget limits low high admitted) (offers : List Candidate)
    (near : ∀ c ∈ offers, low ≤ c.start ∧ c.start ≤ high) :
    (CaptureWindow.offerAll limits w offers).1.InBudget limits low high
      (admitted + (CaptureWindow.offerAll limits w offers).2.count true) := by
  induction offers generalizing w admitted with
  | nil => simpa [CaptureWindow.offerAll] using h
  | cons c later ih =>
    obtain ⟨after, before⟩ := near c List.mem_cons_self
    have rest := ih (h.offer c after before) fun d there => near d (List.mem_cons_of_mem c there)
    have count (taken : Bool) (others : List Bool) :
        (taken :: others).count true = taken.toNat + others.count true := by
      cases taken <;> simp [Nat.add_comm]
    rw [CaptureWindow.offerAll, count, ← Nat.add_assoc]
    exact rest

/-- No more was admitted than the windows have room for that find a place from `low` to `high`. -/
theorem admitted_le (h : w.InBudget limits low high admitted) :
    admitted ≤ limits.limit * ((high - low) / (limits.window + 1) + 1) := by
  cases start : w.start with
  | none => simp [h.unopened start]
  | some t =>
    obtain ⟨-, to_high, account⟩ := h.opened start
    calc admitted
      _ ≤ limits.limit * ((t - low) / (limits.window + 1)) + w.sent := account
      _ ≤ limits.limit * ((t - low) / (limits.window + 1)) + limits.limit :=
        Nat.add_le_add_left h.sent _
      _ = limits.limit * ((t - low) / (limits.window + 1) + 1) := rfl
      _ ≤ limits.limit * ((high - low) / (limits.window + 1) + 1) :=
        Nat.mul_le_mul_left _ (Nat.succ_le_succ (Nat.div_le_div_right (by omega)))

end InBudget

/-- Of calls that began within a time of `span`, offered in any order to a new window of a positive
length, at most `limit` are admitted for each whole window in that time and for one more; and at no
moment does the count of the window in force exceed the limit. -/
theorem admissions_in_span (limits : CaptureLimits) (opens : 0 < limits.window) (low span : Nat)
    (offers : List Candidate) (near : ∀ c ∈ offers, low ≤ c.start ∧ c.start ≤ low + span) :
    (offerAll limits {} offers).2.count true ≤ limits.limit * (span / limits.window + 1) ∧
      ∀ past later, offers = past ++ later → (offerAll limits {} past).1.sent ≤ limits.limit := by
  refine ⟨?_, ?_⟩
  · have opening : InBudget {} limits low (low + span) 0 := inBudget_empty
    have budget := (opening.offerAll offers near).admitted_le
    rw [Nat.zero_add, Nat.add_sub_cancel_left] at budget
    calc (offerAll limits {} offers).2.count true
      _ ≤ limits.limit * (span / (limits.window + 1) + 1) := budget
      _ ≤ limits.limit * (span / limits.window + 1) :=
        Nat.mul_le_mul_left _ (Nat.succ_le_succ (Nat.div_le_div_left (Nat.le_succ _) opens))
  · rintro past later rfl
    have near_past : ∀ c ∈ past, low ≤ c.start ∧ c.start ≤ low + span := fun c there =>
      near c (List.mem_append_left later there)
    exact (inBudget_empty.offerAll past near_past).sent

/-- Three windows of ten units with room for one report each. The call of time 5 comes too late,
when the call of time 11 has opened the second window; the others are as many as the bound
allows. -/
theorem admissions_in_three_windows :
    let limits : CaptureLimits := ⟨10, 1⟩
    let offers : List Candidate :=
      [⟨.hover, 3, 0⟩, ⟨.hover, 3, 11⟩, ⟨.rename, 3, 5⟩, ⟨.hover, 3, 22⟩]
    0 < limits.window ∧ (∀ c ∈ offers, 0 ≤ c.start ∧ c.start ≤ 0 + 22) ∧
      (offerAll limits {} offers).2 = [true, true, false, true] ∧
      (offerAll limits {} offers).2.count true ≤ limits.limit * (22 / limits.window + 1) ∧
      limits.limit * (22 / limits.window + 1) = 3 ∧
      ∀ past later, offers = past ++ later → (offerAll limits {} past).1.sent ≤ limits.limit := by
  intro limits offers
  have opens : 0 < limits.window := by decide
  have near : ∀ c ∈ offers, 0 ≤ c.start ∧ c.start ≤ 0 + 22 := by decide
  obtain ⟨bound, sent⟩ := admissions_in_span limits opens 0 22 offers near
  exact ⟨opens, near, by decide, bound, by decide, sent⟩

end LanguageBroker.CaptureWindow
