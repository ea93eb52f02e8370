import LanguageBroker.Proofs.CaptureBudget

/-!
The rate limit beside one that forgets nothing. The window keeps the time at which it began, a count
and one time for each method; the other limiter keeps every call that ever asked and what was
decided. Both decide alike, whatever the order of the calls' times: the one time kept for a method
is the latest of all its admitted calls, and a call that is refused leaves only the window behind
that it may have opened.
-/

namespace LanguageBroker.CaptureWindow

/-- A call that has asked, and whether it was admitted. -/
structure Decision where
  call : Candidate
  admitted : Bool

/-- All that was ever decided, the latest first. -/
abbrev History := List Decision

namespace History

variable {limits : CaptureLimits} {past : History} {method m : Method} {debounce now t : Nat}

/-- When the window began that was in force at the end. The first call opens one, and so does every
call beyond the end of the window in force. -/
def start? (limits : CaptureLimits) : History → Option Nat
  | [] => none
  | d :: earlier =>
    match start? limits earlier with
    | none => some d.call.start
    | some t => if t + limits.window < d.call.start then some d.call.start else some t

/-- Does a call that began at `now` open a window? -/
def opens (limits : CaptureLimits) (past : History) (now : Nat) : Bool :=
  (past.start? limits).all fun t => t + limits.window < now

/-- What was decided in the window in force, from the call on that opened it. -/
def inWindow (limits : CaptureLimits) : History → History
  | [] => []
  | d :: earlier =>
    if opens limits earlier d.call.start then [d] else d :: inWindow limits earlier

/-- What was decided before a call in the window that the call counts in. -/
def beside (limits : CaptureLimits) (past : History) (now : Nat) : History :=
  if past.opens limits now then [] else past.inWindow limits

/-- The rule of the limiter: the window has room, and every call of the method that was ever
admitted began more than the debounce earlier. -/
def Admits (limits : CaptureLimits) (past : History) (c : Candidate) : Prop :=
  (past.beside limits c.start).countP (·.admitted) < limits.limit ∧
    ∀ d ∈ past, d.admitted → d.call.method = c.method → d.call.start + c.debounce < c.start

instance (limits : CaptureLimits) (past : History) (c : Candidate) :
    Decidable (past.Admits limits c) := inferInstanceAs (Decidable (_ ∧ _))

/-- Decides one call after the other. -/
def decideAll (limits : CaptureLimits) : History → List Candidate → List Bool
  | _, [] => []
  | past, c :: later =>
    let admitted := decide (past.Admits limits c)
    admitted :: decideAll limits (⟨c, admitted⟩ :: past) later

/-- When the admitted calls of a method began. -/
def starts (past : History) (m : Method) : List Nat :=
  (past.filter fun d => d.admitted && d.call.method = m).map (·.call.start)

theorem mem_starts : t ∈ past.starts m ↔
    ∃ d ∈ past, d.admitted ∧ d.call.method = m ∧ d.call.start = t := by
  simp [starts, and_assoc]

theorem starts_cons (d : Decision) (past : History) (m : Method) :
    starts (d :: past) m =
      if d.admitted ∧ d.call.method = m then d.call.start :: past.starts m else past.starts m := by
  by_cases counts : d.admitted = true ∧ d.call.method = m
  · simp [starts, counts]
  · have skipped : (d.admitted && decide (d.call.method = m)) = false := by simpa using counts
    simp [starts, counts, skipped]

theorem start?_cons (d : Decision) (past : History) :
    start? limits (d :: past) =
      if past.opens limits d.call.start then some d.call.start else past.start? limits := by
  cases began : past.start? limits <;> simp [start?, opens, began]

theorem inWindow_cons (d : Decision) (past : History) :
    inWindow limits (d :: past) = d :: past.beside limits d.call.start := by
  simp only [inWindow, beside]
  split <;> rfl

end History

/-- The window holds what the limiter needs to know of all that was decided. -/
structure Remembers (w : CaptureWindow) (limits : CaptureLimits) (past : History) : Prop where
  start : w.start = past.start? limits
  sent : w.sent = (past.inWindow limits).countP (·.admitted)
  /-- The time kept for a method is the latest of its admitted calls. -/
  last : ∀ m, w.last.lookup m = (past.starts m).max?

theorem remembers_empty (limits : CaptureLimits) : Remembers {} limits [] :=
  ⟨rfl, rfl, fun _ => rfl⟩

namespace Remembers

variable {w : CaptureWindow} {limits : CaptureLimits} {past : History}

theorem expired (h : w.Remembers limits past) (now : Nat) :
    w.expired now limits = past.opens limits now := by
  cases began : past.start? limits <;>
    simp [CaptureWindow.expired, History.opens, h.start, began]

theorem sent_current (h : w.Remembers limits past) (now : Nat) :
    (w.current now limits).sent = (past.beside limits now).countP (·.admitted) := by
  simp only [CaptureWindow.current, h.expired, History.beside]
  split
  · rfl
  · exact h.sent

/-- To look at the latest admitted call of a method is to look at all of them. -/
theorem tooSoon_iff (h : w.Remembers limits past) (now : Nat) (c : Candidate) :
    (w.current now limits).tooSoon c.method c.debounce c.start = false ↔
      ∀ d ∈ past, d.admitted → d.call.method = c.method → d.call.start + c.debounce < c.start := by
  have all : (∀ d ∈ past, d.admitted → d.call.method = c.method →
      d.call.start + c.debounce < c.start) ↔
        ∀ t ∈ past.starts c.method, t + c.debounce < c.start := by
    simp only [History.mem_starts]
    exact ⟨fun each t ⟨d, there, taken, own, same⟩ => same ▸ each d there taken own,
      fun each d there taken own => each _ ⟨d, there, taken, own, rfl⟩⟩
  rw [all, tooSoon, current_last, h.last]
  cases latest : (past.starts c.method).max? with
  | none => simp [List.max?_eq_none_iff.mp latest]
  | some t =>
    obtain ⟨there, greatest⟩ := List.max?_eq_some_iff.mp latest
    simp only [decide_eq_false_iff_not, Nat.not_le]
    constructor
    · intro far s among
      have := greatest s among
      omega
    · intro each
      have := each t there
      omega

theorem admits_iff (h : w.Remembers limits past) (c : Candidate) :
    past.Admits limits c ↔ (w.current c.start limits).sent < limits.limit ∧
      (w.current c.start limits).tooSoon c.method c.debounce c.start = false := by
  rw [h.sent_current, h.tooSoon_iff]
  rfl

/-- The window decides by the limiter's rule. -/
theorem offer_eq (h : w.Remembers limits past) (c : Candidate) :
    w.offer c.method c.debounce c.start limits =
      if past.Admits limits c then ((w.current c.start limits).record c.method c.start, true)
      else (w.current c.start limits, false) := by
  simp only [h.admits_iff, CaptureWindow.offer]
  by_cases full : (w.current c.start limits).sent ≥ limits.limit
  · simp [full, Nat.not_lt.mpr full]
  · cases soon : (w.current c.start limits).tooSoon c.method c.debounce c.start <;>
      simp [full, Nat.lt_of_not_le full]

theorem start_current (h : w.Remembers limits past) (c : Candidate) (admitted : Bool) :
    (w.current c.start limits).start = History.start? limits (⟨c, admitted⟩ :: past) := by
  rw [History.start?_cons, CaptureWindow.current, h.expired]
  split
  · rfl
  · exact h.start

/-- A call that is refused may have opened a window. -/
theorem refuse (h : w.Remembers limits past) (c : Candidate) :
    (w.current c.start limits).Remembers limits (⟨c, false⟩ :: past) where
  start := h.start_current c false
  sent := by simp [History.inWindow_cons, h.sent_current]
  last m := by simp [History.starts_cons, h.last]

/-- A call that is admitted is later than every admitted one of its method. -/
theorem accept (h : w.Remembers limits past) {c : Candidate} (room : past.Admits limits c) :
    ((w.current c.start limits).record c.method c.start).Remembers limits (⟨c, true⟩ :: past) where
  start := h.start_current c true
  sent := by simp [record, History.inWindow_cons, h.sent_current]
  last m := by
    rw [lookup_record, History.starts_cons, current_last, h.last]
    by_cases own : m = c.method
    · subst own
      simp only [and_self, if_true]
      refine (List.max?_eq_some_iff.mpr ⟨List.mem_cons_self, fun t there => ?_⟩).symm
      rcases List.mem_cons.mp there with rfl | among
      · exact Nat.le_refl _
      · obtain ⟨d, mem, taken, same, rfl⟩ := History.mem_starts.mp among
        have := room.2 d mem taken same
        omega
    · simp [own, Ne.symm own]

/-- One call more is offered. -/
theorem offer (h : w.Remembers limits past) (c : Candidate) :
    (w.offer c.method c.debounce c.start limits).2 = decide (past.Admits limits c) ∧
      (w.offer c.method c.debounce c.start limits).1.Remembers limits
        (⟨c, decide (past.Admits limits c)⟩ :: past) := by
  rw [h.offer_eq]
  by_cases room : past.Admits limits c
  · simpa [room] using h.accept room
  · simpa [room] using h.refuse c

theorem offerAll (h : w.Remembers limits past) (offers : List Candidate) :
    (CaptureWindow.offerAll limits w offers).2 = past.decideAll limits offers := by
  induction offers generalizing w past with
  | nil => rfl
  | cons c later ih =>
    obtain ⟨same, rest⟩ := h.offer c
    simp only [CaptureWindow.offerAll, History.decideAll]
    rw [same, ih rest]

end Remembers

/-- Calls of any methods and any debounces, offered to a new window in any order of their times, are
decided as by the limiter that remembers every call that has asked. -/
theorem decisions_of_whole_history (limits : CaptureLimits) (offers : List Candidate) :
    (offerAll limits {} offers).2 = History.decideAll limits [] offers :=
  (remembers_empty limits).offerAll offers

/-- After the call of time 8 one of time 5 comes too late for its own method, but not for another
one. The call of time 19 is refused and opens a window all the same, so those of time 12 find room
in it; the first of them is too soon after the call of time 8, by its own debounce. -/
example : History.decideAll ⟨10, 2⟩ []
    [⟨.hover, 3, 8⟩, ⟨.hover, 3, 5⟩, ⟨.rename, 9, 5⟩, ⟨.hover, 20, 19⟩, ⟨.hover, 4, 12⟩,
      ⟨.hover, 3, 12⟩] = [true, false, true, false, false, true] := by decide

end LanguageBroker.CaptureWindow
