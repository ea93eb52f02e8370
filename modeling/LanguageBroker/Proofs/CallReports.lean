import LanguageBroker.Middleware.Passage
import LanguageBroker.Proofs.KeyedLists
import Mathlib.Data.List.Induction

/-!
What one middleware tells of the calls that it has answered. Calls come, go on and end in any
order, some are given up, and meanwhile the gate is opened and closed and the selector replaced. A
call is told of at most once, and only if it had passed the gate, had reached the server and did
not fail. The rate limit sees the calls in the order in which they end but reckons with the times
at which they began; so its two bounds are kept as facts about the reports that were made, and the
window is an account of those.
-/

namespace LanguageBroker

/-- A report on a call, as the middleware made it. -/
structure CallReport where
  /-- Which call, in the order in which they came. -/
  call : Nat
  method : Method
  start : Nat
  /-- When the window began that the report counts in. -/
  window : Nat
  event : TelemetryEvent

namespace CaptureWindow

variable {w : CaptureWindow} {limits : CaptureLimits} {table : MethodTable}
variable {reports : List CallReport} {method : Method} {start debounce : Nat}

/-- When the window began that is in force at `now`. -/
def opened (w : CaptureWindow) (now : Nat) (limits : CaptureLimits) : Nat :=
  match w.start with
  | none => now
  | some t => if now > t + limits.window then now else t

/-- Do the limits have room for one more report on a call of `method` that began at `start`? -/
def Admits (w : CaptureWindow) (limits : CaptureLimits) (reports : List CallReport)
    (method : Method) (start debounce : Nat) : Prop :=
  (reports.countP fun r => r.window = w.opened start limits) < limits.limit ∧
    ∀ r ∈ reports, r.method = method → r.start + debounce < start

/-- The window is the account of the reports made so far, and these keep to the limits. -/
structure Accounts (w : CaptureWindow) (limits : CaptureLimits) (table : MethodTable)
    (reports : List CallReport) : Prop where
  /-- As many reports were sent in the window as count in it. -/
  sent : ∀ {t}, w.start = some t → w.sent = reports.countP fun r => r.window = t
  /-- A report counts in the window or in one that was over when the window began. -/
  past : ∀ r ∈ reports, ∃ t, w.start = some t ∧ (r.window = t ∨ r.window + limits.window < t)
  /-- What is noted as the last report of a method is one. -/
  noted : ∀ {m t}, w.last.lookup m = some t → ∃ r ∈ reports, r.method = m ∧ r.start = t
  /-- No report of the method is of a later call than the one noted. -/
  latest : ∀ r ∈ reports, ∃ t, w.last.lookup r.method = some t ∧ r.start ≤ t
  spaced : reports.Pairwise fun r later => r.method = later.method →
    ∀ debounce, (table.rule r.method).debounce = some debounce → r.start + debounce < later.start
  room : ∀ t, (reports.countP fun r => r.window = t) ≤ limits.limit
  within : ∀ r ∈ reports, r.start ≤ r.window + limits.window
  apart : reports.Pairwise fun r later =>
    r.window = later.window ∨ r.window + limits.window < later.window

theorem accounts_empty : Accounts {} limits table [] := by
  constructor <;> simp

theorem current_start (w : CaptureWindow) (now : Nat) (limits : CaptureLimits) :
    (w.current now limits).start = some (w.opened now limits) := by
  cases start : w.start with
  | none => simp [current, expired, opened, start]
  | some t =>
    by_cases beyond : now > t + limits.window <;>
      simp [current, expired, opened, start, beyond]

@[simp] theorem current_last (w : CaptureWindow) (now : Nat) (limits : CaptureLimits) :
    (w.current now limits).last = w.last := by
  unfold current
  split <;> rfl

theorem le_opened (w : CaptureWindow) (now : Nat) (limits : CaptureLimits) :
    now ≤ w.opened now limits + limits.window := by
  unfold opened
  split
  · omega
  · split <;> omega

theorem lookup_record (w : CaptureWindow) (method m : Method) (now : Nat) :
    (w.record method now).last.lookup m = if m = method then some now else w.last.lookup m := by
  by_cases same : m = method
  · simp [record, same]
  · simp only [record, List.lookup_cons, beq_false_of_ne same, same, if_false]
    rw [lookup_filter_key fun other => decide (other ≠ method)]
    exact if_pos (decide_eq_true same)

/-- What is offered is refused or noted in the window in force. -/
theorem offer_cases (w : CaptureWindow) (method : Method) (debounce now : Nat)
    (limits : CaptureLimits) :
    w.offer method debounce now limits = (w.current now limits, false) ∨
      w.offer method debounce now limits = ((w.current now limits).record method now, true) := by
  simp only [offer]
  split
  · exact .inl rfl
  · split
    · exact .inl rfl
    · exact .inr rfl

namespace Accounts

/-- A new window begins after the end of the last one, and nothing counts in it yet. -/
theorem current (h : w.Accounts limits table reports) (now : Nat) :
    (w.current now limits).Accounts limits table reports := by
  by_cases ended : w.expired now limits
  · have began : (w.current now limits).start = some now ∧ (w.current now limits).sent = 0 := by
      simp [CaptureWindow.current, ended]
    have later : ∀ r ∈ reports, r.window + limits.window < now := by
      intro r made
      obtain ⟨t, start, here⟩ := h.past r made
      simp only [expired, start, decide_eq_true_eq] at ended
      omega
    constructor
    · intro t start
      obtain rfl : now = t := by simpa [began.1] using start
      rw [began.2, eq_comm, List.countP_eq_zero]
      intro r made
      have := later r made
      simp only [decide_eq_true_eq]
      omega
    · exact fun r made => ⟨now, began.1, .inr (later r made)⟩
    · intro m t last
      exact h.noted (by simpa using last)
    · simpa using h.latest
    · exact h.spaced
    · exact h.room
    · exact h.within
    · exact h.apart
  · simpa [CaptureWindow.current, ended] using h

theorem tooSoon_iff (h : w.Accounts limits table reports) (method : Method)
    (debounce start : Nat) :
    w.tooSoon method debounce start = false ↔
      ∀ r ∈ reports, r.method = method → r.start + debounce < start := by
  unfold tooSoon
  cases last : w.last.lookup method with
  | none =>
    simp only [true_iff]
    intro r made rfl
    obtain ⟨t, found, -⟩ := h.latest r made
    simp [last] at found
  | some t =>
    obtain ⟨r, made, rfl, rfl⟩ := h.noted last
    simp only [decide_eq_false_iff_not, Nat.not_le]
    constructor
    · intro later r' made' same
      obtain ⟨t, found, le⟩ := h.latest r' made'
      obtain rfl : r.start = t := by simpa [same, last] using found
      omega
    · intro all
      have := all r made rfl
      omega

/-- The limits are reckoned from the reports alone. -/
theorem offer_iff (h : w.Accounts limits table reports) (method : Method)
    (debounce start : Nat) :
    (w.offer method debounce start limits).2 ↔ w.Admits limits reports method start debounce := by
  have now := h.current start
  have sent := now.sent (current_start w start limits)
  have soon := now.tooSoon_iff method debounce start
  unfold Admits
  rw [← soon, ← sent]
  simp only [offer]
  by_cases full : (w.current start limits).sent ≥ limits.limit
  · simp [full, Nat.not_lt.2 full]
  · cases (w.current start limits).tooSoon method debounce start <;>
      simp [full, Nat.lt_of_not_le full]

/-- What is refused leaves the account as it is. -/
theorem refused (h : w.Accounts limits table reports)
    (no : (w.offer method debounce start limits).2 = false) :
    (w.offer method debounce start limits).1.Accounts limits table reports := by
  rcases w.offer_cases method debounce start limits with same | same
  · rw [same]
    exact h.current start
  · simp [same] at no

/-- The account of one report more. -/
theorem taken (h : w.Accounts limits table reports) {r : CallReport}
    (window : r.window = w.opened r.start limits)
    (debounced : (table.rule r.method).debounce = some debounce)
    (yes : (w.offer r.method debounce r.start limits).2) :
    (w.offer r.method debounce r.start limits).1.Accounts limits table (reports ++ [r]) := by
  obtain ⟨vacant, spaced⟩ := (h.offer_iff ..).1 yes
  have began := current_start w r.start limits
  have now := h.current r.start
  have noted : (w.offer r.method debounce r.start limits).1
      = (w.current r.start limits).record r.method r.start := by
    rcases w.offer_cases r.method debounce r.start limits with same | same
    · simp [same] at yes
    · rw [same]
  rw [noted]
  rw [← window] at vacant began
  have before : ∀ r' ∈ reports, r'.window = r.window ∨ r'.window + limits.window < r.window := by
    intro r' made
    obtain ⟨t, start, here⟩ := now.past r' made
    obtain rfl : r.window = t := by simpa [began] using start
    exact here
  constructor
  · intro t start
    obtain rfl : r.window = t := by simpa [record, began] using start
    simpa [record, List.countP_append] using now.sent began
  · intro r' made
    refine ⟨r.window, by simpa [record] using began, ?_⟩
    rcases List.mem_append.1 made with made | made
    · exact before r' made
    · simp [List.mem_singleton.1 made]
  · intro m t last
    rw [lookup_record] at last
    split at last
    · exact ⟨r, by simp, by simp_all⟩
    · obtain ⟨r', made, found⟩ := now.noted last
      exact ⟨r', by simp [made], found⟩
  · intro r' made
    rw [lookup_record]
    rcases List.mem_append.1 made with made | made
    · split
      · next same => exact ⟨r.start, rfl, by have := spaced r' made same; omega⟩
      · exact now.latest r' made
    · simp [List.mem_singleton.1 made]
  · rw [List.pairwise_append]
    refine ⟨h.spaced, List.pairwise_singleton .., ?_⟩
    intro r' made last is same d rule
    obtain rfl := List.mem_singleton.1 is
    obtain rfl : debounce = d := by simpa [same, debounced] using rule
    exact spaced r' made same
  · intro t
    rw [List.countP_append]
    by_cases here : r.window = t
    · subst here
      simpa using Nat.succ_le_of_lt vacant
    · simpa [here] using h.room t
  · intro r' made
    rcases List.mem_append.1 made with made | made
    · exact h.within r' made
    · rw [List.mem_singleton.1 made, window]
      exact le_opened ..
  · rw [List.pairwise_append]
    refine ⟨h.apart, List.pairwise_singleton .., ?_⟩
    intro r' made last is
    obtain rfl := List.mem_singleton.1 is
    exact before r' made

end Accounts

end CaptureWindow

namespace Passage

variable {p : Passage} {clock : Clock} {serve : Call → Nat × CallResult}

/-- A time to wait for is set only in a pause or while the server answers. -/
def IsTimely (p : Passage) : Prop :=
  ∀ due, p.due = some due → (∃ duration rest, p.flow = .pause duration rest) ∨
    p.reached ∧ ∃ call rest, p.flow = .reach call rest

/-- The call that the server is seen to be reached with. -/
def Sight.call? : Sight → Option Call
  | .reached call => some call
  | .remark .. => none

theorem isTimely_enter (w : Middleware) (chain : List (Interceptor Flow)) (now : Time)
    (call : Call) : (enter w chain now call).IsTimely := by
  intro due set
  simp [enter] at set

/-- A step leaves what call it is. The server has been reached when that was seen. -/
theorem step_kept (timely : p.IsTimely) (clock : Clock) (serve : Call → Nat × CallResult) :
    (p.step clock serve).1.method = p.method ∧ (p.step clock serve).1.start = p.start ∧
      (p.step clock serve).1.IsTimely ∧
      ((p.step clock serve).1.reached ↔
        p.reached ∨ ((p.step clock serve).2.bind Sight.call?).isSome) := by
  obtain ⟨method, start, flow, reached, due⟩ := p
  cases flow with
  | ended result => cases due <;> simp_all [step, atServer?, walk, IsTimely]
  | remark name m rest =>
    cases due with
    | none => simp [step, atServer?, walk, IsTimely, Sight.call?]
    | some due => simp [IsTimely] at timely
  | pause duration rest => cases due <;> simp [step, atServer?, walk, IsTimely]
  | reach call rest =>
    cases due with
    | none => simp [step, atServer?, IsTimely, Sight.call?]
    | some due => simp_all [step, atServer?, resume, IsTimely]

end Passage

namespace Middleware

variable {w : Middleware} {method : Method} {start now : Nat} {reached : Bool}
variable {result : CallResult}

/-- A call that has ended is one that the limits are asked about, or none that is reported. -/
theorem settle_cases (w : Middleware) (method : Method) (start now : Nat) (reached : Bool)
    (result : CallResult) :
    (∃ value debounce, result = .ok value ∧ reached ∧
        (w.table.rule method).debounce = some debounce ∧
        w.settle method start now reached result =
          ({ w with window := (w.window.offer method debounce start w.limits).1 },
            if (w.window.offer method debounce start w.limits).2 then
              some (w.report method start now value) else none)) ∨
      w.settle method start now reached result = (w, none) ∧
        ¬((∃ value, result = .ok value) ∧ reached ∧
          ∃ debounce, (w.table.rule method).debounce = some debounce) := by
  cases result with
  | error e => exact .inr ⟨rfl, by simp⟩
  | ok value =>
    cases rule : (w.table.rule method).debounce with
    | none => exact .inr ⟨by simp [settle, rule], by simp⟩
    | some debounce =>
      cases reached with
      | false => exact .inr ⟨by simp [settle, rule], by simp⟩
      | true => exact .inl ⟨value, debounce, rfl, rfl, rfl, by simp [settle, rule]⟩

/-- The calls at one middleware, and what came of them. -/
structure Traffic where
  middleware : Middleware
  clock : Clock := {}
  /-- The calls that came, as far as they are, and nothing for those that are over. -/
  calls : List (Option Passage) := []
  /-- Which calls reached the server, and with what. -/
  reached : List (Nat × Call) := []
  answered : List (Nat × CallResult) := []
  reports : List CallReport := []

inductive Traffic.Move
  /-- A call comes, and these interceptors stand before the server. -/
  | call (chain : List (Interceptor Flow)) (call : Call)
  /-- A call goes on, or ends. The server answers it as `serve` says. -/
  | step (n : Nat) (serve : Call → Nat × CallResult)
  /-- Whoever made the call does not wait for it any longer. -/
  | abandon (n : Nat)
  | connect
  | disconnect
  | select (selector : List DocumentFilter)
  | tell (version : Option String)
  | wait (duration : Nat)

namespace Traffic

/-- A new middleware that no call has come to. -/
def opening (variant : Variant) (table : MethodTable) (limits : CaptureLimits) : Traffic :=
  { middleware := { variant, table, limits } }

/-- The call, if it is on its way. -/
def passage? (w : Traffic) (n : Nat) : Option Passage := w.calls[n]?.join

/-- A call has ended. -/
def finish (w : Traffic) (n : Nat) (p : Passage) (result : CallResult) : Traffic :=
  let (middleware, event) := p.leave w.middleware w.clock.now result
  let window := w.middleware.window.opened p.start w.middleware.limits
  { w with
    middleware
    calls := w.calls.set n none
    answered := w.answered ++ [(n, result)]
    reports := w.reports ++
      (event.map fun event =>
        { call := n, method := p.method, start := p.start, window, event }).toList }

/-- A call goes on. -/
def advance (w : Traffic) (n : Nat) (p : Passage) (serve : Call → Nat × CallResult) : Traffic :=
  let (passage, sight) := p.step w.clock serve
  { w with
    calls := w.calls.set n (some passage)
    reached := w.reached ++ ((sight.bind Passage.Sight.call?).map fun call => (n, call)).toList }

def move (w : Traffic) : Move → Traffic
  | .call chain call =>
    { w with calls := w.calls ++ [some (.enter w.middleware chain w.clock.now call)] }
  | .step n serve =>
    match w.passage? n with
    | none => w
    | some p =>
      match p.result? with
      | some result => w.finish n p result
      | none => if p.canStep w.clock then w.advance n p serve else w
  | .abandon n => { w with calls := w.calls.set n none }
  | .connect => { w with middleware := w.middleware.connect }
  | .disconnect => { w with middleware := w.middleware.disconnect }
  | .select selector => { w with middleware := { w.middleware with selector } }
  | .tell version => { w with middleware := { w.middleware with version } }
  | .wait duration => { w with clock := w.clock.set (w.clock.now + duration) }

def run (w : Traffic) (moves : List Move) : Traffic := moves.foldl move w

theorem run_concat (w : Traffic) (moves : List Move) (next : Move) :
    w.run (moves ++ [next]) = (w.run moves).move next := by
  simp [run]

variable {w : Traffic} {limits : CaptureLimits} {table : MethodTable} {n m : Nat} {p q : Passage}

theorem passage?_of_set {w' : Traffic} {c : Option Passage} (set : w'.calls = w.calls.set n c)
    (m : Nat) : w'.passage? m = if n = m ∧ n < w.calls.length then c else w.passage? m := by
  rw [passage?, set, List.getElem?_set]
  by_cases same : n = m
  · subst same
    by_cases there : n < w.calls.length <;> simp [there, passage?]
  · simp [same, passage?]

theorem lt_length_of_passage? (there : w.passage? n = some p) : n < w.calls.length := by
  rw [passage?, Option.join_eq_some_iff] at there
  exact (List.getElem?_eq_some_iff.1 there).1

theorem passage?_call {chain : List (Interceptor Flow)} {call : Call}
    (there : (w.move (.call chain call)).passage? n = some p) :
    w.passage? n = some p ∨
      n = w.calls.length ∧ p = .enter w.middleware chain w.clock.now call := by
  by_cases old : n < w.calls.length
  · exact .inl (by simpa [move, passage?, List.getElem?_append_left old] using there)
  · have here := lt_length_of_passage? there
    obtain rfl : n = w.calls.length := by
      simp only [move, List.length_append, List.length_singleton] at here
      omega
    exact .inr ⟨rfl, by simpa [move, passage?, eq_comm] using there⟩

/-- The reports keep to the limits, and each is on one call that is over, had reached the server
and did not fail. -/
structure Sound (w : Traffic) (table : MethodTable) (limits : CaptureLimits) : Prop where
  table_eq : w.middleware.table = table
  limits_eq : w.middleware.limits = limits
  account : w.middleware.window.Accounts limits table w.reports
  timely : ∀ {n p}, w.passage? n = some p → p.IsTimely
  touched : ∀ {n p}, w.passage? n = some p → (p.reached ↔ ∃ call, (n, call) ∈ w.reached)
  known : ∀ {n call}, (n, call) ∈ w.reached → n < w.calls.length
  ended : ∀ r ∈ w.reports, r.call < w.calls.length ∧ w.passage? r.call = none
  once : (w.reports.map (·.call)).Nodup
  due : ∀ r ∈ w.reports, (∃ call, (r.call, call) ∈ w.reached) ∧
    (∃ value, (r.call, .ok value) ∈ w.answered) ∧ (table.rule r.method).debounce.isSome

theorem sound_opening (variant : Variant) (table : MethodTable) (limits : CaptureLimits) :
    (opening variant table limits).Sound table limits := by
  refine ⟨rfl, rfl, CaptureWindow.accounts_empty, ?_, ?_, ?_, ?_, .nil, ?_⟩ <;>
    simp [opening, passage?]

namespace Sound

theorem enter (h : w.Sound table limits) (chain : List (Interceptor Flow)) (call : Call) :
    (w.move (.call chain call)).Sound table limits := by
  refine ⟨h.table_eq, h.limits_eq, h.account, ?_, ?_, ?_, ?_, h.once, h.due⟩
  · intro n p there
    rcases passage?_call there with there | ⟨-, rfl⟩
    · exact h.timely there
    · exact Passage.isTimely_enter w.middleware chain w.clock.now call
  · intro n p there
    rcases passage?_call there with there | ⟨rfl, rfl⟩
    · exact h.touched there
    · have none (call') : (w.calls.length, call') ∉ w.reached := fun reached =>
        Nat.lt_irrefl _ (h.known reached)
      simp [Passage.enter, move, none]
  · intro n call' reached
    have := h.known reached
    simp only [move, List.length_append, List.length_singleton]
    omega
  · intro r told
    obtain ⟨old, gone⟩ := h.ended r told
    refine ⟨by simp only [move, List.length_append]; omega, ?_⟩
    simpa [move, passage?, List.getElem?_append_left old] using gone

theorem advance (h : w.Sound table limits) (there : w.passage? n = some p)
    (serve : Call → Nat × CallResult) : (w.advance n p serve).Sound table limits := by
  have here := lt_length_of_passage? there
  have calls (m : Nat) : (w.advance n p serve).passage? m =
      if n = m ∧ n < w.calls.length then some (p.step w.clock serve).1 else w.passage? m :=
    passage?_of_set rfl m
  obtain ⟨-, -, timely, reached⟩ :=
    Passage.step_kept (h.timely there) w.clock serve
  refine ⟨h.table_eq, h.limits_eq, h.account, ?_, ?_, ?_, ?_, h.once, ?_⟩
  · intro m q found
    rw [calls] at found
    split at found
    · exact Option.some.inj found ▸ timely
    · exact h.timely found
  · intro m q found
    rw [calls] at found
    by_cases same : n = m
    · subst same
      obtain rfl : (p.step w.clock serve).1 = q := by
        rw [if_pos ⟨rfl, here⟩] at found
        exact Option.some.inj found
      rw [reached, h.touched there]
      cases sight : (p.step w.clock serve).2.bind Passage.Sight.call? <;>
        simp [Traffic.advance, sight]
    · rw [h.touched (by simpa [same] using found)]
      cases sight : (p.step w.clock serve).2.bind Passage.Sight.call? <;>
        simp [Traffic.advance, sight, Ne.symm same]
  · intro m call found
    simp only [Traffic.advance, List.length_set] at found ⊢
    rcases List.mem_append.1 found with found | found
    · exact h.known found
    · cases sight : (p.step w.clock serve).2.bind Passage.Sight.call? <;>
        simp_all
  · intro r told
    obtain ⟨old, gone⟩ := h.ended r told
    have other : n ≠ r.call := fun same => by simp [← same, there] at gone
    refine ⟨by simpa [Traffic.advance] using old, ?_⟩
    rw [calls]
    simpa [other] using gone
  · intro r told
    obtain ⟨⟨call, reached⟩, rest⟩ := h.due r told
    exact ⟨⟨call, List.mem_append_left _ reached⟩, rest⟩

/-- A call is over, and it may be told of what came of it. -/
theorem dismiss (h : w.Sound table limits) (told : Option CallReport) {w' : Traffic}
    (table_eq : w'.middleware.table = table) (limits_eq : w'.middleware.limits = limits)
    (account : w'.middleware.window.Accounts limits table w'.reports)
    (calls : w'.calls = w.calls.set n none) (reached : w'.reached = w.reached)
    (answered : w.answered ⊆ w'.answered) (reports : w'.reports = w.reports ++ told.toList)
    (new : ∀ r ∈ told, r.call = n ∧ (w.passage? n).isSome ∧
      (∃ call, (n, call) ∈ w.reached) ∧ (∃ value, (n, .ok value) ∈ w'.answered) ∧
      (table.rule r.method).debounce.isSome) :
    w'.Sound table limits := by
  have calls' := passage?_of_set calls
  have before {m q} (found : w'.passage? m = some q) : w.passage? m = some q := by
    rw [calls'] at found
    split at found
    · cases found
    · exact found
  have made {r} (there : r ∈ w'.reports) : r ∈ w.reports ∨ r ∈ told := by
    simpa [reports] using there
  refine ⟨table_eq, limits_eq, account, fun found => h.timely (before found),
    fun found => reached ▸ h.touched (before found), ?_, ?_, ?_, ?_⟩
  · intro m call found
    rw [calls, List.length_set]
    exact h.known (reached ▸ found)
  · intro r there
    rw [calls, List.length_set, calls']
    rcases made there with there | there
    · obtain ⟨old, gone⟩ := h.ended r there
      exact ⟨old, by split <;> simp [gone]⟩
    · obtain ⟨rfl, on, -⟩ := new r there
      obtain ⟨q, on⟩ := Option.isSome_iff_exists.1 on
      have here := lt_length_of_passage? on
      exact ⟨here, by simp [here]⟩
  · rw [reports, List.map_append]
    refine List.nodup_append.2 ⟨h.once, ?_, ?_⟩
    · cases told <;> simp
    · intro k old k' late same
      obtain ⟨r, there, rfl⟩ := List.mem_map.1 old
      obtain ⟨r', there', rfl⟩ := List.mem_map.1 late
      obtain ⟨here, on, -⟩ := new r' (by simpa using there')
      rw [← here, ← same, (h.ended r there).2] at on
      cases on
  · intro r there
    rcases made there with there | there
    · obtain ⟨touched, ⟨value, answer⟩, rule⟩ := h.due r there
      exact ⟨reached ▸ touched, ⟨value, answered answer⟩, rule⟩
    · obtain ⟨rfl, -, touched, answer, rule⟩ := new r there
      exact ⟨reached ▸ touched, answer, rule⟩

/-- A call that has ended is over, and is told of if the limits have room for it. -/
theorem finish (h : w.Sound table limits) (there : w.passage? n = some p) (result : CallResult) :
    (w.finish n p result).Sound table limits := by
  obtain rfl := h.table_eq
  obtain rfl := h.limits_eq
  rcases w.middleware.settle_cases p.method p.start w.clock.now p.reached result with
    ⟨value, debounce, rfl, reached, rule, settled⟩ | ⟨settled, -⟩
  · cases taken : (w.middleware.window.offer p.method debounce p.start w.middleware.limits).2 with
    | false =>
      refine h.dismiss (n := n) none ?_ ?_ ?_ rfl rfl ?_ ?_ ?_ <;>
        simp [Traffic.finish, Passage.leave, settled, taken]
      exact h.account.refused taken
    | true =>
      let r : CallReport :=
        { call := n, method := p.method, start := p.start
          window := w.middleware.window.opened p.start w.middleware.limits
          event := w.middleware.report p.method p.start w.clock.now value }
      refine h.dismiss (n := n) (some r) ?_ ?_ ?_ rfl rfl ?_ ?_ ?_ <;>
        simp [Traffic.finish, Passage.leave, settled, taken]
      · exact h.account.taken (r := r) rfl rule taken
      · rfl
      · simpa [there, rule, r] using (h.touched there).1 reached
  · refine h.dismiss (n := n) none ?_ ?_ ?_ rfl rfl ?_ ?_ ?_ <;>
      simp [Traffic.finish, Passage.leave, settled, h.account]

theorem move (h : w.Sound table limits) (next : Move) : (w.move next).Sound table limits := by
  cases next with
  | call chain call => exact h.enter chain call
  | step n serve =>
    cases there : w.passage? n with
    | none => simpa [Traffic.move, there] using h
    | some p =>
      cases ended : p.result? with
      | some result => simpa [Traffic.move, there, ended] using h.finish there result
      | none =>
        cases goes : p.canStep w.clock with
        | true => simpa [Traffic.move, there, ended, goes] using h.advance there serve
        | false => simpa [Traffic.move, there, ended, goes] using h
  | abandon n =>
    exact h.dismiss (n := n) none h.table_eq h.limits_eq
      (by simpa [Traffic.move] using h.account) rfl rfl (fun _ => id) (by simp [Traffic.move])
      (by simp)
  | connect | disconnect | select | tell | wait => exact { h with }

end Sound

/-- A call that ends is told of exactly if it had reached the server, did not fail, is of a method
that is reported, and the limits have room for it. -/
theorem Sound.told_iff (h : w.Sound table limits) (there : w.passage? n = some p)
    {result : CallResult} (ended : p.result? = some result) (serve : Call → Nat × CallResult) :
    n ∈ (w.move (.step n serve)).reports.map (·.call) ↔
      (∃ call, (n, call) ∈ w.reached) ∧ (∃ value, result = .ok value) ∧
        ∃ debounce, (table.rule p.method).debounce = some debounce ∧
          w.middleware.window.Admits limits w.reports p.method p.start debounce := by
  obtain rfl := h.table_eq
  obtain rfl := h.limits_eq
  have fresh : n ∉ w.reports.map (·.call) := fun old => by
    obtain ⟨r, told, rfl⟩ := List.mem_map.1 old
    simp [(h.ended r told).2] at there
  have told : n ∈ (w.move (.step n serve)).reports.map (·.call) ↔
      (w.middleware.settle p.method p.start w.clock.now p.reached result).2.isSome := by
    simp only [Traffic.move, there, ended, Traffic.finish, Passage.leave, List.map_append,
      List.mem_append, fresh, false_or]
    cases (w.middleware.settle p.method p.start w.clock.now p.reached result).2 <;> simp
  rw [told, ← h.touched there]
  rcases w.middleware.settle_cases p.method p.start w.clock.now p.reached result with
    ⟨value, debounce, rfl, reached, rule, settled⟩ | ⟨settled, never⟩
  · have room := h.account.offer_iff p.method debounce p.start
    cases taken : (w.middleware.window.offer p.method debounce p.start w.middleware.limits).2 <;>
      simp_all
  · simp only [settled, Option.isSome_none, Bool.false_eq_true, false_iff]
    rintro ⟨reached, good, debounce, rule, -⟩
    exact never ⟨good, reached, debounce, rule⟩

theorem sound_run (variant : Variant) (table : MethodTable) (limits : CaptureLimits)
    (moves : List Move) : ((opening variant table limits).run moves).Sound table limits := by
  induction moves using List.reverseRecOn with
  | nil => exact sound_opening variant table limits
  | append_singleton moves next ih =>
    rw [run_concat]
    exact ih.move next

/-- The call came in the run, began at that time and passed the gate as it then stood. -/
def Came (w : Traffic) (moves : List Move) (n : Nat) (method : Method) (start : Time) : Prop :=
  ∃ past chain call later, moves = past ++ .call chain call :: later ∧
    (w.run past).calls.length = n ∧ call.method = method ∧ (w.run past).clock.now = start ∧
    (w.run past).middleware.passes call.method call.params

theorem Came.later {moves : List Move} {method : Method} {start : Time}
    (h : w.Came moves n method start) (next : Move) : w.Came (moves ++ [next]) n method start := by
  obtain ⟨past, chain, call, later, rfl, rest⟩ := h
  exact ⟨past, chain, call, later ++ [next], by simp, rest⟩

/-- A call on its way has just come, is where it was, or has gone one step on. -/
theorem passage?_move {next : Move} (there : (w.move next).passage? n = some p) :
    (∃ chain call, next = .call chain call ∧ n = w.calls.length ∧
        p = .enter w.middleware chain w.clock.now call) ∨
      w.passage? n = some p ∨
      ∃ q serve, w.passage? n = some q ∧ q.result? = none ∧ p = (q.step w.clock serve).1 := by
  cases next with
  | call chain call =>
    rcases passage?_call there with there | here
    · exact .inr (.inl there)
    · exact .inl ⟨chain, call, rfl, here⟩
  | step m serve =>
    cases found : w.passage? m with
    | none => simp_all [move]
    | some q =>
      cases ended : q.result? with
      | some result =>
        simp only [move, found, ended] at there
        rw [passage?_of_set (w := w) (n := m) (c := none) rfl] at there
        split at there
        · cases there
        · exact .inr (.inl there)
      | none =>
        cases goes : q.canStep w.clock with
        | false => simp_all [move]
        | true =>
          simp only [move, found, ended, goes, if_true] at there
          rw [passage?_of_set (w := w) (n := m) (c := some (q.step w.clock serve).1) rfl] at there
          split at there
          · next same =>
            obtain ⟨rfl, -⟩ := same
            exact .inr (.inr ⟨q, serve, found, ended, (Option.some.inj there).symm⟩)
          · exact .inr (.inl there)
  | abandon m =>
    rw [passage?_of_set (w := w) (n := m) (c := none) rfl] at there
    split at there
    · cases there
    · exact .inr (.inl there)
  | connect | disconnect | select | tell | wait => exact .inr (.inl there)

/-- A report is old, or on a call on its way that had reached the server. -/
theorem reports_move {next : Move} {r : CallReport} (told : r ∈ (w.move next).reports) :
    r ∈ w.reports ∨ ∃ p, w.passage? r.call = some p ∧ p.reached ∧ p.method = r.method ∧
      p.start = r.start := by
  cases next with
  | step n serve =>
    cases there : w.passage? n with
    | none => simp_all [move]
    | some p =>
      cases ended : p.result? with
      | none =>
        cases goes : p.canStep w.clock <;> simp_all [move, advance]
      | some result =>
        simp only [move, there, ended, finish, Passage.leave] at told
        rcases List.mem_append.1 told with old | new
        · exact .inl old
        · rcases w.middleware.settle_cases p.method p.start w.clock.now p.reached result with
            ⟨value, debounce, rfl, reached, rule, settled⟩ | ⟨settled, -⟩
          · rw [settled] at new
            split at new
            · obtain rfl := by simpa using new
              exact .inr ⟨p, there, reached, rfl, rfl⟩
            · simp at new
          · simp [settled] at new
  | call | abandon | connect | disconnect | select | tell | wait => exact .inl told

/-- Only calls that passed the gate go on, and only those are told of. -/
structure Traced (w : Traffic) (moves : List Move) : Prop where
  passing : ∀ {n p}, (w.run moves).passage? n = some p →
    w.Came moves n p.method p.start ∨ p.reached = false ∧ p.result?.isSome
  told : ∀ r ∈ (w.run moves).reports, w.Came moves r.call r.method r.start

theorem traced_run (variant : Variant) (table : MethodTable) (limits : CaptureLimits)
    (moves : List Move) : (opening variant table limits).Traced moves := by
  induction moves using List.reverseRecOn with
  | nil => constructor <;> simp [run, opening, passage?]
  | append_singleton moves next ih =>
    have sound := sound_run variant table limits moves
    constructor
    · intro n p there
      rw [run_concat] at there
      rcases passage?_move there with
        ⟨chain, call, rfl, rfl, rfl⟩ | there | ⟨q, serve, old, on, rfl⟩
      · cases passes : ((opening variant table limits).run moves).middleware.passes
          call.method call.params with
        | true => exact .inl ⟨moves, chain, call, [], rfl, rfl, rfl, rfl, passes⟩
        | false => exact .inr ⟨rfl, by simp [Passage.enter, passes, Passage.result?]⟩
      · exact (ih.passing there).imp (·.later next) id
      · obtain ⟨method, start, -⟩ := Passage.step_kept (sound.timely old)
          ((opening variant table limits).run moves).clock serve
        rcases ih.passing old with came | ⟨-, ended⟩
        · rw [method, start]
          exact .inl (came.later next)
        · simp [on] at ended
    · intro r told
      rw [run_concat] at told
      rcases reports_move told with old | ⟨p, there, reached, method, start⟩
      · exact (ih.told r old).later next
      · rcases ih.passing there with came | ⟨untouched, -⟩
        · rw [← method, ← start]
          exact came.later next
        · simp [reached] at untouched

/-- In any run of one middleware a call is told of at most once; and only if the gate was open to
it and its document claimed when it came, it has reached the server, was answered without an error,
and is of a method that is reported. Two reports of one method are on calls that began more than the
method's debounce apart, the later report on the later call. At most `limit` reports count in one
window, a window begins after the last one's end, and no call in it began beyond its end. Within
these limits a call that ends is told of. -/
theorem reports_of_run (variant : Variant) (table : MethodTable) (limits : CaptureLimits)
    (moves : List Move) :
    let first := opening variant table limits
    let w := first.run moves
    (w.reports.map (·.call)).Nodup ∧
      (∀ r ∈ w.reports,
        (∃ past chain call later, moves = past ++ .call chain call :: later ∧
          (first.run past).calls.length = r.call ∧ call.method = r.method ∧
          (first.run past).clock.now = r.start ∧
          (call.method.bypassesGate ∨ (first.run past).middleware.connected) ∧
          DocumentFilter.claims (first.run past).middleware.selector call.params) ∧
        (∃ call, (r.call, call) ∈ w.reached) ∧ (∃ value, (r.call, .ok value) ∈ w.answered) ∧
        (table.rule r.method).debounce.isSome) ∧
      (w.reports.Pairwise fun r later => r.method = later.method →
        ∀ debounce, (table.rule r.method).debounce = some debounce →
          r.start + debounce < later.start) ∧
      (∀ t, (w.reports.countP fun r => r.window = t) ≤ limits.limit) ∧
      (w.reports.Pairwise fun r later =>
        r.window = later.window ∨ r.window + limits.window < later.window) ∧
      (∀ r ∈ w.reports, r.start ≤ r.window + limits.window) ∧
      ∀ n p result serve, w.passage? n = some p → p.result? = some result →
        (n ∈ (w.move (.step n serve)).reports.map (·.call) ↔
          (∃ call, (n, call) ∈ w.reached) ∧ (∃ value, result = .ok value) ∧
            ∃ debounce, (table.rule p.method).debounce = some debounce ∧
              w.middleware.window.Admits limits w.reports p.method p.start debounce) := by
  intro first w
  have sound : w.Sound table limits := sound_run variant table limits moves
  refine ⟨sound.once, ?_, sound.account.spaced, sound.account.room, sound.account.apart,
    sound.account.within, fun n p result serve there ended => sound.told_iff there ended serve⟩
  intro r told
  refine ⟨?_, sound.due r told⟩
  obtain ⟨past, chain, call, later, split, came, method, start, passes⟩ :=
    (traced_run variant table limits moves).told r told
  refine ⟨past, chain, call, later, split, came, method, start, ?_⟩
  simpa [passes, Middleware.passes] using passes

end Traffic

end Middleware

end LanguageBroker
