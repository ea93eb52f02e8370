import LanguageBroker.Proofs.CallReports
import LanguageBroker.Telemetry.Sink

/-!
Reports are made on the way of the calls, by the middleware that the calls pass through, and yet
nothing that a call meets depends on them. Two middlewares are compared that see the same calls and
the same gate and selector, and differ in all that reports are made from and sent to. Each move of
the one is answered by the same move of the other, and a move that only tells a version by none;
what is compared is the whole conduct of the traffic, the calls still on their way included.
-/

namespace LanguageBroker.Middleware.Traffic

variable {σ τ : Type} {w w' : Traffic}

/-- What the callers and the server see of the traffic, now and later, leaving out all that is only
there for reports. -/
structure Conduct where
  connected : Bool
  selector : List DocumentFilter
  clock : Clock
  calls : List (Option Passage)
  reached : List (Nat × Call)
  answered : List (Nat × CallResult)

def conduct (w : Traffic) : Conduct where
  connected := w.middleware.connected
  selector := w.middleware.selector
  clock := w.clock
  calls := w.calls
  reached := w.reached
  answered := w.answered

/-- Does the move do more than tell the version that reports name? -/
def Move.isTraffic : Move → Bool
  | .tell _ => false
  | _ => true

theorem conduct_tell (w : Traffic) (version : Option String) :
    (w.move (.tell version)).conduct = w.conduct := rfl

theorem enter_eq_of_conduct (same : w.conduct = w'.conduct) (chain : List (Interceptor Flow))
    (call : Call) :
    Passage.enter w.middleware chain w.clock.now call =
      Passage.enter w'.middleware chain w'.clock.now call := by
  obtain ⟨connected, selector, clock, -⟩ := Conduct.mk.inj same
  have passes : w.middleware.passes call.method call.params =
      w'.middleware.passes call.method call.params := by
    simp only [Middleware.passes, connected, selector]
  rw [Passage.enter, Passage.enter, passes, clock]

/-- The reports that a call may lead to change the window, and nothing else. -/
theorem conduct_settle (m : Middleware) (method : Method) (start now : Nat) (reached : Bool)
    (result : CallResult) :
    let m' := (m.settle method start now reached result).1
    m'.connected = m.connected ∧ m'.selector = m.selector := by
  rcases m.settle_cases method start now reached result with ⟨_, _, _, _, _, same⟩ | ⟨same, _⟩ <;>
    simp [same]

theorem conduct_finish (w : Traffic) (n : Nat) (p : Passage) (result : CallResult) :
    (w.finish n p result).conduct =
      { w.conduct with
        calls := w.calls.set n none
        answered := w.answered ++ [(n, result)] } := by
  obtain ⟨connected, selector⟩ :=
    conduct_settle w.middleware p.method p.start w.clock.now p.reached result
  simp [finish, Passage.leave, conduct, connected, selector]

theorem conduct_advance (w : Traffic) (n : Nat) (p : Passage) (serve : Call → Nat × CallResult) :
    (w.advance n p serve).conduct =
      { w.conduct with
        calls := w.calls.set n (some (p.step w.clock serve).1)
        reached := w.reached ++
          (((p.step w.clock serve).2.bind Passage.Sight.call?).map fun call =>
            (n, call)).toList } :=
  rfl

/-- What a move does to the traffic depends on the traffic alone. -/
theorem conduct_move (same : w.conduct = w'.conduct) (next : Move) :
    (w.move next).conduct = (w'.move next).conduct := by
  obtain ⟨connected, selector, clock, calls, reached, answered⟩ := Conduct.mk.inj same
  cases next with
  | call chain call =>
    have entered := enter_eq_of_conduct same chain call
    simp only [move, conduct, connected, selector, clock, calls, reached, answered] at entered ⊢
    rw [entered]
  | step n serve =>
    have passage : w.passage? n = w'.passage? n := by simp only [passage?, calls]
    cases there : w'.passage? n with
    | none => simpa only [move, passage, there] using same
    | some p =>
      cases ended : p.result? with
      | some result =>
        simp only [move, passage, there, ended, conduct_finish, same, calls, answered]
      | none =>
        simp only [move, passage, there, ended, clock]
        split
        · simp only [conduct_advance, same, calls, reached, clock]
        · exact same
  | abandon n | connect | disconnect | select | wait =>
    simp only [move, conduct, connect, disconnect, connected, selector, clock, calls, reached,
      answered]
  | tell version => simpa only [conduct_tell] using same

theorem conduct_run (same : w.conduct = w'.conduct) (moves : List Move) :
    (w.run moves).conduct = (w'.run moves).conduct := by
  induction moves generalizing w w' with
  | nil => exact same
  | cons next later ih => exact ih (conduct_move same next)

/-- Moves that only tell a version can be left out. -/
theorem conduct_run_filter (w : Traffic) (moves : List Move) :
    (w.run (moves.filter Move.isTraffic)).conduct = (w.run moves).conduct := by
  induction moves generalizing w with
  | nil => rfl
  | cons next later ih =>
    cases next with
    | tell version =>
      calc (w.run (later.filter Move.isTraffic)).conduct
        _ = (w.run later).conduct := ih w
        _ = ((w.move (.tell version)).run later).conduct :=
          conduct_run (conduct_tell w version).symm later
    | call | step | abandon | connect | disconnect | select | wait => exact ih _

/-- The traffic, and the sink that the reports on it go to. -/
structure Monitored (σ : Type) where
  traffic : Traffic
  /-- What the sink remembers. -/
  memory : σ
  warnings : List String := []

namespace Monitored

/-- A report is sent. -/
def send (sink : TelemetrySink σ) (w : Monitored σ) (event : TelemetryEvent) : Monitored σ :=
  let (memory, warning) := sink.send w.memory event
  { w with memory, warnings := w.warnings ++ warning.toList }

/-- The traffic makes a move, and what it leads to in reports is sent. -/
def move (sink : TelemetrySink σ) (w : Monitored σ) (next : Move) : Monitored σ :=
  let traffic := w.traffic.move next
  let events := (traffic.reports.drop w.traffic.reports.length).map (·.event)
  events.foldl (send sink) { w with traffic }

def run (sink : TelemetrySink σ) (w : Monitored σ) (moves : List Move) : Monitored σ :=
  moves.foldl (move sink) w

/-- A new middleware and a sink. -/
def opening (variant : Variant) (table : MethodTable) (limits : CaptureLimits) (memory : σ) :
    Monitored σ :=
  { traffic := .opening variant table limits, memory }

theorem traffic_send (sink : TelemetrySink σ) (w : Monitored σ) (events : List TelemetryEvent) :
    (events.foldl (send sink) w).traffic = w.traffic := by
  induction events generalizing w with
  | nil => rfl
  | cons event later ih => exact ih _

theorem traffic_run (sink : TelemetrySink σ) (w : Monitored σ) (moves : List Move) :
    (w.run sink moves).traffic = w.traffic.run moves := by
  induction moves generalizing w with
  | nil => rfl
  | cons next later ih =>
    calc ((w.move sink next).run sink later).traffic
      _ = (w.move sink next).traffic.run later := ih _
      _ = (w.traffic.move next).run later := by rw [move, traffic_send]

end Monitored

/-- Two middlewares that see the same calls, with the same interceptors before the server and the
same answers of the server, and whose gate, selector and time go the same way, answer each call
alike, errors included, reach the server with the same calls in the same order, and have the same
calls on their way in the same state. It does not matter which methods they report, how much and
under what name and version, or what becomes of the reports: a sink may remember them and may refuse
any of them. Interceptors are given with each call, so one call's may have learned from another. -/
theorem reports_leave_traffic_alone (sink : TelemetrySink σ) (sink' : TelemetrySink τ)
    (memory : σ) (memory' : τ) (variant variant' : Variant) (table table' : MethodTable)
    (limits limits' : CaptureLimits) (moves moves' : List Move)
    (same : moves.filter Move.isTraffic = moves'.filter Move.isTraffic) :
    let w := ((Monitored.opening variant table limits memory).run sink moves).traffic
    let w' := ((Monitored.opening variant' table' limits' memory').run sink' moves').traffic
    w.answered = w'.answered ∧ w.reached = w'.reached ∧ w.calls = w'.calls := by
  have opened : (opening variant table limits).conduct =
      (opening variant' table' limits').conduct := rfl
  have alike : ((opening variant table limits).run moves).conduct =
      ((opening variant' table' limits').run moves').conduct := by
    calc ((opening variant table limits).run moves).conduct
      _ = ((opening variant table limits).run (moves.filter Move.isTraffic)).conduct :=
        (conduct_run_filter ..).symm
      _ = ((opening variant' table' limits').run (moves'.filter Move.isTraffic)).conduct := by
        rw [same, conduct_run opened]
      _ = ((opening variant' table' limits').run moves').conduct := conduct_run_filter ..
  obtain ⟨-, -, -, calls, reached, answered⟩ := Conduct.mk.inj alike
  simp only [Monitored.traffic_run]
  exact ⟨answered, reached, calls⟩

/-- Asks twice, and answers with what was said last. -/
def insistent : Interceptor Flow where
  handles _ := true
  intercept call rest := (rest call).andThen fun _ => rest call

/-- A call that the server fails at first and answers with that result when it is asked again. -/
def retry (call : Call) (result : CallResult) : List Move :=
  [.connect, .call [insistent] call, .step 0 fun _ => (0, .error .internalError),
    .step 0 fun _ => (0, .error .internalError), .step 0 fun _ => (0, result),
    .step 0 fun _ => (0, result), .step 0 fun _ => (0, result)]

/-- Takes no event. -/
def refusing : TelemetrySink Unit := ⟨fun _ _ => ((), .error "pipeline unavailable")⟩

/-- Keeps every event. -/
def keeping : TelemetrySink (List TelemetryEvent) := ⟨fun kept event => (kept ++ [event], .ok ())⟩

/-- One middleware reports the call that was made twice, to a sink that takes nothing; the other
knows the server's version and reports nothing. Both answer with what the server said last. -/
theorem refused_report_leaves_traffic_alone :
    let moves := retry { method := .hover, params := .null } (.ok (some (.bool true)))
    let moves' := .tell (some "1.2.3") :: moves
    let v := (Monitored.opening .fullB .usual .usual ()).run refusing moves
    let v' := (Monitored.opening .simple ⟨fun _ => {}⟩ ⟨0, 0⟩ []).run keeping moves'
    moves.filter Move.isTraffic = moves'.filter Move.isTraffic ∧
      (v.traffic.answered = v'.traffic.answered ∧ v.traffic.reached = v'.traffic.reached ∧
        v.traffic.calls = v'.traffic.calls) ∧
      v.traffic.answered = [(0, .ok (some (.bool true)))] ∧ v.traffic.reached.length = 2 ∧
      v.warnings.length = 1 ∧ v'.memory = [] := by
  refine ⟨rfl, reports_leave_traffic_alone refusing keeping () [] .fullB .simple .usual
    ⟨fun _ => {}⟩ .usual ⟨0, 0⟩ (retry _ _) (.tell (some "1.2.3") :: retry _ _) rfl,
    ?_, ?_, ?_, ?_⟩
  · rfl
  · rfl
  · rfl
  · rfl

end LanguageBroker.Middleware.Traffic
