import LanguageBroker.Proofs.CallReports
import LanguageBroker.Proofs.ServedCalls
import LanguageBroker.Proofs.ServerKeeping

/-!
Calls at one manager, together with all that can happen to it. A call looks for the server, and who
has found it goes on at once, through the interceptors and to the server, before anybody else has a
turn. So a call never meets a server that is on its way out, although it takes the server along
when the slot has long been given back. Interceptors that wait on their own are left out: what they
do when they go on is not done at the server in the slot.
-/

namespace LanguageBroker

namespace Flow

/-- How a call goes on until it ends or has to wait: the calls that reach the server on the way,
the first of which the server answers at once as given, and what is left. -/
def onward : Flow → List CallResult → List Call × Flow
  | ended result, _ => ([], ended result)
  | remark _ _ rest, answers => rest.onward answers
  | pause duration rest, _ => ([], pause duration rest)
  | reach call rest, [] => ([call], reach call rest)
  | reach call rest, answer :: answers =>
    (call :: ((rest answer).onward answers).1, ((rest answer).onward answers).2)

/-- Nothing is left to wait for, or the answer of the server, which is then only handed back. -/
def IsPrompt : Flow → Prop
  | ended _ => True
  | reach _ rest => ∀ answer, ∃ result, (rest answer).onward [] = ([], ended result)
  | _ => False

end Flow

/-- When the server has answered, the call is over without reaching it again. -/
theorem Passage.onward_resume {p : Passage} (prompt : p.flow.IsPrompt) (result : CallResult) :
    ∃ last, (p.resume result).flow.onward [] = ([], .ended last) := by
  cases flow : p.flow with
  | ended r => exact ⟨r, by simp [resume, flow, Flow.onward]⟩
  | reach call rest =>
    rw [flow] at prompt
    simpa [resume, flow] using prompt result
  | remark | pause => simp [flow, Flow.IsPrompt] at prompt

/-- A call, the interceptors that it meets, and what the server answers at once. No interceptor
suspends it: once it goes on it waits for nothing but an answer of the server, and when that comes
late, the server is not reached again. -/
structure Request where
  call : Call
  chain : List (Interceptor Flow) := []
  answers : List CallResult := []
  prompt : ((Interceptor.compose chain Flow.server call).onward answers).2.IsPrompt

/-- How far a call has come. -/
inductive Visit.Stage
  /-- Looks for the server. -/
  | asking (job : JobId)
  /-- Waits for the server's answer. -/
  | passing (server : BackendId) (passage : Passage)
  | closed (server : Option BackendId) (result : CallResult)

structure Visit where
  request : Request
  stage : Visit.Stage

namespace Visit

/-- The job that the call waits for. -/
def Stage.job? : Stage → Option JobId
  | .asking j => some j
  | _ => none

def job? (v : Visit) : Option JobId := v.stage.job?

/-- The server that the call was handed to. -/
def Stage.server? : Stage → Option BackendId
  | .asking _ => none
  | .passing b _ => some b
  | .closed b _ => b

end Visit

namespace Site

/-- The server is reached with the calls, one after the other. -/
def reach (s : Site) (b : BackendId) (calls : List Call) : Site :=
  calls.foldl (fun s call => s.noteBackend b (.call call.method call.params)) s

/-- A call goes on at the server until it ends or has to wait. -/
def proceed (s : Site) (b : BackendId) (p : Passage) (answers : List CallResult) :
    Site × Visit.Stage :=
  let went := p.flow.onward answers
  let s := s.reach b went.1
  let reached := p.reached || !went.1.isEmpty
  match went.2 with
  | .ended result =>
    (if reached then s.settleCall b p.method p.start result else s, .closed (some b) result)
  | flow => (s, .passing b { p with flow, reached })

/-- A call has found the server, or that there is none. -/
def meet (s : Site) (outcome : Job.Outcome) (request : Request) : Site × Visit.Stage :=
  match outcome with
  | .found (some b) =>
    match s.backend? b with
    | some x =>
      s.proceed b (.enter x.middleware request.chain s.clock.now request.call) request.answers
    | none => (s, .closed none (.ok none))
  | _ => (s, .closed none (.ok none))

end Site

namespace Site

variable {s t : Site} {b c : BackendId} {p : Passage} {answers : List CallResult}

theorem calm_reach (s : Site) (b : BackendId) (calls : List Call) : s.Calm (s.reach b calls) := by
  induction calls generalizing s with
  | nil => exact .refl s
  | cons call calls ih => exact (Calm.noteBackend s b rfl).trans (ih _)

@[simp] theorem backend?_reach (s : Site) (b : BackendId) (calls : List Call) (c : BackendId) :
    (s.reach b calls).backend? c = s.backend? c := by
  induction calls generalizing s with
  | nil => rfl
  | cons call calls ih => exact (ih _).trans (backend?_noteBackend ..)

@[simp] theorem reach_cons (s : Site) (b : BackendId) (call : Call) (calls : List Call) :
    s.reach b (call :: calls) =
      (s.noteBackend b (.call call.method call.params)).reach b calls := rfl

theorem journal_reach (s : Site) (b : BackendId) (calls : List Call) :
    s.journal <+: (s.reach b calls).journal := by
  induction calls generalizing s with
  | nil => exact List.prefix_rfl
  | cons call calls ih =>
    refine List.IsPrefix.trans ?_ (ih (s.noteBackend b (.call call.method call.params)))
    unfold noteBackend
    split
    · exact List.prefix_append ..
    · exact List.prefix_rfl

theorem journal_reach_eq {x : Backend} (found : s.backend? b = some x) (calls : List Call) :
    (s.reach b calls).journal = s.journal ++ calls.map fun call =>
      (s.clock.now, .backend x.name (.call call.method call.params)) := by
  induction calls generalizing s with
  | nil => simp [reach]
  | cons call calls ih =>
    have noted : s.noteBackend b (.call call.method call.params) =
        s.note (.backend x.name (.call call.method call.params)) := by simp [noteBackend, found]
    rw [reach_cons, ih (by rw [backend?_noteBackend, found]), noted]
    simp [note]

theorem Served.reach (h : s.Served) (up : s.hasStarted b) (live : s.disposals b = 0)
    (calls : List Call) : (s.reach b calls).Served := by
  induction calls generalizing s with
  | nil => exact h
  | cons call calls ih =>
    have calm := Calm.noteBackend s b (e := .call call.method call.params) rfl
    exact ih (h.call up live _ _) ((calm.hasStarted b).2 up) ((calm.disposals b).trans live)

theorem journal_settleCall (s : Site) (b : BackendId) (method : Method) (start : Time)
    (result : CallResult) : (s.settleCall b method start result).journal = s.journal := by
  unfold settleCall
  split
  · rfl
  · dsimp only
    split <;> rfl

/-- A report leaves the gate as it is. -/
theorem isOpen_settleCall (open' : s.isOpen c) (b : BackendId) (method : Method) (start : Time)
    (result : CallResult) : (s.settleCall b method start result).isOpen c := by
  cases found : s.backend? b with
  | none => simpa [settleCall, found] using open'
  | some x =>
    have kept : c = b →
        (x.middleware.settle method start s.clock.now true result).1.connected := by
      rintro rfl
      have connected : x.middleware.connected := by simpa [isOpen, found] using open'
      rcases x.middleware.settle_cases method start s.clock.now true result with
        ⟨_, _, _, _, _, settled⟩ | ⟨settled, -⟩ <;> simpa [settled] using connected
    have modified := isOpen_modifyMiddleware (c := b) (f := fun _ =>
      (x.middleware.settle method start s.clock.now true result).1) open' fun same _ _ => kept same
    simp only [settleCall, found]
    split <;> exact modified

/-- A call that goes on reaches the server with its calls, and then waits for an answer or is over
and may be reported. -/
theorem proceed_cases (s : Site) (b : BackendId) (p : Passage) (answers : List CallResult) :
    ((s.proceed b p answers).1 = s.reach b (p.flow.onward answers).1 ∨
        ∃ result, (s.proceed b p answers).1 =
          (s.reach b (p.flow.onward answers).1).settleCall b p.method p.start result) ∧
      ((∃ result, (s.proceed b p answers).2 = .closed (some b) result) ∨
        ∃ q, (s.proceed b p answers).2 = .passing b q ∧ q.flow = (p.flow.onward answers).2) := by
  cases left : (p.flow.onward answers).2 with
  | ended result =>
    simp only [proceed, left]
    refine ⟨?_, .inl ⟨result, rfl⟩⟩
    split
    · exact .inr ⟨result, rfl⟩
    · exact .inl rfl
  | remark | pause | reach =>
    simp only [proceed, left]
    exact ⟨.inl trivial, .inr ⟨_, rfl, rfl⟩⟩

theorem calm_proceed (s : Site) (b : BackendId) (p : Passage) (answers : List CallResult) :
    s.Calm (s.proceed b p answers).1 := by
  have reached := calm_reach s b (p.flow.onward answers).1
  rcases (proceed_cases s b p answers).1 with same | ⟨result, same⟩ <;> rw [same]
  · exact reached
  · exact reached.trans (.settleCall ..)

theorem isOpen_reach (s : Site) (b : BackendId) (calls : List Call) (c : BackendId) :
    (s.reach b calls).isOpen c = s.isOpen c := by
  rw [isOpen, backend?_reach, isOpen]

theorem isOpen_proceed (open' : s.isOpen c) (b : BackendId) (p : Passage)
    (answers : List CallResult) : (s.proceed b p answers).1.isOpen c := by
  have reached : (s.reach b (p.flow.onward answers).1).isOpen c := by rwa [isOpen_reach]
  rcases (proceed_cases s b p answers).1 with same | ⟨result, same⟩ <;> rw [same]
  · exact reached
  · exact isOpen_settleCall reached ..

theorem journal_proceed (s : Site) (b : BackendId) (p : Passage) (answers : List CallResult) :
    (s.proceed b p answers).1.journal = (s.reach b (p.flow.onward answers).1).journal := by
  rcases (proceed_cases s b p answers).1 with same | ⟨result, same⟩ <;> rw [same]
  exact journal_settleCall ..

/-- A call goes on at a server that it may reach, or does not reach it. -/
theorem Served.proceed (h : s.Served) (p : Passage) (answers : List CallResult)
    (reaches : (p.flow.onward answers).1 ≠ [] → s.hasStarted b ∧ s.disposals b = 0) :
    (s.proceed b p answers).1.Served := by
  have reached : (s.reach b (p.flow.onward answers).1).Served := by
    by_cases none : (p.flow.onward answers).1 = []
    · rw [none]
      exact h
    · exact h.reach (reaches none).1 (reaches none).2 _
  exact reached.quiet (.of_journal (journal_proceed s b p answers))

/-- What has been counted stays counted. -/
theorem tally_le (journal : s.journal <+: t.journal) (grows : s.Grows t) (p : BackendEvent → Bool)
    (b : BackendId) : s.tally p b ≤ t.tally p b := by
  cases found : s.backend? b with
  | none => simp [tally, found]
  | some x =>
    obtain ⟨y, also, name⟩ := grows.name found
    simp only [tally, found, also, name, eventsOf]
    exact (journal.sublist.filterMap _).countP_le

end Site

namespace Manager

/-- A manager and the calls that were made to it. -/
structure Service where
  moment : Moment
  visits : List Visit := []

inductive Service.Move
  | manager (next : Manager.Move)
  | call (request : Request)
  /-- A server answers a call that it was reached with. -/
  | answer (n : Nat) (result : CallResult)

namespace Service

def opening (variant : Variant) (host : Host) (plan : BackendName → Plan) (clock : Clock) :
    Service := { moment := .opening variant host plan clock }

/-- Whoever waits for the job and hears that it is over goes on at once. -/
def hand (w : Service) (j : JobId) : Service :=
  match w.moment.manager.outcome? j, w.visits.find? (·.job? = some j) with
  | some outcome, some v =>
    let (site, stage) := w.moment.site.meet outcome v.request
    { moment := { w.moment with manager := w.moment.manager.forget j, site }
      visits := w.visits.map fun u => if u.job? = some j then { u with stage } else u }
  | _, _ => w

/-- A server's answer. -/
def reply (w : Service) (n : Nat) (result : CallResult) : Service :=
  match w.visits[n]? with
  | some ⟨request, .passing b p⟩ =>
    let (site, stage) := w.moment.site.proceed b (p.resume result) []
    { moment := { w.moment with site }, visits := w.visits.set n ⟨request, stage⟩ }
  | _ => w

/-- Between turns calls are made and answers come. -/
def move (w : Service) : Move → Service
  | .manager next =>
    let v := { w with moment := w.moment.move next }
    match w.moment.turn.bind Duty.job? with
    | some j => v.hand j
    | none => v
  | .call request =>
    if w.moment.turn.isNone then
      { moment := w.moment.move (.ask .lookUp)
        visits := w.visits ++ [⟨request, .asking w.moment.manager.nextJob⟩] }
    else w
  | .answer n result => if w.moment.turn.isNone then w.reply n result else w

def run (w : Service) (moves : List Move) : Service := moves.foldl move w

theorem run_concat (w : Service) (moves : List Move) (next : Move) :
    w.run (moves ++ [next]) = (w.run moves).move next := by
  simp [run]

variable {w : Service} {n : Nat} {v : Visit} {j : JobId}

/-- What holds for the manager and the site whatever the calls do. -/
structure Steady (w : Moment) : Prop where
  sound : w.Sound
  bound : w.manager.Bound
  served : w.site.Served
  wired : w.manager.Wired w.site

namespace Steady

variable {w : Moment}

theorem move (h : Steady w) (next : Manager.Move) : Steady (w.move next) := by
  have sound := h.sound.move next
  have course := Moment.course_move h.sound.lined next
  generalize w.move next = v at course sound
  cases course with
  | step turn job found step same =>
    have tick : w.site.SameServers { w.site with clock := w.site.clock.tick } := ⟨rfl, rfl, rfl⟩
    have still : Aside (fun _ => True) w.manager w.manager :=
      .of_jobs rfl rfl rfl rfl rfl rfl rfl rfl id
    have served : Site.Served { w.site with clock := w.site.clock.tick } := h.served
    have wired : w.manager.Wired { w.site with clock := w.site.clock.tick } := h.wired
    exact ⟨sound, h.bound.jobStep step, served.quiet step.quiet,
      wired.jobStep (h.sound.accounts.aside still tick) found step⟩
  | aside manager site turn =>
    refine ⟨sound, fun started => ?_, h.served.quiet (.of_journal site.journal),
      fun b inside => ?_⟩
    · exact manager.scope ▸ h.bound (manager.started ▸ started)
    · have open' := h.wired b (manager.slot ▸ inside)
      simpa [Site.isOpen, Site.backend?, site.backends] using open'
  | ended turn free => exact ⟨sound, h.bound, h.served, h.wired⟩

theorem forget (h : Steady w) {j : JobId} (ended : (w.manager.outcome? j).isSome) :
    Steady { w with manager := w.manager.forget j } where
  sound := h.sound.course (.aside (Moment.aside_forget ended) ⟨rfl, rfl, rfl⟩ (.inl rfl))
  bound := h.bound
  served := h.served
  wired := h.wired

/-- The server in the slot may be called. -/
theorem proceed (h : Steady w) (b : BackendId) (p : Passage) (answers : List CallResult)
    (reaches : (p.flow.onward answers).1 ≠ [] → w.manager.slot = some b) :
    Steady { w with site := (w.site.proceed b p answers).1 } where
  sound := h.sound.calm (Site.calm_proceed w.site b p answers)
  bound := h.bound
  served := h.served.proceed p answers fun calls =>
    have inside := h.sound.accounts.slot (reaches calls)
    ⟨inside.2.2, inside.2.1⟩
  wired c inside := Site.isOpen_proceed (h.wired c inside) b p answers

theorem meet (h : Steady w) {outcome : Job.Outcome}
    (current : ∀ b, outcome = .found (some b) → w.manager.slot = some b) (request : Request) :
    Steady { w with site := (w.site.meet outcome request).1 } := by
  unfold Site.meet
  split
  · next b =>
    split
    · exact h.proceed b _ _ fun _ => current b rfl
    · exact h
  · exact h

end Steady

/-- Calls that wait have jobs that are not over, one each. -/
structure Sound (w : Service) : Prop where
  steady : Steady w.moment
  asking : ∀ {n : Nat} {v : Visit} {j}, w.visits[n]? = some v → v.job? = some j →
    ∃ x, w.moment.manager.job? j = some x ∧ x.task = .lookUp ∧ ¬ x.isDone
  apart : ∀ {n k : Nat} {u v : Visit} {j}, w.visits[n]? = some u → w.visits[k]? = some v →
    u.job? = some j → v.job? = some j → n = k
  prompt : ∀ {n : Nat} {v : Visit} {b p}, w.visits[n]? = some v → v.stage = .passing b p →
    p.flow.IsPrompt

theorem sound_opening (variant : Variant) (host : Host) (plan : BackendName → Plan)
    (clock : Clock) : (opening variant host plan clock).Sound where
  steady :=
    { sound := Moment.sound_opening variant host plan clock
      bound := by simp [opening, Moment.opening, new, Bound]
      served := by simp [opening, Moment.opening, Site.Served]
      wired := by simp [opening, Moment.opening, new, Wired] }
  asking := by simp [opening]
  apart := by simp [opening]
  prompt := by simp [opening]

/-- Whoever has gone on does not wait for the slot any more, and then only for the server. -/
theorem stage_meet (s : Site) (outcome : Job.Outcome) (request : Request) :
    (s.meet outcome request).2.job? = none ∧
      ∀ b p, (s.meet outcome request).2 = .passing b p → p.flow.IsPrompt := by
  unfold Site.meet
  split
  · split
    · next c _ x found =>
      have stages := (Site.proceed_cases s c
        (.enter x.middleware request.chain s.clock.now request.call) request.answers).2
      rcases stages with ⟨r, same⟩ | ⟨q, same, flow⟩
      · simp [Visit.Stage.job?, same]
      · refine ⟨by simp [Visit.Stage.job?, same], fun b p passing => ?_⟩
        obtain ⟨-, rfl⟩ := Visit.Stage.passing.inj (same.symm.trans passing)
        rw [flow]
        simp only [Passage.enter]
        split
        · exact request.prompt
        · trivial
    · exact ⟨rfl, by simp⟩
  · exact ⟨rfl, by simp⟩

/-- The manager has moved, and the call that has found the server in the slot, or none there, has
gone on. -/
structure Handed (w v : Service) (next : Manager.Move) (n : Nat) (u : Visit) (j : JobId) :
    Prop where
  visit : w.visits[n]? = some u
  job : u.job? = some j
  turn : w.moment.turn.bind Duty.job? = some j
  /-- Nobody had the slot. -/
  head : w.moment.manager.line.head? = some j
  found : ∃ y, (w.moment.move next).manager.job? j = some y ∧ y.task = .lookUp ∧
    y.stage = .done (.found w.moment.manager.slot)
  slot : (w.moment.move next).manager.slot = w.moment.manager.slot
  site : (w.moment.move next).site = { w.moment.site with clock := w.moment.site.clock.tick }
  moment : v.moment = { w.moment.move next with
    manager := (w.moment.move next).manager.forget j
    site := ((w.moment.move next).site.meet (.found w.moment.manager.slot) u.request).1 }
  visits : v.visits = w.visits.map fun v => if v.job? = some j then
    { v with
      stage := ((w.moment.move next).site.meet (.found w.moment.manager.slot) u.request).2 } else v

namespace Handed

variable {w v : Service} {next : Manager.Move} {n : Nat} {u : Visit} {j : JobId}

/-- Where the calls are afterwards. -/
theorem visit_cases (handed : w.Handed v next n u j) {k : Nat} {u' : Visit}
    (there : v.visits[k]? = some u') :
    (∃ u₀, w.visits[k]? = some u₀ ∧ u₀.job? = some j ∧ u' = { u₀ with
        stage := ((w.moment.move next).site.meet (.found w.moment.manager.slot) u.request).2 }) ∨
      w.visits[k]? = some u' ∧ u'.job? ≠ some j := by
  rw [handed.visits, List.getElem?_map, Option.map_eq_some_iff] at there
  obtain ⟨u₀, before, rfl⟩ := there
  split
  · next asks => exact .inl ⟨u₀, before, asks, rfl⟩
  · next other => exact .inr ⟨before, other⟩

theorem here (handed : w.Handed v next n u j) : v.visits[n]? = some { u with
    stage := ((w.moment.move next).site.meet (.found w.moment.manager.slot) u.request).2 } := by
  rw [handed.visits, List.getElem?_map, handed.visit, Option.map_some, if_pos handed.job]

/-- Who still looks for the server looked for it before. -/
theorem waiting (handed : w.Handed v next n u j) {k : Nat} {u' : Visit} {i : JobId}
    (there : v.visits[k]? = some u') (asks : u'.job? = some i) :
    w.visits[k]? = some u' ∧ i ≠ j := by
  rcases handed.visit_cases there with ⟨u₀, -, -, rfl⟩ | ⟨before, other⟩
  · exact absurd (asks.symm.trans (stage_meet _ _ u.request).1) (by simp)
  · exact ⟨before, fun same => other (same ▸ asks)⟩

theorem outcome (handed : w.Handed v next n u j) :
    (w.moment.move next).manager.outcome? j = some (.found w.moment.manager.slot) := by
  obtain ⟨⟨id, task, stage⟩, found, -, rfl⟩ := handed.found
  simp [outcome?, found]

theorem sound (handed : w.Handed v next n u j) (h : w.Sound) : v.Sound where
  steady := by
    have forgotten := (h.steady.move next).forget (Option.isSome_of_eq_some handed.outcome)
    rw [handed.moment]
    refine forgotten.meet (fun b found => ?_) u.request
    exact handed.slot.trans (Job.Outcome.found.inj found)
  asking {k u' i} there asks := by
    obtain ⟨before, other⟩ := handed.waiting there asks
    obtain ⟨x, found, task, live⟩ := h.asking before asks
    obtain rfl := job?_id found
    obtain ⟨y, found, task, live | ⟨-, turn, -⟩⟩ :=
      Moment.move_lookUp h.steady.sound.lined found task live next
    · refine ⟨y, ?_, task, live⟩
      rw [handed.moment, job?_forget, if_neg other]
      exact found
    · exact absurd (Option.some.inj (turn.symm.trans handed.turn)) other
  apart there also asks asks' :=
    h.apart (handed.waiting there asks).1 (handed.waiting also asks').1 asks asks'
  prompt {k u' b p} there passing := by
    rcases handed.visit_cases there with ⟨u₀, -, -, rfl⟩ | ⟨before, -⟩
    · exact (stage_meet _ _ u.request).2 b p passing
    · exact h.prompt before passing

end Handed

/-- A move of the manager hands at most one call on. -/
theorem Sound.handed (h : w.Sound) (next : Manager.Move) :
    (w.move (.manager next) = { w with moment := w.moment.move next } ∧
      ∀ {n : Nat} {v : Visit} {j}, w.visits[n]? = some v → v.job? = some j →
        ∃ y, (w.moment.move next).manager.job? j = some y ∧ y.task = .lookUp ∧ ¬ y.isDone) ∨
      ∃ n u j, w.Handed (w.move (.manager next)) next n u j := by
  have waits {n : Nat} {v : Visit} {j} (there : w.visits[n]? = some v) (asks : v.job? = some j) :
      ∃ y, (w.moment.move next).manager.job? j = some y ∧ y.task = .lookUp ∧
        (¬ y.isDone ∨ y.stage = .done (.found w.moment.manager.slot) ∧
          w.moment.turn.bind Duty.job? = some j ∧ w.moment.manager.line.head? = some j ∧
          (w.moment.move next).manager.slot = w.moment.manager.slot ∧
          (w.moment.move next).site =
            { w.moment.site with clock := w.moment.site.clock.tick }) := by
    obtain ⟨x, found, task, live⟩ := h.asking there asks
    obtain rfl := job?_id found
    exact Moment.move_lookUp h.steady.sound.lined found task live next
  by_cases met : ∃ (n : Nat) (u : Visit) (j : JobId), w.visits[n]? = some u ∧ u.job? = some j ∧
      ∃ y, (w.moment.move next).manager.job? j = some y ∧ y.isDone
  · right
    obtain ⟨n, u, j, there, asks, y, found, done⟩ := met
    obtain ⟨z, also, task, stage⟩ := waits there asks
    obtain rfl : y = z := Option.some.inj (found.symm.trans also)
    rcases stage with live | ⟨stage, turn, head, slot, site⟩
    · exact absurd done live
    · have outcome : (w.moment.move next).manager.outcome? j =
          some (.found w.moment.manager.slot) := by
        obtain ⟨id, task', stage'⟩ := y
        obtain rfl : stage' = _ := stage
        simp [outcome?, found]
      have mine : w.visits.find? (·.job? = some j) = some u := by
        cases first : w.visits.find? (·.job? = some j) with
        | none =>
          have none := List.find?_eq_none.1 first u (List.mem_of_getElem? there)
          simp [asks] at none
        | some v =>
          have also : v.job? = some j := by simpa using List.find?_some first
          obtain ⟨k, before⟩ := List.getElem?_of_mem (List.mem_of_find?_eq_some first)
          obtain rfl := h.apart there before asks also
          exact before.symm.trans there
      refine ⟨n, u, j, there, asks, turn, head, ⟨y, found, task, stage⟩, slot, site, ?_, ?_⟩ <;>
        simp [Service.move, turn, hand, outcome, mine]
  · left
    simp only [not_exists, not_and] at met
    refine ⟨?_, fun there asks => ?_⟩
    · simp only [Service.move]
      split
      · next j turn =>
        cases outcome : (w.moment.move next).manager.outcome? j with
        | none => simp [hand, outcome]
        | some o =>
          cases first : w.visits.find? (·.job? = some j) with
          | none => simp [hand, outcome, first]
          | some v =>
            have asks : v.job? = some j := by simpa using List.find?_some first
            obtain ⟨k, there⟩ := List.getElem?_of_mem (List.mem_of_find?_eq_some first)
            obtain ⟨y, found, done⟩ := isDone_of_outcome? (Option.isSome_of_eq_some outcome)
            exact absurd done (met k v j there asks y found)
      · rfl
    · obtain ⟨y, found, task, -⟩ := waits there asks
      exact ⟨y, found, task, met _ _ _ there asks y found⟩

theorem Sound.call (h : w.Sound) (free : w.moment.turn = none) (request : Request) :
    (w.move (.call request)).Sound := by
  have lined := h.steady.sound.lined
  have moved : w.move (.call request) =
      { moment := w.moment.move (.ask .lookUp)
        visits := w.visits ++ [⟨request, .asking w.moment.manager.nextJob⟩] } := by
    simp [Service.move, free]
  have manager : (w.moment.move (.ask .lookUp)).manager = (w.moment.manager.ask .lookUp).1 := by
    simp [Moment.move, free, Moment.outside]
  have visits {n : Nat} {v : Visit} (there : (w.move (.call request)).visits[n]? = some v) :
      w.visits[n]? = some v ∨
        n = w.visits.length ∧ v = ⟨request, .asking w.moment.manager.nextJob⟩ := by
    rw [moved] at there
    by_cases old : n < w.visits.length
    · exact .inl (by simpa [List.getElem?_append_left old] using there)
    · rw [List.getElem?_append_right (Nat.le_of_not_lt old), List.getElem?_singleton] at there
      split at there
      · next last => exact .inr ⟨by omega, (Option.some.inj there).symm⟩
      · cases there
  have older {n : Nat} {v : Visit} {j} (there : w.visits[n]? = some v) (asks : v.job? = some j) :
      j < w.moment.manager.nextJob := by
    obtain ⟨x, found, -⟩ := h.asking there asks
    exact job?_id found ▸ lined.next x (mem_of_job? found)
  refine ⟨?_, fun there asks => ?_, fun there also asks asks' => ?_, fun there passing => ?_⟩
  · rw [moved]
    exact h.steady.move (.ask .lookUp)
  · rw [moved, manager, job?_ask lined.free]
    rcases visits there with before | ⟨-, rfl⟩
    · obtain ⟨x, found, task, live⟩ := h.asking before asks
      rw [if_neg (Nat.ne_of_lt (older before asks))]
      exact ⟨x, found, task, live⟩
    · obtain rfl := Option.some.inj asks
      exact ⟨_, if_pos rfl, rfl, by simp [Job.isDone]⟩
  · rcases visits there with before | ⟨rfl, rfl⟩ <;> rcases visits also with before' | ⟨rfl, rfl⟩
    · exact h.apart before before' asks asks'
    · obtain rfl := Option.some.inj asks'
      exact absurd (older before asks) (Nat.lt_irrefl _)
    · obtain rfl := Option.some.inj asks
      exact absurd (older before' asks') (Nat.lt_irrefl _)
    · rfl
  · rcases visits there with before | ⟨-, rfl⟩
    · exact h.prompt before passing
    · cases passing

/-- An answer takes its call to its end and touches no other. -/
theorem Sound.reply (h : w.Sound) (n : Nat) (result : CallResult) : (w.reply n result).Sound := by
  unfold Service.reply
  split
  · next request b p there =>
    obtain ⟨last, ends⟩ := Passage.onward_resume (h.prompt there rfl) result
    have answered : ∃ r, (w.moment.site.proceed b (p.resume result) []).2 = .closed (some b) r := by
      simp [Site.proceed, ends]
    have visits {k : Nat} {v : Visit}
        (found : (w.visits.set n ⟨request, (w.moment.site.proceed b (p.resume result) []).2⟩)[k]? =
          some v) : w.visits[k]? = some v ∨ ∃ r, v.stage = .closed (some b) r := by
      rw [List.getElem?_set] at found
      split at found
      · split at found
        · obtain rfl := Option.some.inj found
          exact .inr answered
        · cases found
      · exact .inl found
    have waiting {k : Nat} {v : Visit} {j}
        (found : (w.visits.set n ⟨request, (w.moment.site.proceed b (p.resume result) []).2⟩)[k]? =
          some v) (asks : v.job? = some j) : w.visits[k]? = some v := by
      rcases visits found with before | ⟨r, gone⟩
      · exact before
      · simp [Visit.job?, Visit.Stage.job?, gone] at asks
    refine ⟨?_, fun found asks => h.asking (waiting found asks) asks,
      fun found also asks asks' => h.apart (waiting found asks) (waiting also asks') asks asks',
      fun found passing => ?_⟩
    · exact h.steady.proceed b _ _ fun some => absurd (congrArg Prod.fst ends) some
    · rcases visits found with before | ⟨r, gone⟩
      · exact h.prompt before passing
      · simp [gone] at passing
  · exact h

theorem Sound.move (h : w.Sound) (next : Move) : (w.move next).Sound := by
  cases next with
  | manager next =>
    rcases h.handed next with ⟨moved, waits⟩ | ⟨n, u, j, handed⟩
    · rw [moved]
      exact ⟨h.steady.move next, waits, h.apart, h.prompt⟩
    · exact handed.sound h
  | call request =>
    cases free : w.moment.turn with
    | none => exact h.call free request
    | some duty => simpa [Service.move, free] using h
  | answer n result =>
    cases free : w.moment.turn with
    | none => simpa [Service.move, free] using h.reply n result
    | some duty => simpa [Service.move, free] using h

theorem Sound.run (h : w.Sound) (moves : List Move) : (w.run moves).Sound := by
  induction moves generalizing w with
  | nil => exact h
  | cons next moves ih => exact ih (h.move next)

/-- Who looks for the server does so until it is handed on. -/
theorem Sound.visit_move (h : w.Sound) (there : w.visits[n]? = some v) (asks : v.job? = some j)
    (next : Move) : (w.move next).visits[n]? = some v ∨
      ∃ m, next = .manager m ∧ w.Handed (w.move next) m n v j := by
  cases next with
  | manager m =>
    rcases h.handed m with ⟨moved, -⟩ | ⟨k, u, i, handed⟩
    · exact .inl (by rw [moved]; exact there)
    · by_cases same : i = j
      · subst same
        obtain rfl := h.apart there handed.visit asks handed.job
        obtain rfl : u = v := Option.some.inj (handed.visit.symm.trans there)
        exact .inr ⟨m, rfl, handed⟩
      · left
        have other : v.job? ≠ some i := fun also => same (Option.some.inj (also.symm.trans asks))
        rw [handed.visits, List.getElem?_map, there, Option.map_some, if_neg other]
  | call request =>
    left
    have inside := (List.getElem?_eq_some_iff.1 there).1
    simp only [Service.move]
    split
    · rw [List.getElem?_append_left inside, there]
    · exact there
  | answer k result =>
    left
    simp only [Service.move, Service.reply]
    split
    · split
      · next request b p here =>
        have other : k ≠ n := by
          rintro rfl
          obtain rfl : v = _ := Option.some.inj (there.symm.trans here)
          simp [Visit.job?, Visit.Stage.job?] at asks
        rw [List.getElem?_set_ne other, there]
      · exact there
    · exact there

/-- Servers keep their names and the journal what it says. -/
theorem Sound.later (h : w.Sound) (next : Move) :
    w.moment.site.journal <+: (w.move next).moment.site.journal ∧
      w.moment.site.Grows (w.move next).moment.site := by
  have moved (m : Manager.Move) : w.moment.site.journal <+: (w.moment.move m).site.journal ∧
      w.moment.site.Grows (w.moment.move m).site := by
    have course := Moment.course_move h.steady.sound.lined m
    generalize w.moment.move m = v at course
    cases course with
    | step turn job found step same =>
      obtain ⟨news, journal, -⟩ := step.quiet
      have tick : w.moment.site.Calm { w.moment.site with clock := w.moment.site.clock.tick } :=
        .of_journal rfl rfl (.inl rfl)
      exact ⟨⟨news, journal.symm⟩, (Site.Grows.of_calm tick).trans step.grows⟩
    | aside manager site turn =>
      exact ⟨site.journal ▸ List.prefix_rfl,
        .of_calm (.of_journal site.backends site.asked (.inl site.journal))⟩
    | ended turn free => exact ⟨List.prefix_rfl, .refl _⟩
  have proceeds (s : Site) (b : BackendId) (p : Passage) (answers : List CallResult) :
      s.journal <+: (s.proceed b p answers).1.journal ∧ s.Grows (s.proceed b p answers).1 := by
    rw [Site.journal_proceed]
    exact ⟨Site.journal_reach .., .of_calm (Site.calm_proceed ..)⟩
  cases next with
  | manager m =>
    rcases h.handed m with ⟨same, -⟩ | ⟨k, u, i, handed⟩
    · rw [same]
      exact moved m
    · rw [handed.moment]
      have meets : (w.moment.move m).site.journal <+:
            ((w.moment.move m).site.meet (.found w.moment.manager.slot) u.request).1.journal ∧
          (w.moment.move m).site.Grows
            ((w.moment.move m).site.meet (.found w.moment.manager.slot) u.request).1 := by
        unfold Site.meet
        split
        · split
          · exact proceeds ..
          · exact ⟨List.prefix_rfl, .refl _⟩
        · exact ⟨List.prefix_rfl, .refl _⟩
      exact ⟨(moved m).1.trans meets.1, (moved m).2.trans meets.2⟩
  | call request =>
    simp only [Service.move]
    split
    · exact moved (.ask .lookUp)
    · exact ⟨List.prefix_rfl, .refl _⟩
  | answer k result =>
    simp only [Service.move, Service.reply]
    split
    · split
      · exact proceeds ..
      · exact ⟨List.prefix_rfl, .refl _⟩
    · exact ⟨List.prefix_rfl, .refl _⟩

/-- A server whose disposal was called is not in the slot any more. -/
theorem Sound.parted (h : w.Sound) {b : BackendId} (gone : 0 < w.moment.site.disposals b)
    (moves : List Move) : (w.run moves).moment.manager.slot ≠ some b := by
  have kept : 0 < (w.run moves).moment.site.disposals b := by
    induction moves generalizing w with
    | nil => exact gone
    | cons next moves ih =>
      obtain ⟨journal, grows⟩ := h.later next
      exact ih (h.move next) (Nat.lt_of_lt_of_le gone (Site.tally_le journal grows _ b))
  intro inside
  have live := ((h.run moves).steady.sound.accounts.slot inside).2.1
  omega

/-- Is there a restart that has the slot? -/
def Renews (w : Service) : Prop :=
  ∃ x, w.moment.manager.job? x.id = some x ∧ x.task = .restart ∧ x.holds

/-- A restart that had the slot fails in the move. -/
def Fails (w : Service) (next : Move) : Prop :=
  ∃ x cause, w.moment.manager.job? x.id = some x ∧ x.task = .restart ∧ x.holds ∧
    (w.move next).moment.manager.outcome? x.id = some (.failed cause)

/-- A restart has failed in the run, and since then there was no server in the slot. -/
def HasFailed (w : Service) (moves : List Move) : Prop :=
  ∃ past next later, moves = past ++ next :: later ∧ (w.run past).Fails next ∧
    ∀ between, between <+: later →
      (w.run (past ++ next :: between)).moment.manager.slot = none

/-- What a call does to the manager is nothing to restarts, to the slot and to the disposal. -/
theorem Sound.manager_move (h : w.Sound) (next : Move) :
    ∃ k : Manager, (k = w.moment.manager ∨ ∃ m, k = (w.moment.move m).manager) ∧
      (w.move next).moment.manager.slot = k.slot ∧
      (w.move next).moment.manager.disposed = k.disposed ∧
      (∀ x : Job, x.task = .restart → k.job? x.id = some x →
        (w.move next).moment.manager.job? x.id = some x) ∧
      ∀ i cause, k.outcome? i = some (.failed cause) →
        (w.move next).moment.manager.outcome? i = some (.failed cause) := by
  cases next with
  | manager m =>
    refine ⟨_, .inr ⟨m, rfl⟩, ?_⟩
    rcases h.handed m with ⟨same, -⟩ | ⟨n, u, j, handed⟩
    · rw [same]
      exact ⟨rfl, rfl, fun _ _ => id, fun _ _ => id⟩
    · rw [handed.moment]
      refine ⟨rfl, rfl, fun x task found => ?_, fun i cause failed => ?_⟩
      · obtain ⟨y, also, lookUp, -⟩ := handed.found
        have other : x.id ≠ j := by
          rintro rfl
          obtain rfl : x = y := Option.some.inj (found.symm.trans also)
          simp [task] at lookUp
        rw [job?_forget, if_neg other]
        exact found
      · have other : i ≠ j := by
          rintro rfl
          simp [handed.outcome] at failed
        rw [outcome?, job?_forget, if_neg other]
        exact failed
  | call request =>
    simp only [Service.move]
    split
    · exact ⟨_, .inr ⟨.ask .lookUp, rfl⟩, rfl, rfl, fun _ _ => id, fun _ _ => id⟩
    · exact ⟨_, .inl rfl, rfl, rfl, fun _ _ => id, fun _ _ => id⟩
  | answer k result =>
    refine ⟨_, .inl rfl, ?_⟩
    simp only [Service.move, Service.reply]
    split
    · split <;> exact ⟨rfl, rfl, fun _ _ => id, fun _ _ => id⟩
    · exact ⟨rfl, rfl, fun _ _ => id, fun _ _ => id⟩

/-- A restart that has the slot keeps it, puts a server into it, or fails. -/
theorem Sound.renews_move (h : w.Sound) (renews : w.Renews) (next : Move) :
    (w.move next).Renews ∨ (w.move next).moment.manager.slot ≠ none ∨
      w.Fails next ∧ (w.move next).moment.manager.slot = none := by
  obtain ⟨x, found, task, holds⟩ := renews
  obtain ⟨k, rfl | ⟨m, rfl⟩, slot, -, restarts, failures⟩ := h.manager_move next
  · exact .inl ⟨x, restarts x task found, task, holds⟩
  · rw [slot]
    rcases Moment.move_restart h.steady.sound h.steady.bound found task holds m with
      ⟨y, here, also, holding⟩ | filled | ⟨cause, failed, empty⟩
    · have id : y.id = x.id := job?_id here
      exact .inl ⟨y, restarts y also (id ▸ here), also, holding⟩
    · exact .inr (.inl filled)
    · exact .inr (.inr ⟨⟨x, cause, found, task, holds, failures _ _ failed⟩, empty⟩)

theorem Sound.slot_move (h : w.Sound) (filled : w.moment.manager.slot ≠ none) (next : Move) :
    (w.move next).Renews ∨ (w.move next).moment.manager.slot ≠ none ∨
      (w.move next).moment.manager.disposed := by
  obtain ⟨k, rfl | ⟨m, rfl⟩, slot, disposed, restarts, -⟩ := h.manager_move next
  · exact .inr (.inl (slot ▸ filled))
  · rw [slot, disposed]
    rcases Moment.move_slot h.steady.sound filled m with still | gone | ⟨x, found, task, holds⟩
    · exact .inr (.inl still)
    · exact .inr (.inr gone)
    · exact .inl ⟨x, restarts x task found, task, holds⟩

theorem Sound.disposed_move (h : w.Sound) (disposed : w.moment.manager.disposed) (next : Move) :
    (w.move next).moment.manager.disposed := by
  obtain ⟨k, rfl | ⟨m, rfl⟩, -, same, -⟩ := h.manager_move next
  · exact same ▸ disposed
  · exact same ▸ Moment.move_disposed h.steady.sound.lined disposed m

/-- When a restart has had the slot, there is a server in it, or the manager is disposed of, or the
last restart has failed, as long as no other one has it. -/
theorem Sound.after_restart (h : w.Sound) (renews : w.Renews) (moves : List Move) :
    (w.run moves).Renews ∨ (w.run moves).moment.manager.slot ≠ none ∨
      (w.run moves).moment.manager.disposed ∨ w.HasFailed moves := by
  induction moves using List.reverseRecOn with
  | nil => exact .inl renews
  | append_singleton moves next ih =>
    have sound := h.run moves
    rw [run_concat]
    rcases ih with renews | filled | disposed | ⟨past, first, later, rfl, fails, empty⟩
    · rcases sound.renews_move renews next with renews | filled | ⟨fails, empty⟩
      · exact .inl renews
      · exact .inr (.inl filled)
      · refine .inr (.inr (.inr ⟨moves, next, [], by simp, fails, fun between none => ?_⟩))
        rw [List.prefix_nil.1 none, run_concat]
        exact empty
    · rcases sound.slot_move filled next with renews | filled | disposed
      · exact .inl renews
      · exact .inr (.inl filled)
      · exact .inr (.inr (.inl disposed))
    · exact .inr (.inr (.inl (sound.disposed_move disposed next)))
    · by_cases filled : ((w.run (past ++ first :: later)).move next).moment.manager.slot = none
      · refine .inr (.inr (.inr
          ⟨past, first, later ++ [next], by simp, fails, fun between part => ?_⟩))
        rcases List.prefix_concat_iff.1 part with rfl | part
        · rwa [← List.cons_append, ← List.append_assoc, run_concat]
        · exact empty between part
      · exact .inr (.inl filled)

/-- While a job has the slot, whoever looks for the server goes on looking. -/
theorem Sound.waits_move (h : w.Sound) (there : w.visits[n]? = some v) (asks : v.job? = some j)
    {x : Job} (found : w.moment.manager.job? x.id = some x) (holds : x.holds) (next : Move) :
    (w.move next).visits[n]? = some v := by
  rcases h.visit_move there asks next with same | ⟨m, rfl, handed⟩
  · exact same
  · have head := h.steady.sound.lined.first found holds
    obtain rfl : x.id = j := Option.some.inj (head.symm.trans handed.head)
    obtain ⟨y, also, lookUp, -⟩ := h.asking there asks
    obtain rfl : x = y := Option.some.inj (found.symm.trans also)
    have fits := h.steady.sound.lined.fits found
    cases stage : x.stage <;> simp [Job.holds, Job.fits, stage, lookUp] at holds fits

/-- How many calls look for the server. -/
def looking (w : Service) : Nat := (w.visits.map fun v => v.job?.isSome.toNat).sum

theorem Handed.looking_lt {v : Service} {next : Manager.Move} {u : Visit}
    (handed : w.Handed v next n u j) : v.looking < w.looking := by
  have gone := (stage_meet (w.moment.move next).site (.found w.moment.manager.slot) u.request).1
  rw [looking, looking, handed.visits, List.map_map]
  refine List.sum_lt_sum _ _ (fun u' _ => ?_) ⟨u, List.mem_of_getElem? handed.visit, ?_⟩
  · simp only [Function.comp_apply]
    split
    · simp [Visit.job?, gone]
    · exact Nat.le_refl _
  · simp only [Function.comp_apply, if_pos handed.job]
    have asked : u.stage.job? = some j := handed.job
    simp [Visit.job?, gone, asked]

/-- The manager's moves are the same whether calls wait or not, until one is handed on. -/
theorem Sound.run_cases (h : w.Sound) (moves : List Manager.Move) :
    (∃ before, before <+: moves ∧ (w.run (before.map .manager)).looking < w.looking) ∨
      (w.run (moves.map .manager)).moment = w.moment.run moves := by
  induction moves generalizing w with
  | nil => exact .inr rfl
  | cons next moves ih =>
    rcases h.handed next with ⟨same, -⟩ | ⟨n, u, j, handed⟩
    · rcases ih (h.move (.manager next)) with ⟨before, part, fewer⟩ | run
      · refine .inl ⟨next :: before, List.cons_prefix_cons.2 ⟨rfl, part⟩, ?_⟩
        have before' : (w.move (.manager next)).looking = w.looking := by
          rw [same, looking, looking]
        exact before' ▸ fewer
      · right
        have moment : (w.move (.manager next)).moment = w.moment.move next := by rw [same]
        exact run.trans (by rw [moment]; rfl)
    · exact .inl ⟨[next], by simp, handed.looking_lt⟩

/-- A call is handed on in the course of a run or looks for the server to its end. -/
theorem Sound.visit_run (h : w.Sound) (there : w.visits[n]? = some v) (asks : v.job? = some j)
    (moves : List Manager.Move) :
    (∃ before stage, before <+: moves ∧ stage.job? = none ∧
        (w.run (before.map .manager)).visits[n]? = some { v with stage }) ∨
      (w.run (moves.map .manager)).visits[n]? = some v := by
  induction moves generalizing w with
  | nil => exact .inr there
  | cons next moves ih =>
    rcases h.visit_move there asks (.manager next) with same | ⟨m, -, handed⟩
    · rcases ih (h.move (.manager next)) same with ⟨before, stage, part, gone, here⟩ | still
      · exact .inl ⟨next :: before, stage, List.cons_prefix_cons.2 ⟨rfl, part⟩, gone, here⟩
      · exact .inr still
    · exact .inl ⟨[next], _, by simp, (stage_meet _ _ v.request).1, handed.here⟩

/-- Who looks for the server can always be handed on by the manager's own moves. -/
theorem Sound.exists_handed (h : w.Sound) (there : w.visits[n]? = some v)
    (asks : v.job? = some j) : ∃ moves : List Manager.Move, (∀ next ∈ moves, next.isOwn) ∧
      ∃ stage, stage.job? = none ∧
        (w.run (moves.map .manager)).visits[n]? = some { v with stage } := by
  -- on the number of calls that wait: the manager comes to rest or hands one of them on
  induction count : w.looking using Nat.strong_induction_on generalizing w with
  | _ k ih =>
    obtain ⟨moves, own, idle, -⟩ := Moment.exists_idle h.steady.sound.lined
    have part {before : List Manager.Move} (part : before <+: moves) : ∀ m ∈ before, m.isOwn :=
      fun m mem => own m (part.subset mem)
    rcases h.run_cases moves with ⟨before, short, fewer⟩ | run
    · rcases h.visit_run there asks before with ⟨first, stage, sooner, gone, here⟩ | still
      · exact ⟨first, part (sooner.trans short), stage, gone, here⟩
      · obtain ⟨rest, also, stage, gone, here⟩ := ih _ (count ▸ fewer) (h.run _) still rfl
        refine ⟨before ++ rest, fun m mem => ?_, stage, gone, ?_⟩
        · exact (List.mem_append.1 mem).elim (part short m) (also m)
        · simpa [Service.run] using here
    · rcases h.visit_run there asks moves with ⟨first, stage, sooner, gone, here⟩ | still
      · exact ⟨first, part sooner, stage, gone, here⟩
      · obtain ⟨x, found, -, live⟩ := (h.run _).asking still asks
        rw [run] at found
        exact absurd (idle x (mem_of_job? found)) live

/-- The call was handed to the server in the slot. That one has come up, its disposal was not called
and its gate is open; so when the document is the server's, the calls that the interceptors pass on
at once have reached it. -/
structure Delivers (w v : Service) (n : Nat) (request : Request) (b : BackendId) (y : Backend) :
    Prop where
  slot : w.moment.manager.slot = some b
  server : w.moment.site.backend? b = some y
  started : w.moment.site.hasStarted b
  live : w.moment.site.disposals b = 0
  connected : y.middleware.connected
  visit : ∃ stage, v.visits[n]? = some ⟨request, stage⟩ ∧ stage.server? = some b
  reached : DocumentFilter.claims y.middleware.selector request.call.params →
    v.moment.site.journal = w.moment.site.journal ++
      ((Interceptor.compose request.chain Flow.server request.call).onward request.answers).1.map
        fun call => (w.moment.site.clock.now, .backend y.name (.call call.method call.params))

theorem Handed.delivers {v : Service} {next : Manager.Move} {u : Visit} (h : w.Sound)
    (handed : w.Handed v next n u j) {b : BackendId} (slot : w.moment.manager.slot = some b) :
    ∃ y, w.Delivers v n u.request b y := by
  obtain ⟨made, live, started⟩ := h.steady.sound.accounts.slot slot
  obtain ⟨y, server⟩ := Site.exists_backend made
  have connected : y.middleware.connected := by
    simpa [Site.isOpen, server] using h.steady.wired b slot
  have found : (w.moment.move next).site.backend? b = some y := by
    rw [handed.site]
    exact server
  have met : (w.moment.move next).site.meet (.found w.moment.manager.slot) u.request =
      (w.moment.move next).site.proceed b (.enter y.middleware u.request.chain
        (w.moment.move next).site.clock.now u.request.call) u.request.answers := by
    simp [Site.meet, slot, found]
  refine ⟨y, slot, server, started, live, connected, ⟨_, handed.here, ?_⟩, fun claims => ?_⟩
  · rw [met]
    rcases (Site.proceed_cases (w.moment.move next).site b _ _).2 with ⟨r, same⟩ | ⟨q, same, -⟩ <;>
      rw [same] <;> rfl
  · have passes : y.middleware.passes u.request.call.method u.request.call.params := by
      simp [Middleware.passes, connected, claims]
    rw [handed.moment]
    simp only [met, Site.journal_proceed]
    rw [Site.journal_reach_eq found, handed.site]
    simp [Passage.enter, passes, Clock.tick]

end Service

end Manager

end LanguageBroker
