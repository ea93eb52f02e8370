import LanguageBroker.Proofs.ClosedTable
import LanguageBroker.Proofs.Dialogue
import Mathlib.Data.List.Nodup

/-!
Requests that are given up on a connection that stays open. A response and the word of the caller
may come in any order, and the table, the queue and the request itself change in steps of their
own; still each request ends in one way, the server is told of exactly those that were given up,
once and behind their own messages, and a response that comes too late finds nothing to change.
-/

namespace LanguageBroker.Connection

/-- The number of the request that the message says was given up. -/
def cancelled? (message : Json) : Option Int :=
  match Incoming.ofJson? message with
  | some (.notification method params) =>
    if method = "$/cancelRequest" then (params.get? "id").bind Json.int? else none
  | _ => none

@[simp] theorem cancelled?_cancelMessage (id : RequestId) :
    cancelled? (cancelMessage id) = some (id : Int) := by
  simp [cancelled?, Incoming.ofJson?, cancelMessage, notificationMessage, versionMember,
    Json.object, Json.lookup_insertMember, Json.get?, Json.text?, Json.ofNat, Json.int?]

@[simp] theorem cancelled?_requestMessage (id : RequestId) (method : String) (params : Json) :
    cancelled? (requestMessage id method params) = none := by
  simp [cancelled?, Incoming.ofJson?, requestMessage, versionMember, Json.object,
    Json.lookup_insertMember, Json.get?, Json.text?]

@[simp] theorem cancelled?_replyMessage (id : Json) (answer : Except RpcError Json) :
    cancelled? (replyMessage id answer) = none := by
  cases answer <;> cases id <;>
    simp [cancelled?, Incoming.ofJson?, replyMessage, versionMember, Json.object,
      Json.lookup_insertMember, Json.get?]

/-- Has the message of the request been queued, unless the request was dropped? -/
def Ask.Stage.isAsked : Ask.Stage → Bool
  | .sent | .leaving | .ended _ => true
  | .numbered | .listed | .dropped => false

/-- Was the request given up? -/
def Ask.Stage.isGivenUp : Ask.Stage → Bool
  | .leaving | .ended .cancelled => true
  | _ => false

namespace Exchange

variable {w w' : Exchange} {moves : List Move} {next : Move} {said line : List Json}
variable {n : Nat} {a : Ask} {id : RequestId} {body message : Json}

/-- Can requests be made and answered? -/
structure IsOpen (w : Exchange) : Prop where
  table : w.connection.isShut = false
  writes : w.connection.writes = true

/-- What the writer takes in a move. -/
def handed (w : Exchange) : Move → List Json
  | .write => w.connection.queue.take 1
  | _ => []

/-- What the writer has taken, the first message first. -/
def written : Exchange → List Move → List Json
  | _, [] => []
  | w, next :: later => w.handed next ++ (w.move next).written later

/-- All that was queued on a connection, in the writer's order. -/
def outgoing (moves : List Move) : List Json :=
  written {} moves ++ (run {} moves).connection.queue

theorem written_concat (w : Exchange) (moves : List Move) (next : Move) :
    w.written (moves ++ [next]) = w.written moves ++ (w.run moves).handed next := by
  induction moves generalizing w with
  | nil => simp [written, run]
  | cons first later ih =>
    rw [List.cons_append, written, ih, written, List.append_assoc]
    rfl

theorem outgoing_concat (queues : (run {} moves).handed next ++
      ((run {} moves).move next).connection.queue = (run {} moves).connection.queue ++ said) :
    outgoing (moves ++ [next]) = outgoing moves ++ said := by
  rw [outgoing, written_concat, run_concat, List.append_assoc, queues, ← List.append_assoc,
    ← outgoing]

/-! What a move does on an open connection. -/

/-- How a request goes on, and what it queues. -/
inductive Going (w : Exchange) (next : Move) (n : Nat) (a : Ask) (w' : Exchange) :
    Ask.Stage → List Json → Prop
  | listed (new : a.stage = .numbered)
      (waiting : w'.connection.waiting = w.connection.waiting ++ [a.id])
      (arrived : w'.connection.arrived = w.connection.arrived) : Going w next n a w' .listed []
  | sent (listed : a.stage = .listed) (waiting : w'.connection.waiting = w.connection.waiting)
      (arrived : w'.connection.arrived = w.connection.arrived) :
      Going w next n a w' .sent [requestMessage a.id a.method a.params]
  | answered {body : Json} (sent : a.stage = .sent)
      (found : w.connection.arrived.lookup a.id = some body)
      (waiting : w'.connection.waiting = w.connection.waiting)
      (arrived : w'.connection.arrived = w.connection.arrived.filter fun x => x.1 ≠ a.id) :
      Going w next n a w' (.ended (.answered body)) []
  | closed (sent : a.stage = .sent) (silent : w.connection.arrived.lookup a.id = none)
      (absent : a.id ∉ w.connection.waiting)
      (waiting : w'.connection.waiting = w.connection.waiting)
      (arrived : w'.connection.arrived = w.connection.arrived) :
      Going w next n a w' (.ended .closed) []
  | leaving (sent : a.stage = .sent) (is : next = .giveUp n)
      (waiting : w'.connection.waiting = w.connection.waiting.filter (· ≠ a.id))
      (arrived : w'.connection.arrived = w.connection.arrived) : Going w next n a w' .leaving []
  | cancelled (leaving : a.stage = .leaving)
      (waiting : w'.connection.waiting = w.connection.waiting)
      (arrived : w'.connection.arrived = w.connection.arrived) :
      Going w next n a w' (.ended .cancelled) [cancelMessage a.id]
  | dropped (waiting : w'.connection.waiting = w.connection.waiting)
      (arrived : w'.connection.arrived = w.connection.arrived) : Going w next n a w' .dropped []

/-- What a move does to the table and the requests, and what it queues. -/
inductive Effect (w : Exchange) (next : Move) (w' : Exchange) : List Json → Prop
  | aside (asks : w'.asks = w.asks) (ends : w'.ends = w.ends)
      (waiting : w'.connection.waiting = w.connection.waiting)
      (arrived : w'.connection.arrived = w.connection.arrived) : Effect w next w' []
  | posted {message : Json} (is : next = .post message) (asks : w'.asks = w.asks)
      (ends : w'.ends = w.ends) (waiting : w'.connection.waiting = w.connection.waiting)
      (arrived : w'.connection.arrived = w.connection.arrived) : Effect w next w' [message]
  | made {a : Ask} (new : a.stage = .numbered) (asks : w'.asks = w.asks ++ [a])
      (ends : w'.ends = w.ends) (waiting : w'.connection.waiting = w.connection.waiting)
      (arrived : w'.connection.arrived = w.connection.arrived) : Effect w next w' []
  | heard {id : RequestId} {body : Json} (asks : w'.asks = w.asks) (ends : w'.ends = w.ends)
      (waiting : w'.connection.waiting = w.connection.waiting.filter (· ≠ id))
      (arrived : w'.connection.arrived = w.connection.arrived ++ [(id, body)]) : Effect w next w' []
  | went {n : Nat} {a : Ask} {stage : Ask.Stage} {said : List Json} (there : w.asks[n]? = some a)
      (on : a.stage.outcome? = none) (goes : Going w next n a w' stage said)
      (asks : w'.asks = w.asks.set n { a with stage })
      (ends : w'.ends = w.ends ++ (stage.outcome?.map fun outcome => (n, outcome)).toList) :
      Effect w next w' said

@[simp] theorem writes_post (c : Connection) (message : Json) :
    (c.post message).writes = c.writes := (utters_post c message).writes

@[simp] theorem reads_post (c : Connection) (message : Json) :
    (c.post message).reads = c.reads := by
  cases writes : c.writes <;> simp [post, writes]

/-- The next step of a request, one case for each way to go on. -/
inductive Stepped (w : Exchange) (n : Nat) (a : Ask) : Exchange → Prop
  | refused (new : a.stage = .numbered) (shut : w.connection.isShut = true) :
      Stepped w n a (w.finish n a .closed)
  | listed (new : a.stage = .numbered) (isOpen : w.connection.isShut = false) :
      Stepped w n a { w.putStage n a .listed with
        connection := { w.connection with waiting := w.connection.waiting ++ [a.id] } }
  | sent (listed : a.stage = .listed) (writes : w.connection.writes = true) :
      Stepped w n a { w.putStage n a .sent with
        connection := w.connection.post (requestMessage a.id a.method a.params) }
  | unsent (listed : a.stage = .listed) (stopped : w.connection.writes = false) :
      Stepped w n a ((w.unlist a.id).finish n a .closed)
  | answered {body : Json} (sent : a.stage = .sent)
      (found : w.connection.arrived.lookup a.id = some body) :
      Stepped w n a ({ w with connection := w.connection.take a.id }.finish n a (.answered body))
  | waits (sent : a.stage = .sent) (there : a.id ∈ w.connection.waiting) : Stepped w n a w
  | closed (sent : a.stage = .sent) (silent : w.connection.arrived.lookup a.id = none)
      (absent : a.id ∉ w.connection.waiting) : Stepped w n a (w.finish n a .closed)
  | cancelled (leaving : a.stage = .leaving) :
      Stepped w n a
        ({ w with connection := w.connection.post (cancelMessage a.id) }.finish n a .cancelled)
  | done (isOver : a.stage.isOver = true) : Stepped w n a w

theorem stepped_stepAsk (w : Exchange) (n : Nat) (a : Ask) : Stepped w n a (w.stepAsk n a) := by
  unfold stepAsk
  cases stage : a.stage with
  | numbered =>
    dsimp only
    split
    · next shut => exact .refused stage shut
    · next isOpen => exact .listed stage (Bool.eq_false_iff.2 isOpen)
  | listed =>
    dsimp only
    split
    · next writes => exact .sent stage writes
    · next stopped => exact .unsent stage (Bool.eq_false_iff.2 stopped)
  | sent =>
    dsimp only
    split
    · next found => exact .answered stage found
    · next silent =>
      split
      · next there => exact .waits stage (List.contains_iff_mem.1 there)
      · next absent =>
        exact .closed stage silent fun there => absent (List.contains_iff_mem.2 there)
  | leaving => exact .cancelled stage
  | ended | dropped => exact .done (by rw [stage]; rfl)

/-- No request stops the reader or the writer. -/
theorem streams_stepAsk (w : Exchange) (n : Nat) (a : Ask) :
    (w.stepAsk n a).connection.reads = w.connection.reads ∧
      (w.stepAsk n a).connection.writes = w.connection.writes := by
  have stepped := stepped_stepAsk w n a
  generalize w.stepAsk n a = w' at *
  cases stepped <;> simp [finish, putStage, unlist, take]

/-- A connection that is open was so before. -/
theorem isOpen_of_move (isOpen : (w.move next).IsOpen) : w.IsOpen := by
  obtain ⟨table, writes⟩ := isOpen
  refine ⟨Bool.eq_false_iff.2 fun shut => ?_, ?_⟩
  · simp [(isShut_move_iff w next).2 (.inl shut)] at table
  cases next with
  | step n =>
    cases there : w.asks[n]? with
    | none => simpa [move, there] using writes
    | some a => simpa [move, there, (streams_stepAsk w n a).2] using writes
  | giveUp n | drop n =>
    simp only [move] at writes
    split at writes
    · split at writes <;> exact writes
    · exact writes
  | hear message => simpa [move, (utters_receive w.connection message).writes] using writes
  | write => cases queue : w.connection.queue <;> simpa [move, next?, queue] using writes
  | post message => simpa [move] using writes
  | ask | shut | stopReading => exact writes
  | stopWriting => simp [move, endOutput] at writes

theorem effect_stepAsk (isOpen : w.IsOpen) (there : w.asks[n]? = some a) (next : Move) :
    ∃ said, (w.stepAsk n a).connection.queue = w.connection.queue ++ said ∧
      Effect w next (w.stepAsk n a) said := by
  have writes := isOpen.writes
  have stays : ∃ said, w.connection.queue = w.connection.queue ++ said ∧ Effect w next w said :=
    ⟨[], (List.append_nil _).symm, .aside rfl rfl rfl rfl⟩
  have stepped := stepped_stepAsk w n a
  generalize w.stepAsk n a = w' at *
  cases stepped with
  | refused _ shut => simp [isOpen.table] at shut
  | listed new =>
    exact ⟨[], (List.append_nil _).symm, .went there (by rw [new]; rfl) (.listed new rfl rfl) rfl
      (List.append_nil _).symm⟩
  | sent listed =>
    exact ⟨_, by simp [post, writes], .went there (by rw [listed]; rfl)
      (.sent listed (waiting_post ..) (arrived_post ..)) rfl (List.append_nil _).symm⟩
  | unsent _ stopped => simp [writes] at stopped
  | answered sent found =>
    exact ⟨[], (List.append_nil _).symm, .went there (by rw [sent]; rfl)
      (.answered sent found rfl rfl) rfl rfl⟩
  | waits | done => exact stays
  | closed sent silent absent =>
    exact ⟨[], (List.append_nil _).symm, .went there (by rw [sent]; rfl)
      (.closed sent silent absent rfl rfl) rfl rfl⟩
  | cancelled leaving =>
    exact ⟨_, by simp [finish, putStage, post, writes], .went there (by rw [leaving]; rfl)
      (.cancelled leaving (waiting_post ..) (arrived_post ..)) rfl rfl⟩

/-- What a move does while the connection is open: what was queued before and what the move queues
are what the writer takes in the move and what it leaves. -/
theorem effect_move (isOpen : (w.move next).IsOpen) :
    ∃ said, w.handed next ++ (w.move next).connection.queue = w.connection.queue ++ said ∧
      Effect w next (w.move next) said := by
  have before := isOpen_of_move isOpen
  have stays (same : w.move next = w) (quiet : w.handed next = []) :
      ∃ said, w.handed next ++ (w.move next).connection.queue = w.connection.queue ++ said ∧
        Effect w next (w.move next) said := by
    rw [same, quiet]
    exact ⟨[], (List.append_nil _).symm, .aside rfl rfl rfl rfl⟩
  cases next with
  | ask method params =>
    exact ⟨[], (List.append_nil _).symm, .made rfl rfl rfl rfl rfl⟩
  | step n =>
    cases there : w.asks[n]? with
    | none => exact stays (by simp [move, there]) rfl
    | some a =>
      obtain ⟨said, queue, effect⟩ := effect_stepAsk before there (.step n)
      simp only [move, there]
      exact ⟨said, queue, effect⟩
  | giveUp n =>
    cases there : w.asks[n]? with
    | none => exact stays (by simp [move, there]) rfl
    | some a =>
      by_cases sent : a.stage = .sent
      · have same : w.move (.giveUp n) = (w.unlist a.id).putStage n a .leaving := by
          simp [move, there, sent]
        rw [same]
        exact ⟨[], (List.append_nil _).symm, .went there (by rw [sent]; rfl)
          (.leaving sent rfl rfl rfl) rfl (List.append_nil _).symm⟩
      · exact stays (by simp only [move, there]) rfl
  | drop n =>
    cases there : w.asks[n]? with
    | none => exact stays (by simp [move, there]) rfl
    | some a =>
      cases ended : a.stage.outcome? with
      | some outcome =>
        have ended := Ask.Stage.outcome?_eq_some.1 ended
        exact stays (by simp [move, there, ended]) rfl
      | none =>
        have same : w.move (.drop n) = w.putStage n a .dropped := by
          simp only [move, there]
          split
          · next ended' => simp [ended', Ask.Stage.outcome?] at ended
          · rfl
        rw [same]
        exact ⟨[], (List.append_nil _).symm, .went there ended (.dropped rfl rfl) rfl
          (List.append_nil _).symm⟩
  | hear message =>
    rcases hear_cases w message with ⟨same, -⟩ | ⟨id, body, -, -, same⟩
    · exact stays same rfl
    · rw [same]
      exact ⟨[], (List.append_nil _).symm, .heard rfl rfl rfl rfl⟩
  | post message =>
    refine ⟨[message], ?_, .posted rfl rfl rfl (waiting_post ..) (arrived_post ..)⟩
    simp [handed, move, post, before.writes]
  | write =>
    rcases queue : w.connection.queue with _ | ⟨message, rest⟩
    · exact queue ▸ stays (by simp [move, next?, queue]) (by simp [handed, queue])
    · refine ⟨[], by simp [handed, move, next?, queue], ?_⟩
      exact .aside rfl rfl (by simp [move, next?, queue]) (by simp [move, next?, queue])
  | shut => exact absurd isOpen.table (by simp [move, Connection.shut])
  | stopReading => exact ⟨[], (List.append_nil _).symm, .aside rfl rfl rfl rfl⟩
  | stopWriting => exact absurd isOpen.writes (by simp [move, endOutput])

/-! What becomes of one request. -/

/-- The request was waiting when its caller gave it up. -/
def GivenUp (moves : List Move) (n : Nat) : Prop :=
  ∃ past later a, moves = past ++ .giveUp n :: later ∧ (run {} past).asks[n]? = some a ∧
    a.stage = .sent

theorem GivenUp.later (h : GivenUp moves n) (next : Move) : GivenUp (moves ++ [next]) n := by
  obtain ⟨past, later, a, rfl, rest⟩ := h
  exact ⟨past, later ++ [next], a, by simp, rest⟩

/-- A request as the moves made so far and the messages queued so far explain it. -/
structure Fair (w : Exchange) (moves : List Move) (line : List Json) (n : Nat) (a : Ask) :
    Prop where
  awaited : a.stage = .listed ∨ a.stage = .sent →
    a.id ∈ w.connection.waiting ∨ w.connection.arrived.lookup a.id ≠ none
  asked : a.stage.isAsked → requestMessage a.id a.method a.params ∈ line
  absent : a.stage.isGivenUp → a.id ∉ w.connection.waiting
  givenUp : a.stage.isGivenUp → GivenUp moves n
  /-- The notice stands behind the request's own message. -/
  told : a.stage = .ended .cancelled → ∃ before after,
    line = before ++ cancelMessage a.id :: after ∧ requestMessage a.id a.method a.params ∈ before
  unclosed : a.stage ≠ .ended .closed

namespace Fair

/-- More is queued, and the request's number stays where it is. -/
theorem frame (h : w.Fair moves line n a) (next : Move) (said : List Json)
    (waiting : a.id ∈ w'.connection.waiting ↔ a.id ∈ w.connection.waiting)
    (arrived : w'.connection.arrived.lookup a.id = w.connection.arrived.lookup a.id) :
    w'.Fair (moves ++ [next]) (line ++ said) n a where
  awaited on := by
    rw [waiting, arrived]
    exact h.awaited on
  asked on := List.mem_append_left _ (h.asked on)
  absent on there := h.absent on (waiting.1 there)
  givenUp on := (h.givenUp on).later next
  told on := by
    obtain ⟨before, after, rfl, there⟩ := h.told on
    exact ⟨before, after ++ said, by simp, there⟩
  unclosed := h.unclosed

/-- A response that has come for the request lies there for it. -/
theorem of_heard (h : w.Fair moves line n a) (next : Move) {id : RequestId} {body : Json}
    (waiting : w'.connection.waiting = w.connection.waiting.filter (· ≠ id))
    (arrived : w'.connection.arrived = w.connection.arrived ++ [(id, body)]) :
    w'.Fair (moves ++ [next]) line n a := by
  have lookup : w'.connection.arrived.lookup a.id =
      (w.connection.arrived.lookup a.id).or (if a.id = id then some body else none) := by
    rw [arrived, List.lookup_append]
    by_cases same : a.id = id
    · simp [same]
    · simp [same, List.lookup_cons, beq_false_of_ne same]
  refine ⟨fun on => ?_, h.asked, fun on there => ?_, fun on => (h.givenUp on).later next, h.told,
    h.unclosed⟩
  · rw [waiting, lookup]
    by_cases same : a.id = id
    · exact .inr (by cases w.connection.arrived.lookup a.id <;> simp [same])
    · refine (h.awaited on).imp (fun there => by simpa [same] using there) fun found => ?_
      cases known : w.connection.arrived.lookup a.id with
      | none => exact absurd known found
      | some other => simp
  · rw [waiting] at there
    exact h.absent on (List.mem_of_mem_filter there)

/-- A request that was just made. -/
theorem of_new (new : a.stage = .numbered) : w.Fair moves line n a := by
  constructor <;> simp [new, Ask.Stage.isAsked, Ask.Stage.isGivenUp]

/-- The request that goes on. -/
theorem goes {stage : Ask.Stage} (h : (run {} moves).Fair moves line n a)
    (there : (run {} moves).asks[n]? = some a)
    (goes : Going (run {} moves) next n a w' stage said) :
    w'.Fair (moves ++ [next]) (line ++ said) n { a with stage } := by
  cases goes with
  | listed new waiting arrived =>
    constructor <;> simp [waiting, Ask.Stage.isAsked, Ask.Stage.isGivenUp]
  | sent listed waiting arrived =>
    have awaited := h.awaited (.inl listed)
    rw [← waiting, ← arrived] at awaited
    refine ⟨fun _ => awaited, ?_, ?_, ?_, ?_, ?_⟩ <;> simp [Ask.Stage.isGivenUp]
  | answered sent found waiting arrived =>
    have asked := h.asked (by rw [sent]; rfl)
    constructor <;> simp [Ask.Stage.isGivenUp, asked]
  | closed sent silent absent =>
    exact absurd silent ((h.awaited (.inr sent)).resolve_left absent)
  | leaving sent is waiting arrived =>
    have asked := h.asked (by rw [sent]; rfl)
    have gaveUp : GivenUp (moves ++ [next]) n := ⟨moves, [], a, by rw [is], there, sent⟩
    constructor <;> simp [waiting, asked, gaveUp]
  | cancelled leaving waiting arrived =>
    have asked := h.asked (by rw [leaving]; rfl)
    have gaveUp := (h.givenUp (by rw [leaving]; rfl)).later next
    have absent := h.absent (by rw [leaving]; rfl)
    refine ⟨by simp, fun _ => List.mem_append_left _ asked, fun _ => ?_, fun _ => gaveUp,
      fun _ => ⟨line, [], rfl, asked⟩, by simp⟩
    rw [waiting]
    exact absent
  | dropped waiting arrived =>
    constructor <;> simp [Ask.Stage.isAsked, Ask.Stage.isGivenUp]

end Fair

/-! What becomes of all requests. -/

/-- Another number is where it was when a request goes on. -/
theorem Going.other {stage : Ask.Stage} (goes : Going w next n a w' stage said)
    (apart : id ≠ a.id) :
    (id ∈ w'.connection.waiting ↔ id ∈ w.connection.waiting) ∧
      w'.connection.arrived.lookup id = w.connection.arrived.lookup id := by
  cases goes with
  | listed _ waiting arrived | leaving _ _ waiting arrived =>
    rw [waiting, arrived]
    simp [apart]
  | answered _ _ waiting arrived =>
    rw [waiting, arrived, lookup_filter_key fun key => decide (key ≠ a.id)]
    simp [apart]
  | sent _ waiting arrived | closed _ _ _ waiting arrived | cancelled _ waiting arrived
  | dropped waiting arrived =>
    rw [waiting, arrived]
    exact ⟨Iff.rfl, rfl⟩

/-- The number that the notice of an end names, if the server is told. -/
def notice? : Nat × Outcome → Option Int
  | (n, .cancelled) => some ((n + 1 : Nat) : Int)
  | _ => none

/-- A notice is queued exactly when a request ends given up. -/
theorem Going.notices {stage : Ask.Stage} (goes : Going w next n a w' stage said)
    (number : a.id = n + 1) :
    said.filterMap cancelled? =
      (stage.outcome?.map fun outcome => (n, outcome)).toList.filterMap notice? := by
  cases goes <;> simp [Ask.Stage.outcome?, notice?, number]

/-- The requests and the notices, as the moves explain them. -/
structure Told (moves : List Move) : Prop where
  fair : ∀ {n a}, (run {} moves).asks[n]? = some a →
    (run {} moves).Fair moves (outgoing moves) n a
  notices : (outgoing moves).filterMap cancelled? = (run {} moves).ends.filterMap notice?

theorem Told.concat (h : Told moves) (isOpen : (run {} (moves ++ [next])).IsOpen)
    (others : ∀ message, next = .post message → cancelled? message = none) :
    Told (moves ++ [next]) := by
  rw [run_concat] at isOpen
  obtain ⟨said, queues, effect⟩ := effect_move isOpen
  have line := outgoing_concat queues
  have stays {m : Nat} {b : Ask} (there : (run {} moves).asks[m]? = some b)
      (waiting : ((run {} moves).move next).connection.waiting = (run {} moves).connection.waiting)
      (arrived : ((run {} moves).move next).connection.arrived =
        (run {} moves).connection.arrived) :
      ((run {} moves).move next).Fair (moves ++ [next]) (outgoing moves ++ said) m b :=
    (h.fair there).frame next said (by rw [waiting]) (by rw [arrived])
  constructor
  · intro m b there
    rw [run_concat] at there ⊢
    rw [line]
    cases effect with
    | aside asks _ waiting arrived | posted _ asks _ waiting arrived =>
      exact stays (asks ▸ there) waiting arrived
    | made new asks _ waiting arrived =>
      rw [asks, List.getElem?_append] at there
      split at there
      · exact stays there waiting arrived
      · obtain ⟨-, rfl⟩ := List.getElem?_eq_some_iff.1 there
        exact .of_new (by simpa using new)
    | heard asks _ waiting arrived =>
      rw [List.append_nil]
      exact (h.fair (asks ▸ there)).of_heard next waiting arrived
    | @went n a stage _ there' _ goes asks _ =>
      -- the request that went on, or another one, whose number is not touched
      rw [asks, List.getElem?_set] at there
      split at there
      · next same =>
        subst same
        split at there
        · obtain rfl := Option.some.inj there
          exact (h.fair there').goes there' goes
        · simp at there
      · next differs =>
        have numbered := (sound_run moves).numbered
        have apart : b.id ≠ a.id := by
          rw [numbered.id_eq there, numbered.id_eq there']
          exact fun same => differs (Nat.succ.inj same).symm
        obtain ⟨waiting, arrived⟩ := goes.other apart
        exact (h.fair there).frame next said waiting arrived
  · rw [line, run_concat, List.filterMap_append, h.notices]
    cases effect with
    | aside _ ends | made _ _ ends | heard _ ends => rw [ends, List.filterMap_nil, List.append_nil]
    | posted is _ ends => simp [ends, others _ is]
    | went there _ goes _ ends =>
      rw [ends, List.filterMap_append, goes.notices ((sound_run moves).numbered.id_eq there)]

theorem told_run (isOpen : (run {} moves).IsOpen)
    (others : ∀ message, .post message ∈ moves → cancelled? message = none) : Told moves := by
  induction moves using List.reverseRecOn with
  | nil => exact ⟨by simp [run], rfl⟩
  | append_singleton moves next ih =>
    have before : (run {} moves).IsOpen := isOpen_of_move (run_concat {} moves next ▸ isOpen)
    have told := ih before fun message there => others message (List.mem_append_left _ there)
    exact told.concat isOpen fun message is => others message (by simp [is])

/-- A number that has left the table never comes back. -/
theorem absent_move (numbered : w.IsNumbered) (there : w.asks[n]? = some a)
    (on : a.stage ≠ .numbered) (absent : a.id ∉ w.connection.waiting) (next : Move) :
    a.id ∉ (w.move next).connection.waiting := by
  intro back
  by_cases heard : ∃ message, next = .hear message
  · obtain ⟨message, rfl⟩ := heard
    rcases hear_cases w message with ⟨same, -⟩ | ⟨id, body, -, -, same⟩
    · exact absent (same ▸ back)
    · rw [same] at back
      exact absent (List.mem_of_mem_filter back)
  · have kept : Kept w (w.move next) := Kept.move w fun message same => heard ⟨message, same⟩
    rcases kept.waiting back with old | ⟨m, b, -, there', same, new, -⟩
    · exact absent old
    · have number : m = n := by
        rw [numbered.id_eq there', numbered.id_eq there] at same
        exact Nat.succ.inj same
      subst number
      obtain rfl := Option.some.inj (there.symm.trans there')
      exact on new

theorem absent_run (numbered : w.IsNumbered) (there : w.asks[n]? = some a)
    (on : a.stage ≠ .numbered) (absent : a.id ∉ w.connection.waiting) (later : List Move) :
    a.id ∉ (w.run later).connection.waiting := by
  have kept : (w.run later).IsNumbered ∧ ∃ b, (w.run later).asks[n]? = some b ∧ b.id = a.id ∧
      b.stage ≠ .numbered ∧ b.id ∉ (w.run later).connection.waiting := by
    refine run_induction (P := fun v => v.IsNumbered ∧ ∃ b, v.asks[n]? = some b ∧ b.id = a.id ∧
      b.stage ≠ .numbered ∧ b.id ∉ v.connection.waiting) (fun v next kept => ?_)
      ⟨numbered, a, there, rfl, on, absent⟩ later
    obtain ⟨numbered, b, there, same, on, absent⟩ := kept
    obtain ⟨c, there', same', on'⟩ := (turn_move v next).asks there
    refine ⟨(turn_move v next).isNumbered numbered, c, there', same'.trans same, on' on, ?_⟩
    rw [same']
    exact absent_move numbered there on absent next
  obtain ⟨-, b, -, same, -, absent⟩ := kept
  exact same ▸ absent

/-- A response to a number that is not in the table changes nothing. -/
theorem hear_of_absent (absent : id ∉ w.connection.waiting)
    (response : Incoming.ofJson? message = some (.response id body)) :
    w.move (.hear message) = w := by
  rcases hear_cases w message with ⟨same, -⟩ | ⟨k, other, answers, there, -⟩
  · exact same
  · rw [response] at answers
    have same : ((id : Int) = k) ∧ body = other := by simpa using answers
    exact absurd (Int.ofNat_inj.1 same.1 ▸ there) absent

/-- The next step of a request is told by its own part of the connection. -/
theorem step_congr {v : Exchange} (there : w.asks[n]? = some a) (there' : v.asks[n]? = some a)
    (isShut : v.connection.isShut = w.connection.isShut)
    (writes : v.connection.writes = w.connection.writes)
    (waits : a.id ∈ v.connection.waiting ↔ a.id ∈ w.connection.waiting)
    (comes : v.connection.arrived.lookup a.id = w.connection.arrived.lookup a.id) :
    (v.move (.step n)).asks[n]? = (w.move (.step n)).asks[n]? := by
  have inside := (List.getElem?_eq_some_iff.1 there).1
  have inside' := (List.getElem?_eq_some_iff.1 there').1
  have put (stage : Ask.Stage) :
      (v.asks.set n { a with stage })[n]? = (w.asks.set n { a with stage })[n]? := by
    rw [List.getElem?_set_self inside, List.getElem?_set_self inside']
  simp only [move, there, there', stepAsk]
  cases a.stage with
  | numbered =>
    cases shut : w.connection.isShut <;> simp only [isShut, shut, ↓reduceIte, Bool.false_eq_true]
    · exact put _
    · exact put _
  | listed =>
    cases writing : w.connection.writes <;>
      simp only [writes, writing, ↓reduceIte, Bool.false_eq_true]
    · exact put _
    · exact put _
  | sent =>
    cases found : w.connection.arrived.lookup a.id with
    | some body =>
      simp only [comes, found]
      exact put _
    | none =>
      by_cases waiting : a.id ∈ w.connection.waiting <;>
        simp only [comes, found, List.contains_iff_mem, waits, waiting, ↓reduceIte]
      · rw [there, there']
      · exact put _
  | leaving => exact put _
  | ended | dropped => rw [there, there']

/-- Is every request but one as it was, its number, what came for it and what it does next? -/
def Spares (w v : Exchange) (n : Nat) : Prop :=
  ∀ (m : Nat) (b : Ask), m ≠ n → w.asks[m]? = some b →
    v.asks[m]? = some b ∧ (b.id ∈ v.connection.waiting ↔ b.id ∈ w.connection.waiting) ∧
      v.connection.arrived.lookup b.id = w.connection.arrived.lookup b.id ∧
      (v.move (.step m)).asks[m]? = (w.move (.step m)).asks[m]?

theorem spares_giveUp (numbered : w.IsNumbered) (there : w.asks[n]? = some a)
    (sent : a.stage = .sent) :
    (w.move (.giveUp n)).asks[n]? = some { a with stage := .leaving } ∧
      w.Spares (w.move (.giveUp n)) n := by
  have leaves : w.move (.giveUp n) = (w.unlist a.id).putStage n a .leaving := by
    simp only [move, there, sent]
  rw [leaves]
  refine ⟨List.getElem?_set_self (List.getElem?_eq_some_iff.1 there).1,
    fun m b other there' => ?_⟩
  have apart : b.id ≠ a.id := by
    rw [numbered.id_eq there, numbered.id_eq there']
    exact fun same => other (Nat.succ.inj same)
  have asks : ((w.unlist a.id).putStage n a .leaving).asks[m]? = some b := by
    rw [← there']
    exact List.getElem?_set_ne other.symm
  have waits : b.id ∈ ((w.unlist a.id).putStage n a .leaving).connection.waiting ↔
      b.id ∈ w.connection.waiting := by
    simp [putStage, unlist, apart]
  exact ⟨asks, waits, rfl, step_congr there' asks rfl rfl waits rfl⟩

theorem spares_leaving (there : w.asks[n]? = some a) (leaving : a.stage = .leaving) :
    (w.move (.step n)).ends = w.ends ++ [(n, .cancelled)] ∧
      (w.move (.step n)).connection = w.connection.post (cancelMessage a.id) ∧
      w.Spares (w.move (.step n)) n := by
  have leaves : w.move (.step n) =
      { w with connection := w.connection.post (cancelMessage a.id) }.finish n a .cancelled := by
    simp only [move, there, stepAsk, leaving]
  rw [leaves]
  refine ⟨rfl, rfl, fun m b other there' => ?_⟩
  have asks : ({ w with connection := w.connection.post (cancelMessage a.id) }.finish n a
      .cancelled).asks[m]? = some b := by
    rw [← there']
    exact List.getElem?_set_ne other.symm
  have waits : ({ w with connection := w.connection.post (cancelMessage a.id) }.finish n a
      .cancelled).connection.waiting = w.connection.waiting := waiting_post ..
  have comes : ({ w with connection := w.connection.post (cancelMessage a.id) }.finish n a
      .cancelled).connection.arrived = w.connection.arrived := arrived_post ..
  exact ⟨asks, by rw [waits], by rw [comes], step_congr there' asks (isShut_post ..)
    (writes_post ..) (by rw [waits]) (by rw [comes])⟩

theorem mem_notices_iff : ((n + 1 : Nat) : Int) ∈ w.ends.filterMap notice? ↔
    (n, .cancelled) ∈ w.ends := by
  rw [List.mem_filterMap]
  constructor
  · rintro ⟨⟨m, outcome⟩, there, named⟩
    cases outcome with
    | cancelled =>
      have same : m = n := by
        simp only [notice?, Option.some.injEq] at named
        omega
      exact same ▸ there
    | answered | closed => simp [notice?] at named
  · exact fun there => ⟨_, there, rfl⟩

/-- No request is told of twice. -/
theorem Tallied.nodup_notices (h : w.Tallied) : (w.ends.filterMap notice?).Nodup := by
  refine (List.Nodup.of_map _ h.once).filterMap fun e e' number here here' => ?_
  obtain ⟨n, outcome⟩ := e
  obtain ⟨m, outcome'⟩ := e'
  cases outcome <;> cases outcome' <;>
    simp only [notice?, Option.mem_def, reduceCtorEq] at here here'
  have same : n = m := by
    rw [← Option.some.inj here] at here'
    have := Option.some.inj here'
    omega
  rw [same]

/-- While a connection stays open, each request ends in one way only, and ends with the first
response that came while it waited or with its caller's word that came while it waited; its own
message had been queued. The server is told that a request was given up exactly when it ended so,
once and behind the request's own message, if nobody else sends such notices. From the moment at
which a request is given up its number is out of the table for good, and whatever response to it
comes then changes nothing. A request that waits is given up in two moves, of which the second ends
it and tells the server; both leave every other request as it is, with its number in the table, its
response if one has come, and what it does next. -/
theorem given_up_requests_told_once (moves : List Move) (isOpen : (run {} moves).IsOpen)
    (others : ∀ message, .post message ∈ moves → cancelled? message = none) :
    let w := run {} moves
    let line := outgoing moves
    (w.ends.map Prod.fst).Nodup ∧
      (∀ (n : Nat) (outcome : Outcome), (n, outcome) ∈ w.ends → ∃ a, w.asks[n]? = some a ∧
        requestMessage a.id a.method a.params ∈ line ∧
        ((∃ body, outcome = .answered body ∧ FirstAnswer moves a.id body ∧
            outcome.result a.method = resultOf body) ∨
          outcome = .cancelled ∧ GivenUp moves n ∧
            outcome.result a.method = .error (givenUp a.method))) ∧
      (∀ (n : Nat) (a : Ask), w.asks[n]? = some a →
        ((n, .cancelled) ∈ w.ends → (line.filterMap cancelled?).count (a.id : Int) = 1 ∧
          ∃ before between after, line = before ++ requestMessage a.id a.method a.params ::
            between ++ cancelMessage a.id :: after) ∧
        ((n, .cancelled) ∉ w.ends → (line.filterMap cancelled?).count (a.id : Int) = 0)) ∧
      (∀ (n : Nat) (a : Ask), w.asks[n]? = some a → a.stage.isGivenUp → ∀ later,
        a.id ∉ (w.run later).connection.waiting ∧
          ∀ message body, Incoming.ofJson? message = some (.response a.id body) →
            (w.run later).move (.hear message) = w.run later) ∧
      ∀ (n : Nat) (a : Ask), w.asks[n]? = some a →
        (a.stage = .sent →
          (w.move (.giveUp n)).asks[n]? = some { a with stage := .leaving } ∧
            w.Spares (w.move (.giveUp n)) n) ∧
        (a.stage = .leaving → (w.move (.step n)).ends = w.ends ++ [(n, .cancelled)] ∧
          (w.move (.step n)).connection.queue = w.connection.queue ++ [cancelMessage a.id] ∧
          w.Spares (w.move (.step n)) n) := by
  intro w line
  have sound : w.Sound moves := sound_run moves
  have tallied : w.Tallied := tallied_run moves
  have told : Told moves := told_run isOpen others
  refine ⟨tallied.once, ?ends, ?notice, ?late, ?others⟩
  case ends =>
    intro n outcome ended
    obtain ⟨a, there, now⟩ := tallied.mem.1 ended
    have now := Ask.Stage.outcome?_eq_some.1 now
    have fair := told.fair there
    refine ⟨a, there, fair.asked (by rw [now]; rfl), ?_⟩
    cases outcome with
    | answered body => exact .inl ⟨body, rfl, sound.answered there now, rfl⟩
    | closed => exact absurd now fair.unclosed
    | cancelled => exact .inr ⟨rfl, fair.givenUp (by rw [now]; rfl), rfl⟩
  case notice =>
    intro n a there
    have number := sound.numbered.id_eq there
    rw [told.notices, number]
    refine ⟨fun ended => ⟨?_, ?_⟩, fun other => ?_⟩
    · exact List.count_eq_one_of_mem tallied.nodup_notices (mem_notices_iff.2 ended)
    · obtain ⟨b, there', now⟩ := tallied.mem.1 ended
      obtain rfl := Option.some.inj (there.symm.trans there')
      obtain ⟨before, after, split, asked⟩ :=
        (told.fair there).told (Ask.Stage.outcome?_eq_some.1 now)
      obtain ⟨first, between, rfl⟩ := List.append_of_mem asked
      rw [← number]
      exact ⟨first, between, after, split⟩
    · exact List.count_eq_zero_of_not_mem (mem_notices_iff.not.2 other)
  case late =>
    intro n a there gone later
    have on : a.stage ≠ .numbered := by
      intro new
      simp [new, Ask.Stage.isGivenUp] at gone
    have absent := absent_run sound.numbered there on ((told.fair there).absent gone) later
    exact ⟨absent, fun message body response => hear_of_absent absent response⟩
  case others =>
    intro n a there
    refine ⟨fun sent => spares_giveUp sound.numbered there sent, fun leaving => ?_⟩
    have writes : w.connection.writes = true := isOpen.writes
    obtain ⟨ends, connection, spares⟩ := spares_leaving there leaving
    refine ⟨ends, ?_, spares⟩
    rw [connection]
    simp [post, writes]

/-- A request is given up before it is sent, which has no effect, and again when another one is on
its way, which does. The server answers both and is answered something itself. -/
def crossed : List Move :=
  let answer (id : Nat) := Json.object [("id", Json.ofNat id), ("result", .bool true)]
  [.ask "textDocument/references" .null, .giveUp 0, .step 0, .step 0,
    .ask "textDocument/hover" .null, .step 1, .write, .step 1, .giveUp 0, .hear (answer 2),
    .post (replyMessage (.int 7) (.ok .null)), .write, .step 0, .step 1, .hear (answer 1)]

theorem crossed_requests_told_once :
    let w := run {} crossed
    w.ends.map Prod.fst = [0, 1] ∧ (0, .cancelled) ∈ w.ends ∧ w.asks[0]?.map (·.id) = some 1 ∧
      ((outgoing crossed).filterMap cancelled?).count 1 = 1 := by
  obtain ⟨-, -, notices, -⟩ :=
    given_up_requests_told_once crossed ⟨rfl, rfl⟩ (by simp [crossed])
  have gone : (0, Outcome.cancelled) ∈ (run {} crossed).ends := .head _
  exact ⟨rfl, gone, rfl, ((notices 0 _ rfl).1 gone).1⟩

end Exchange

end LanguageBroker.Connection
