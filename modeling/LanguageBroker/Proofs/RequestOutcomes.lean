import LanguageBroker.Connection
import LanguageBroker.Proofs.KeyedLists
import Mathlib.Data.List.Induction

/-!
How requests on one connection end. Requests are made, go on, are given up and dropped in any
order, each in the small steps between which others may act: it takes its number, enters the table
of waiting requests, queues its message, and then waits for its response, for its caller's word or
for the end of the connection. Meanwhile the reader takes in whatever the server sends, and the
table, the reader and the writer are closed one by one. A number is in the table at most once in
its life, so the only response that a request can see is the first that the reader met while the
number was there.
-/

namespace LanguageBroker.Connection

/-- How a request has ended. -/
inductive Outcome
  /-- With the response whose body this is. -/
  | answered (body : Json)
  | closed
  | cancelled

/-- What the caller gets. -/
def Outcome.result (method : String) : Outcome → Except RpcError Json
  | .answered body => resultOf body
  | .closed => .error .connectionClosed
  | .cancelled => .error (givenUp method)

/-- How far a request has come. -/
inductive Ask.Stage
  /-- It has its number. -/
  | numbered
  /-- It is in the table, and its message is not queued yet. -/
  | listed
  /-- It waits. -/
  | sent
  /-- It was given up, and the notice to the server is not queued yet. -/
  | leaving
  | ended (outcome : Outcome)
  /-- Whoever made it does not care any longer. -/
  | dropped

/-- The outcome, once there is one. -/
def Ask.Stage.outcome? : Ask.Stage → Option Outcome
  | .ended outcome => some outcome
  | _ => none

theorem Ask.Stage.outcome?_eq_some {stage : Ask.Stage} {outcome : Outcome} :
    stage.outcome? = some outcome ↔ stage = .ended outcome := by
  cases stage <;> simp [outcome?]

/-- A request that was made. -/
structure Ask where
  id : RequestId
  method : String
  params : Json
  stage : Ask.Stage := .numbered

/-- The requests on a connection, in the order in which they took their numbers. -/
structure Exchange where
  connection : Connection := {}
  asks : List Ask := []
  /-- Which requests have ended, and how. -/
  ends : List (Nat × Outcome) := []

inductive Exchange.Move
  /-- A request is made and takes its number. -/
  | ask (method : String) (params : Json)
  /-- A request goes on. -/
  | step (n : Nat)
  /-- A waiting request is given up. -/
  | giveUp (n : Nat)
  /-- A request is dropped. Its number stays where it is. -/
  | drop (n : Nat)
  /-- The reader takes a message of the server's in. -/
  | hear (message : Json)
  /-- Anything else is queued for the server. -/
  | post (message : Json)
  /-- The writer takes the next message. -/
  | write
  /-- The table is closed. -/
  | shut
  | stopReading
  | stopWriting

namespace Exchange

variable {w : Exchange} {n : Nat} {a : Ask} {id : RequestId} {body message : Json}

def putStage (w : Exchange) (n : Nat) (a : Ask) (stage : Ask.Stage) : Exchange :=
  { w with asks := w.asks.set n { a with stage } }

/-- A request has ended. -/
def finish (w : Exchange) (n : Nat) (a : Ask) (outcome : Outcome) : Exchange :=
  { w.putStage n a (.ended outcome) with ends := w.ends ++ [(n, outcome)] }

/-- Takes a request's number out of the table. -/
def unlist (w : Exchange) (id : RequestId) : Exchange :=
  { w with
    connection := { w.connection with waiting := w.connection.waiting.filter (· ≠ id) } }

/-- The next step of a request. One that waits ends when its response is there, or when nobody can
answer it any more. -/
def stepAsk (w : Exchange) (n : Nat) (a : Ask) : Exchange :=
  match a.stage with
  | .numbered =>
    if w.connection.isShut then w.finish n a .closed
    else
      { w.putStage n a .listed with
        connection := { w.connection with waiting := w.connection.waiting ++ [a.id] } }
  | .listed =>
    if w.connection.writes then
      { w.putStage n a .sent with
        connection := w.connection.post (requestMessage a.id a.method a.params) }
    else (w.unlist a.id).finish n a .closed
  | .sent =>
    -- a response that has come counts, even if the table was closed since
    match w.connection.arrived.lookup a.id with
    | some body => { w with connection := w.connection.take a.id }.finish n a (.answered body)
    | none => if w.connection.waiting.contains a.id then w else w.finish n a .closed
  | .leaving =>
    { w with connection := w.connection.post (cancelMessage a.id) }.finish n a .cancelled
  | .ended _ | .dropped => w

def move (w : Exchange) : Move → Exchange
  | .ask method params =>
    { w with
      connection := { w.connection with nextId := w.connection.nextId + 1 }
      asks := w.asks ++ [{ id := w.connection.nextId, method, params }] }
  | .step n =>
    match w.asks[n]? with
    | some a => w.stepAsk n a
    | none => w
  | .giveUp n =>
    match w.asks[n]? with
    | some a =>
      match a.stage with
      | .sent => (w.unlist a.id).putStage n a .leaving
      | _ => w
    | none => w
  | .drop n =>
    match w.asks[n]? with
    | some a =>
      match a.stage with
      | .ended _ => w
      | _ => w.putStage n a .dropped
    | none => w
  | .hear message => { w with connection := (w.connection.receive message).1 }
  | .post message => { w with connection := w.connection.post message }
  | .write => { w with connection := (w.connection.next?.map (·.2)).getD w.connection }
  | .shut => { w with connection := w.connection.shut }
  | .stopReading => { w with connection := { w.connection with reads := false } }
  | .stopWriting => { w with connection := w.connection.endOutput }

def run (w : Exchange) (moves : List Move) : Exchange := moves.foldl move w

theorem run_concat (w : Exchange) (moves : List Move) (next : Move) :
    w.run (moves ++ [next]) = (w.run moves).move next := by
  simp [run]

/-- Has the request with this number gone on to the table, or to its end? -/
def Entered (w : Exchange) (id : RequestId) : Prop :=
  ∃ (n : Nat) (a : Ask), w.asks[n]? = some a ∧ a.id = id ∧ a.stage ≠ .numbered

/-- Numbers are given out in turn. -/
structure IsNumbered (w : Exchange) : Prop where
  id_eq : ∀ {n : Nat} {a : Ask}, w.asks[n]? = some a → a.id = n + 1
  next : w.connection.nextId = w.asks.length + 1

/-- What becomes of the requests in a move. -/
inductive Turn (w w' : Exchange) : Prop
  | rest (asks : w'.asks = w.asks) (ends : w'.ends = w.ends)
      (next : w'.connection.nextId = w.connection.nextId)
  | ask (a : Ask) (id_eq : a.id = w.connection.nextId) (new : a.stage = .numbered)
      (asks : w'.asks = w.asks ++ [a]) (ends : w'.ends = w.ends)
      (next : w'.connection.nextId = w.connection.nextId + 1)
  | put (n : Nat) (a : Ask) (stage : Ask.Stage) (there : w.asks[n]? = some a)
      (on : a.stage.outcome? = none) (later : stage ≠ .numbered)
      (seen : ∀ body, stage = .ended (.answered body) → w.connection.arrived.lookup a.id = some body)
      (asks : w'.asks = w.asks.set n { a with stage })
      (ends : w'.ends = w.ends ++ (stage.outcome?.map fun outcome => (n, outcome)).toList)
      (next : w'.connection.nextId = w.connection.nextId)

@[simp] theorem nextId_post (c : Connection) (message : Json) :
    (c.post message).nextId = c.nextId := by
  unfold Connection.post
  split <;> rfl

@[simp] theorem waiting_post (c : Connection) (message : Json) :
    (c.post message).waiting = c.waiting := by
  unfold Connection.post
  split <;> rfl

@[simp] theorem arrived_post (c : Connection) (message : Json) :
    (c.post message).arrived = c.arrived := by
  unfold Connection.post
  split <;> rfl

/-- A message of the server's leaves all but the table alone. -/
theorem nextId_receive (c : Connection) (message : Json) :
    (c.receive message).1.nextId = c.nextId := by
  unfold Connection.receive
  split
  · simp only [Connection.deliver]
    split <;> rfl
  · rfl

theorem turn_stepAsk (there : w.asks[n]? = some a) : Turn w (w.stepAsk n a) := by
  have closes {w' : Exchange} (on : a.stage.outcome? = none)
      (asks : w'.asks = w.asks.set n { a with stage := .ended .closed })
      (ends : w'.ends = w.ends ++ [(n, .closed)])
      (next : w'.connection.nextId = w.connection.nextId) : Turn w w' :=
    .put n a (.ended .closed) there on (by simp) (by simp) asks ends next
  unfold stepAsk
  cases stage : a.stage with
  | numbered =>
    dsimp only
    split
    · exact closes (by simp [stage, Ask.Stage.outcome?]) rfl rfl rfl
    · exact .put n a .listed there (by simp [stage, Ask.Stage.outcome?]) (by simp) (by simp) rfl
        (by simp [putStage, Ask.Stage.outcome?]) rfl
  | listed =>
    dsimp only
    split
    · exact .put n a .sent there (by simp [stage, Ask.Stage.outcome?]) (by simp) (by simp) rfl
        (by simp [putStage, Ask.Stage.outcome?]) (by simp)
    · exact closes (by simp [stage, Ask.Stage.outcome?]) rfl rfl rfl
  | sent =>
    dsimp only
    split
    · next body found =>
      refine .put n a (.ended (.answered body)) there (by simp [stage, Ask.Stage.outcome?]) (by simp)
        ?_ rfl rfl rfl
      rintro other same
      obtain rfl : body = other := by simpa using same
      exact found
    · split
      · exact .rest rfl rfl rfl
      · exact closes (by simp [stage, Ask.Stage.outcome?]) rfl rfl rfl
  | leaving =>
    exact .put n a (.ended .cancelled) there (by simp [stage, Ask.Stage.outcome?]) (by simp)
      (by simp) rfl rfl (by simp [finish, putStage])
  | ended | dropped => exact .rest rfl rfl rfl

theorem turn_move (w : Exchange) (next : Move) : Turn w (w.move next) := by
  cases next with
  | ask method params => exact .ask _ rfl rfl rfl rfl rfl
  | step n =>
    cases there : w.asks[n]? with
    | none => simpa only [move, there] using Turn.rest rfl rfl rfl
    | some a => simpa only [move, there] using turn_stepAsk there
  | giveUp n =>
    cases there : w.asks[n]? with
    | none => simpa only [move, there] using Turn.rest rfl rfl rfl
    | some a =>
      simp only [move, there]
      split
      · next stage =>
        exact .put n a .leaving there (by simp [stage, Ask.Stage.outcome?]) (by simp) (by simp) rfl
          (by simp [putStage, unlist, Ask.Stage.outcome?]) rfl
      · exact .rest rfl rfl rfl
  | drop n =>
    cases there : w.asks[n]? with
    | none => simpa only [move, there] using Turn.rest rfl rfl rfl
    | some a =>
      simp only [move, there]
      split
      · exact .rest rfl rfl rfl
      · next on =>
        have on : a.stage.outcome? = none := by
          cases stage : a.stage <;> simp_all [Ask.Stage.outcome?]
        exact .put n a .dropped there on (by simp) (by simp) rfl
          (by simp [putStage, Ask.Stage.outcome?]) rfl
  | hear message => exact .rest rfl rfl (nextId_receive w.connection message)
  | post message => exact .rest rfl rfl (nextId_post ..)
  | write =>
    refine .rest rfl rfl ?_
    cases queue : w.connection.queue <;> simp [move, next?, queue]
  | shut | stopReading | stopWriting => exact .rest rfl rfl rfl

namespace Turn

variable {w' : Exchange}

/-- A request keeps its number, and goes on or stays. -/
theorem asks (turn : Turn w w') (there : w.asks[n]? = some a) :
    ∃ b, w'.asks[n]? = some b ∧ b.id = a.id ∧ (a.stage ≠ .numbered → b.stage ≠ .numbered) := by
  cases turn with
  | rest asks => exact ⟨a, asks ▸ there, rfl, id⟩
  | ask b _ _ asks =>
    have old := (List.getElem?_eq_some_iff.1 there).1
    exact ⟨a, by rw [asks, List.getElem?_append_left old, there], rfl, id⟩
  | put m b stage here _ later _ asks =>
    by_cases same : m = n
    · subst same
      obtain rfl := Option.some.inj (here.symm.trans there)
      have inside := (List.getElem?_eq_some_iff.1 there).1
      exact ⟨{ b with stage }, by rw [asks, List.getElem?_set_self inside], rfl, fun _ => later⟩
    · exact ⟨a, by rw [asks, List.getElem?_set_ne same, there], rfl, id⟩

/-- A request is an old one, has just gone on, or has just been made. -/
theorem asks_cases (turn : Turn w w') (there : w'.asks[n]? = some a) :
    w.asks[n]? = some a ∨
      (∃ b, w.asks[n]? = some b ∧ a.id = b.id ∧
        ∀ body, a.stage = .ended (.answered body) → w.connection.arrived.lookup b.id = some body) ∨
      n = w.asks.length ∧ a.id = w.connection.nextId ∧ a.stage = .numbered := by
  cases turn with
  | rest asks => exact .inl (asks ▸ there)
  | ask b id_eq new asks =>
    rw [asks, List.getElem?_append] at there
    split at there
    · exact .inl there
    · obtain ⟨last, rfl⟩ := List.getElem?_eq_some_iff.1 there
      simp only [List.length_singleton] at last
      exact .inr (.inr ⟨by omega, by simpa using id_eq, by simpa using new⟩)
  | put m b stage here _ _ seen asks =>
    rw [asks, List.getElem?_set] at there
    split at there
    · next same =>
      subst same
      split at there
      · obtain rfl := Option.some.inj there
        exact .inr (.inl ⟨b, here, rfl, seen⟩)
      · simp at there
    · exact .inl there

theorem entered (turn : Turn w w') (h : w.Entered id) : w'.Entered id := by
  obtain ⟨n, a, there, rfl, on⟩ := h
  obtain ⟨b, there', same, on'⟩ := turn.asks there
  exact ⟨n, b, there', same, on' on⟩

theorem isNumbered (turn : Turn w w') (h : w.IsNumbered) : w'.IsNumbered := by
  constructor
  · intro n a there
    rcases turn.asks_cases there with old | ⟨b, old, same, -⟩ | ⟨rfl, id_eq, -⟩
    · exact h.id_eq old
    · rw [same, h.id_eq old]
    · rw [id_eq, h.next]
  · cases turn with
    | rest asks _ next => rw [next, asks, h.next]
    | ask b _ _ asks _ next => simp [next, asks, h.next]
    | put m b stage _ _ _ _ asks _ next => rw [next, asks, List.length_set, h.next]

end Turn

/-- A message of the server's changes nothing, or answers a number in the table and takes it out. -/
theorem hear_cases (w : Exchange) (message : Json) :
    (w.move (.hear message) = w ∧ ∀ (id : RequestId) (body : Json),
        Incoming.ofJson? message = some (.response id body) → id ∉ w.connection.waiting) ∨
      ∃ (id : RequestId) (body : Json), Incoming.ofJson? message = some (.response id body) ∧
        id ∈ w.connection.waiting ∧
        w.move (.hear message) =
          { w with
            connection :=
              { w.connection with
                waiting := w.connection.waiting.filter (· ≠ id)
                arrived := w.connection.arrived ++ [(id, body)] } } := by
  simp only [move, receive]
  split
  · next number body response =>
    simp only [deliver, Bool.and_eq_true, decide_eq_true_eq, List.contains_iff_mem]
    split
    · next takes =>
      refine .inr ⟨number.toNat, body, ?_, takes.2, rfl⟩
      rw [response, Int.toNat_of_nonneg takes.1]
    · next refuses =>
      refine .inl ⟨rfl, fun id other same there => refuses ?_⟩
      obtain ⟨rfl, -⟩ : number = (id : Int) ∧ body = other := by simpa [response] using same
      exact ⟨Int.natCast_nonneg id, there⟩
  · next other => exact .inl ⟨rfl, fun id body same => absurd same (other id body)⟩

/-- What any other move does to the table: numbers may be taken out, a request may enter its own,
and no response comes. -/
structure Kept (w w' : Exchange) : Prop where
  waiting : ∀ {id}, id ∈ w'.connection.waiting → id ∈ w.connection.waiting ∨
    ∃ (n : Nat) (a b : Ask), w.asks[n]? = some a ∧ a.id = id ∧ a.stage = .numbered ∧
      w'.asks[n]? = some b ∧ b.id = id ∧ b.stage ≠ .numbered
  arrived : ∀ {id body}, w'.connection.arrived.lookup id = some body →
    w.connection.arrived.lookup id = some body

namespace Kept

variable {w' : Exchange}

theorem of_subset (waiting : w'.connection.waiting ⊆ w.connection.waiting)
    (arrived : w'.connection.arrived = w.connection.arrived) : Kept w w' :=
  ⟨fun there => .inl (waiting there), fun found => arrived ▸ found⟩

theorem stepAsk (there : w.asks[n]? = some a) : Kept w (w.stepAsk n a) := by
  unfold Exchange.stepAsk
  cases stage : a.stage with
  | numbered =>
    dsimp only
    split
    · exact of_subset (fun _ => id) rfl
    · refine ⟨fun {id} new => ?_, id⟩
      rcases List.mem_append.1 new with old | here
      · exact .inl old
      · obtain rfl := List.mem_singleton.1 here
        have inside := (List.getElem?_eq_some_iff.1 there).1
        exact .inr ⟨n, a, { a with stage := .listed }, there, rfl, stage,
          by simp [putStage, List.getElem?_set_self inside], rfl, by simp⟩
  | listed =>
    dsimp only
    split
    · exact of_subset (by simp) (by simp)
    · exact of_subset (List.filter_subset_self _) rfl
  | sent =>
    dsimp only
    split
    · refine ⟨.inl, fun {id body} found => ?_⟩
      have kept : (w.connection.arrived.filter fun x => x.1 ≠ a.id).lookup id = some body := found
      rw [lookup_filter_key fun key => decide (key ≠ a.id)] at kept
      split at kept
      · exact kept
      · simp at kept
    · split <;> exact of_subset (fun _ => id) rfl
  | leaving => exact of_subset (by simp [finish, putStage]) (by simp [finish, putStage])
  | ended | dropped => exact of_subset (fun _ => id) rfl

theorem move (w : Exchange) {next : Move} (other : ∀ message, next ≠ .hear message) :
    Kept w (w.move next) := by
  have same : Kept w w := of_subset (fun _ => id) rfl
  cases next with
  | ask | stopReading | stopWriting => exact of_subset (fun _ => id) rfl
  | step n =>
    cases there : w.asks[n]? with
    | none => simpa only [Exchange.move, there] using same
    | some a => simpa only [Exchange.move, there] using stepAsk there
  | giveUp n =>
    cases there : w.asks[n]? with
    | none => simpa only [Exchange.move, there] using same
    | some a =>
      simp only [Exchange.move, there]
      split
      · exact of_subset (List.filter_subset_self _) rfl
      · exact same
  | drop n =>
    cases there : w.asks[n]? with
    | none => simpa only [Exchange.move, there] using same
    | some a =>
      simp only [Exchange.move, there]
      split
      · exact same
      · exact of_subset (fun _ => id) rfl
  | hear message => exact absurd rfl (other message)
  | post message => exact of_subset (by simp [Exchange.move]) (by simp [Exchange.move])
  | write =>
    cases queue : w.connection.queue with
    | nil => simpa [Exchange.move, next?, queue] using same
    | cons message rest =>
      exact of_subset (by simp [Exchange.move, next?, queue])
        (by simp [Exchange.move, next?, queue])
  | shut => exact of_subset (by simp [Exchange.move, Connection.shut]) rfl

end Kept

/-- Each request that has ended is noted, once and with its outcome. -/
structure Tallied (w : Exchange) : Prop where
  mem : ∀ {n : Nat} {outcome : Outcome}, (n, outcome) ∈ w.ends ↔
    ∃ a : Ask, w.asks[n]? = some a ∧ a.stage.outcome? = some outcome
  once : (w.ends.map Prod.fst).Nodup

theorem Turn.tallied {w' : Exchange} (turn : Turn w w') (h : w.Tallied) : w'.Tallied := by
  cases turn with
  | rest asks ends => exact ⟨by rw [ends, asks]; exact h.mem, ends ▸ h.once⟩
  | ask b _ new asks ends =>
    refine ⟨fun {n outcome} => ?_, ends ▸ h.once⟩
    rw [ends, asks, h.mem, List.getElem?_append]
    split
    · exact Iff.rfl
    · next beyond =>
      rw [List.getElem?_eq_none (Nat.le_of_not_lt beyond)]
      cases n - w.asks.length <;> simp [new, Ask.Stage.outcome?]
  | put m b stage here on _ _ asks ends =>
    have inside := (List.getElem?_eq_some_iff.1 here).1
    have absent (outcome : Outcome) : (m, outcome) ∉ w.ends := by
      rw [h.mem, here]
      simp [on]
    constructor
    · intro n outcome
      rw [ends, asks, List.mem_append, List.getElem?_set]
      by_cases same : m = n
      · subst same
        cases now : stage.outcome? <;> simp [absent, inside, now, eq_comm]
      · cases now : stage.outcome? <;> simp [h.mem, same, Ne.symm same]
    · rw [ends, List.map_append, List.nodup_append]
      refine ⟨h.once, by cases stage.outcome? <;> simp, ?_⟩
      rintro k old _ new rfl
      obtain ⟨⟨_, outcome⟩, noted, rfl⟩ := List.mem_map.1 old
      cases now : stage.outcome? with
      | none => simp [now] at new
      | some last =>
        obtain rfl : _ = m := by simpa [now] using new
        exact absent outcome noted

theorem Turn.keeps_ends {w' : Exchange} (turn : Turn w w') : w.ends <+: w'.ends := by
  cases turn with
  | rest _ ends | ask _ _ _ _ ends => simp [ends]
  | put _ _ _ _ _ _ _ _ ends =>
    rw [ends]
    exact List.prefix_append ..

/-- A request that has ended stays so. -/
theorem keeps_ends_run (w : Exchange) (moves : List Move) : w.ends <+: (w.run moves).ends := by
  induction moves generalizing w with
  | nil => exact List.prefix_rfl
  | cons next later ih => exact (turn_move w next).keeps_ends.trans (ih (w.move next))

/-- No response to the number has come while it was in the table. -/
def Unanswered (moves : List Move) (id : RequestId) : Prop :=
  ∀ past message later body, moves = past ++ .hear message :: later →
    Incoming.ofJson? message = some (.response id body) → id ∉ (run {} past).connection.waiting

/-- The response is the first to the number that came while it was in the table. -/
def FirstAnswer (moves : List Move) (id : RequestId) (body : Json) : Prop :=
  ∃ past message later, moves = past ++ .hear message :: later ∧
    Incoming.ofJson? message = some (.response id body) ∧
    id ∈ (run {} past).connection.waiting ∧ Unanswered past id

theorem unanswered_nil (id : RequestId) : Unanswered [] id := by
  intro past message later body split
  simp at split

theorem Unanswered.concat {moves : List Move} {next : Move} (h : Unanswered moves id)
    (quiet : ∀ message body, next = .hear message →
      Incoming.ofJson? message = some (.response id body) →
        id ∉ (run {} moves).connection.waiting) :
    Unanswered (moves ++ [next]) id := by
  intro past message later body split response
  rcases List.eq_nil_or_concat' later with rfl | ⟨before, last, rfl⟩
  · obtain ⟨rfl, is⟩ := List.append_inj' split rfl
    exact quiet message body (List.singleton_inj.1 is) response
  · rw [← List.cons_append, ← List.append_assoc] at split
    exact h past message before body (List.append_inj' split rfl).1 response

theorem FirstAnswer.later {moves : List Move} (h : FirstAnswer moves id body) (next : Move) :
    FirstAnswer (moves ++ [next]) id body := by
  obtain ⟨past, message, later, rfl, rest⟩ := h
  exact ⟨past, message, later ++ [next], by simp, rest⟩

/-- The table and what has come for it, as the moves made so far explain them. -/
structure Sound (w : Exchange) (moves : List Move) : Prop where
  numbered : w.IsNumbered
  entered : ∀ {id}, id ∈ w.connection.waiting → w.Entered id
  /-- A number that is in the table, or was never in it, has had no response. -/
  unanswered : ∀ {id}, id ∈ w.connection.waiting ∨ ¬ w.Entered id →
    Unanswered moves id ∧ w.connection.arrived.lookup id = none
  arrived : ∀ {id body}, w.connection.arrived.lookup id = some body → FirstAnswer moves id body
  answered : ∀ {n : Nat} {a : Ask} {body : Json}, w.asks[n]? = some a →
    a.stage = .ended (.answered body) → FirstAnswer moves a.id body

theorem sound_opening : Sound {} [] := by
  refine ⟨⟨?_, rfl⟩, ?_, fun _ => ⟨unanswered_nil _, rfl⟩, ?_, ?_⟩ <;> simp

namespace Sound

variable {moves : List Move}

/-- A request whose number enters the table had not gone on before. -/
theorem fresh_of_numbered (h : w.IsNumbered) (there : w.asks[n]? = some a)
    (new : a.stage = .numbered) : ¬ w.Entered a.id := by
  rintro ⟨m, b, there', same, on⟩
  obtain rfl : m = n := by
    rw [h.id_eq there, h.id_eq there'] at same
    exact Nat.succ.inj same
  obtain rfl := Option.some.inj (there.symm.trans there')
  exact on new

/-- Requests that have ended with a response, and one more that may do so. -/
theorem answered_of_turn (h : w.Sound moves) {w' : Exchange} {next : Move} (turn : Turn w w')
    (there : w'.asks[n]? = some a) (ended : a.stage = .ended (.answered body)) :
    FirstAnswer (moves ++ [next]) a.id body := by
  rcases turn.asks_cases there with old | ⟨b, -, same, seen⟩ | ⟨-, -, new⟩
  · exact (h.answered old ended).later next
  · rw [same]
    exact (h.arrived (seen body ended)).later next
  · simp [new] at ended

theorem of_kept (h : (run {} moves).Sound moves) {next : Move}
    (other : ∀ message, next ≠ .hear message) :
    ((run {} moves).move next).Sound (moves ++ [next]) := by
  have turn := turn_move (run {} moves) next
  have kept := Kept.move (run {} moves) other
  refine ⟨turn.isNumbered h.numbered, fun {id} there => ?_, fun {id} now => ?_,
    fun found => (h.arrived (kept.arrived found)).later next, h.answered_of_turn turn⟩
  · rcases kept.waiting there with old | ⟨n, a, b, -, -, -, there', same, on⟩
    · exact turn.entered (h.entered old)
    · exact ⟨n, b, there', same, on⟩
  · -- a number in the table was there before, or enters it for the first time
    have before : id ∈ (run {} moves).connection.waiting ∨ ¬ (run {} moves).Entered id := by
      rcases now with there | never
      · rcases kept.waiting there with old | ⟨n, a, b, there', rfl, new, -⟩
        · exact .inl old
        · exact .inr (fresh_of_numbered h.numbered there' new)
      · exact .inr fun old => never (turn.entered old)
    obtain ⟨quiet, absent⟩ := h.unanswered before
    refine ⟨quiet.concat fun message _ is => absurd is (other message), ?_⟩
    cases found : ((run {} moves).move next).connection.arrived.lookup id with
    | none => rfl
    | some body => simpa [absent] using kept.arrived found

theorem hear (h : (run {} moves).Sound moves) (message : Json) :
    ((run {} moves).move (.hear message)).Sound (moves ++ [.hear message]) := by
  have turn := turn_move (run {} moves) (.hear message)
  have entered {id} : ((run {} moves).move (.hear message)).Entered id ↔
      (run {} moves).Entered id := Iff.rfl
  rcases hear_cases (run {} moves) message with ⟨same, ignored⟩ | ⟨k, body, response, there, same⟩
  · refine ⟨turn.isNumbered h.numbered, fun there => ?_, fun now => ?_, fun found => ?_,
      h.answered_of_turn turn⟩
    · exact entered.2 (h.entered (same ▸ there))
    · obtain ⟨quiet, absent⟩ := h.unanswered (same ▸ now)
      refine ⟨quiet.concat fun other body is response => ?_, by rw [same]; exact absent⟩
      obtain rfl := Move.hear.inj is
      exact ignored _ body response
    · exact (h.arrived (same ▸ found)).later _
  · have only {id : RequestId} {other : Json}
        (also : Incoming.ofJson? message = some (.response id other)) : id = k := by
      rw [response] at also
      exact (Int.ofNat_inj.1 (Incoming.response.inj (Option.some.inj also)).1).symm
    have remains {id} : id ∈ ((run {} moves).move (.hear message)).connection.waiting ↔
        id ∈ (run {} moves).connection.waiting ∧ id ≠ k := by
      simp [same]
    have found {id} : ((run {} moves).move (.hear message)).connection.arrived.lookup id =
        ((run {} moves).connection.arrived.lookup id).or (if id = k then some body else none) := by
      rw [same, List.lookup_append]
      by_cases eq : id = k
      · simp [eq]
      · simp [eq, List.lookup_cons, beq_false_of_ne eq]
    refine ⟨turn.isNumbered h.numbered, fun there => ?_, fun {id} now => ?_,
      fun {id other} got => ?_, h.answered_of_turn turn⟩
    · exact entered.2 (h.entered (remains.1 there).1)
    · have differs : id ≠ k := by
        rcases now with there | never
        · exact (remains.1 there).2
        · rintro rfl
          exact never (entered.2 (h.entered there))
      have before : id ∈ (run {} moves).connection.waiting ∨ ¬ (run {} moves).Entered id :=
        now.imp_left fun there => (remains.1 there).1
      obtain ⟨quiet, absent⟩ := h.unanswered before
      refine ⟨quiet.concat fun other _ is also => ?_, by simp [found, absent, differs]⟩
      obtain rfl := Move.hear.inj is
      exact absurd (only also) differs
    · rw [found] at got
      cases old : (run {} moves).connection.arrived.lookup id with
      | some before =>
        obtain rfl : before = other := by simpa [old] using got
        exact (h.arrived old).later _
      | none =>
        obtain ⟨rfl, rfl⟩ : id = k ∧ body = other := by simpa [old] using got
        exact ⟨moves, message, [], rfl, response, there, (h.unanswered (.inl there)).1⟩

end Sound

theorem sound_run (moves : List Move) : (run {} moves).Sound moves := by
  induction moves using List.reverseRecOn with
  | nil => exact sound_opening
  | append_singleton moves next ih =>
    rw [run_concat]
    cases next with
    | hear message => exact ih.hear message
    | _ => exact ih.of_kept (by simp)

theorem tallied_run (moves : List Move) : (run {} moves).Tallied := by
  induction moves using List.reverseRecOn with
  | nil => constructor <;> simp [run]
  | append_singleton moves next ih =>
    rw [run_concat]
    exact (turn_move _ next).tallied ih

theorem Sound.next_not_waiting {moves : List Move} (h : w.Sound moves) :
    w.connection.nextId ∉ w.connection.waiting := by
  intro there
  obtain ⟨n, a, old, same, -⟩ := h.entered there
  have inside := (List.getElem?_eq_some_iff.1 old).1
  rw [h.numbered.id_eq old, h.numbered.next] at same
  exact absurd (Nat.succ.inj same) (Nat.ne_of_lt inside)

/-- A request that nobody comes between is sent as the connection sends it in one go. -/
theorem request_in_steps {moves : List Move} (h : w.Sound moves) (method : String) (params : Json) :
    let v := ((w.move (.ask method params)).move (.step w.asks.length)).move (.step w.asks.length)
    v.connection = (w.connection.request method params).1 ∧
      (v.asks[w.asks.length]?.map (·.stage)) =
        some (match (w.connection.request method params).2 with
          | .ok _ => .sent
          | .error _ => .ended .closed) := by
  have apart : ∀ id ∈ w.connection.waiting, ¬ id = w.connection.nextId := by
    rintro _ there rfl
    exact h.next_not_waiting there
  cases shut : w.connection.isShut with
  | true => simp [move, stepAsk, finish, putStage, request, shut]
  | false =>
    cases writes : w.connection.writes with
    | true => simp [move, stepAsk, putStage, request, post, shut, writes]
    | false =>
      simpa [move, stepAsk, finish, putStage, unlist, request, shut, writes] using apart

/-- A request that waits goes on when the connection has an answer for it, and ends with that. -/
theorem answer_in_step (there : w.asks[n]? = some a) (sent : a.stage = .sent) :
    (w.connection.answer? a.id = none → w.move (.step n) = w) ∧
      ∀ result, w.connection.answer? a.id = some result → ∃ outcome : Outcome,
        outcome.result a.method = result ∧ (w.move (.step n)).ends = w.ends ++ [(n, outcome)] := by
  simp only [answer?, move, there, stepAsk, sent]
  cases found : w.connection.arrived.lookup a.id with
  | some body =>
    exact ⟨by simp, fun result same => ⟨.answered body, Option.some.inj same, rfl⟩⟩
  | none =>
    cases waits : w.connection.waiting.contains a.id with
    | true => simp
    | false =>
      exact ⟨by simp, fun result same => ⟨.closed, Option.some.inj same, rfl⟩⟩

/-- A request that is given up leaves the table and tells the server. -/
theorem cancel_in_steps (there : w.asks[n]? = some a) (sent : a.stage = .sent) :
    let v := (w.move (.giveUp n)).move (.step n)
    v.connection = w.connection.cancel a.id ∧ v.ends = w.ends ++ [(n, .cancelled)] := by
  have inside := (List.getElem?_eq_some_iff.1 there).1
  have leaves : w.move (.giveUp n) = (w.unlist a.id).putStage n a .leaving := by
    simp only [move, there, sent]
  have left : ((w.unlist a.id).putStage n a .leaving).asks[n]? =
      some { a with stage := .leaving } := List.getElem?_set_self inside
  rw [leaves]
  simp only [move, left, stepAsk]
  exact ⟨rfl, rfl⟩

/-- The connection is closed by closing the table, the reader and the writer. -/
theorem close_in_steps (w : Exchange) :
    (((w.move .shut).move .stopReading).move .stopWriting).connection = w.connection.close := rfl

/-- A message that does not answer a number leaves that number as it is. -/
theorem hear_of_other {message : Json}
    (other : ∀ body, Incoming.ofJson? message ≠ some (.response id body)) :
    (id ∈ (w.move (.hear message)).connection.waiting ↔ id ∈ w.connection.waiting) ∧
      (w.move (.hear message)).connection.arrived.lookup id = w.connection.arrived.lookup id := by
  rcases hear_cases w message with ⟨same, -⟩ | ⟨k, body, response, -, same⟩
  · rw [same]
    exact ⟨Iff.rfl, rfl⟩
  · have differs : id ≠ k := by
      rintro rfl
      exact other body response
    rw [same]
    simp [differs, List.lookup_append, List.lookup_cons, beq_false_of_ne differs]

/-- What a request does next is not changed by a message that does not answer it. -/
theorem step_of_other {message : Json} (there : w.asks[n]? = some a)
    (other : ∀ body, Incoming.ofJson? message ≠ some (.response a.id body)) :
    ((w.move (.hear message)).move (.step n)).asks = (w.move (.step n)).asks ∧
      ((w.move (.hear message)).move (.step n)).ends = (w.move (.step n)).ends := by
  obtain ⟨waits, comes⟩ := hear_of_other other
  have same : (w.move (.hear message)).asks = w.asks ∧ (w.move (.hear message)).ends = w.ends ∧
      (w.move (.hear message)).connection.isShut = w.connection.isShut ∧
      (w.move (.hear message)).connection.writes = w.connection.writes := by
    rcases hear_cases w message with ⟨same, -⟩ | ⟨k, body, -, -, same⟩ <;> rw [same] <;>
      exact ⟨rfl, rfl, rfl, rfl⟩
  generalize w.move (.hear message) = v at *
  obtain ⟨asks, ends, isShut, writes⟩ := same
  have there' : v.asks[n]? = some a := asks ▸ there
  simp only [move, there, there', stepAsk]
  cases stage : a.stage with
  | numbered =>
    cases shut : w.connection.isShut <;> simp [isShut, shut, finish, putStage, asks, ends]
  | listed =>
    cases writing : w.connection.writes <;>
      simp [writes, writing, finish, putStage, unlist, asks, ends]
  | sent =>
    cases found : w.connection.arrived.lookup a.id with
    | some body => simp [comes, found, finish, putStage, asks, ends]
    | none =>
      by_cases waiting : a.id ∈ w.connection.waiting <;>
        simp [comes, found, waits, waiting, finish, putStage, asks, ends]
  | leaving => simp [finish, putStage, asks, ends]
  | ended | dropped => simp [asks, ends]

/-- A request whose response comes while it waits ends with it. -/
theorem Sound.step_of_response {moves : List Move} (h : w.Sound moves) {message : Json}
    (there : w.asks[n]? = some a) (sent : a.stage = .sent) (waits : a.id ∈ w.connection.waiting)
    (response : Incoming.ofJson? message = some (.response a.id body)) :
    ((w.move (.hear message)).move (.step n)).ends = w.ends ++ [(n, .answered body)] := by
  have absent := (h.unanswered (.inl waits)).2
  rcases hear_cases w message with ⟨-, ignored⟩ | ⟨k, other, answers, -, same⟩
  · exact absurd waits (ignored _ _ response)
  · have answered : ((a.id : Int) = k) ∧ body = other := by simpa [response] using answers
    obtain ⟨number, rfl⟩ := answered
    obtain rfl := Int.ofNat_inj.1 number
    rw [same]
    simp only [move, there, stepAsk, sent, List.lookup_append, absent, Option.none_or,
      List.lookup_cons_self]
    rfl

/-- No two requests have one number; no request ends twice, and its end is final; what ends a request
with the server's word is the first response to its number that came while it waited, and such a
response does end it. A message that is no response to a request's number changes nothing for it. -/
theorem requests_end_with_first_response (moves : List Move) :
    let w := run {} moves
    (∀ (n m : Nat) (a b : Ask), w.asks[n]? = some a → w.asks[m]? = some b → a.id = b.id → n = m) ∧
      (w.ends.map Prod.fst).Nodup ∧ (∀ later, w.ends <+: (w.run later).ends) ∧
      (∀ (n : Nat) (outcome : Outcome), (n, outcome) ∈ w.ends → ∃ a, w.asks[n]? = some a ∧
        a.stage = .ended outcome ∧ ∀ body, outcome = .answered body →
          FirstAnswer moves a.id body ∧ outcome.result a.method = resultOf body) ∧
      (∀ (n : Nat) (a : Ask) (message body : Json), w.asks[n]? = some a → a.stage = .sent →
        a.id ∈ w.connection.waiting → Incoming.ofJson? message = some (.response a.id body) →
          ((w.move (.hear message)).move (.step n)).ends = w.ends ++ [(n, .answered body)]) ∧
      ∀ message : Json, (w.move (.hear message)).asks = w.asks ∧
        (w.move (.hear message)).ends = w.ends ∧
        ∀ (n : Nat) (a : Ask), w.asks[n]? = some a →
          (∀ body, Incoming.ofJson? message ≠ some (.response a.id body)) →
            (a.id ∈ (w.move (.hear message)).connection.waiting ↔ a.id ∈ w.connection.waiting) ∧
            ((w.move (.hear message)).move (.step n)).asks = (w.move (.step n)).asks ∧
            ((w.move (.hear message)).move (.step n)).ends = (w.move (.step n)).ends := by
  intro w
  have sound : w.Sound moves := sound_run moves
  have tallied : w.Tallied := tallied_run moves
  refine ⟨fun n m a b hn hm same => ?_, tallied.once, keeps_ends_run w,
    fun n outcome ended => ?_,
    fun n a message body there sent waits response =>
      sound.step_of_response there sent waits response,
    fun message => ⟨rfl, rfl, fun n a there other =>
      ⟨(hear_of_other other).1, step_of_other there other⟩⟩⟩
  · rw [sound.numbered.id_eq hn, sound.numbered.id_eq hm] at same
    exact Nat.succ.inj same
  · obtain ⟨a, there, now⟩ := tallied.mem.1 ended
    have now := Ask.Stage.outcome?_eq_some.1 now
    refine ⟨a, there, now, ?_⟩
    rintro body rfl
    exact ⟨sound.answered there now, rfl⟩

end Exchange

end LanguageBroker.Connection
