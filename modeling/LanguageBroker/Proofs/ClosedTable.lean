import LanguageBroker.Proofs.RequestOutcomes
import LanguageBroker.Wire

/-!
What becomes of requests when the table of waiting requests is closed. It is closed by the broker,
or by the reader when the server's output has ended or cannot be read. From then on it stays closed
and empty, so that no response reaches a request any more, and every request is at most two turns
from its end. Only the queue can make a request wait for its turn: it takes a message while there is
room in it, or as soon as nobody writes.
-/

namespace LanguageBroker.Connection

namespace Ask.Stage

/-- Has the request ended, or was it dropped? -/
def isOver : Ask.Stage → Bool
  | .ended _ | .dropped => true
  | _ => false

/-- The turns that a request needs at most when the table is closed. -/
def left : Ask.Stage → Nat
  | .listed => 2
  | .numbered | .sent | .leaving => 1
  | .ended _ | .dropped => 0

/-- Is a message to be queued next? -/
def isPosting : Ask.Stage → Bool
  | .listed | .leaving => true
  | _ => false

/-- Was the request refused or dropped, or will it be so in its next turn? -/
def isRefused : Ask.Stage → Bool
  | .numbered | .ended .closed | .dropped => true
  | _ => false

theorem isOver_of_left {stage : Ask.Stage} (none : stage.left = 0) : stage.isOver := by
  cases stage <;> simp_all [left, isOver]

theorem left_of_isOver {stage : Ask.Stage} (done : stage.isOver) : stage.left = 0 := by
  cases stage <;> simp_all [left, isOver]

theorem left_le (stage : Ask.Stage) : stage.left ≤ 2 := by
  cases stage <;> simp [left]

end Ask.Stage

/-- So many messages may wait for the writer. -/
def capacity : Nat := 64

/-- Has one who queues a message to wait? Not when the writer has stopped, since that is told at
once. -/
def isFull (c : Connection) : Bool := c.writes && capacity ≤ c.queue.length

namespace Exchange

variable {w : Exchange} {n : Nat} {a : Ask} {id : RequestId}

/-- Does the request wait for room in the queue? -/
def isHeld (w : Exchange) (n : Nat) : Bool :=
  (w.asks[n]?.any fun a => a.stage.isPosting) && w.connection.isFull

/-- What every move keeps is so after a run. -/
theorem run_induction {P : Exchange → Prop} (keeps : ∀ w next, P w → P (w.move next)) (h : P w)
    (moves : List Move) : P (w.run moves) := by
  induction moves generalizing w with
  | nil => exact h
  | cons next later ih => exact ih (keeps w next h)

/-- The table is closed and empty. -/
structure IsClosed (w : Exchange) : Prop where
  shut : w.connection.isShut = true
  empty : w.connection.waiting = []

@[simp] theorem isShut_post (c : Connection) (message : Json) :
    (c.post message).isShut = c.isShut := by
  unfold Connection.post
  split <;> rfl

theorem isShut_receive (c : Connection) (message : Json) :
    (c.receive message).1.isShut = c.isShut := by
  unfold Connection.receive
  split
  · simp only [Connection.deliver]
    split <;> rfl
  · rfl

/-- Only closing closes the table, and nothing opens it. -/
theorem isShut_move_iff (w : Exchange) (next : Move) :
    (w.move next).connection.isShut = true ↔ w.connection.isShut = true ∨ next = .shut := by
  have same {c : Connection} (eq : c.isShut = w.connection.isShut) (other : next ≠ .shut) :
      c.isShut = true ↔ w.connection.isShut = true ∨ next = .shut := by
    simp [eq, other]
  cases next with
  | shut => simp [move, Connection.shut]
  | step n =>
    refine same ?_ (by simp)
    cases there : w.asks[n]? with
    | none => simp [move, there]
    | some a =>
      simp only [move, there, stepAsk]
      cases a.stage <;> dsimp only <;> (repeat' split) <;> simp [finish, putStage, unlist, take]
  | giveUp n | drop n =>
    refine same ?_ (by simp)
    cases there : w.asks[n]? with
    | none => simp [move, there]
    | some a =>
      simp only [move, there]
      split <;> simp [putStage, unlist]
  | hear message => exact same (isShut_receive w.connection message) (by simp)
  | write =>
    refine same ?_ (by simp)
    cases queue : w.connection.queue <;> simp [move, next?, queue]
  | ask | stopReading | stopWriting => exact same rfl (by simp)
  | post message => exact same (isShut_post ..) (by simp)

namespace IsClosed

theorem shut_of_move (h : w.IsClosed) (next : Move) : (w.move next).connection.isShut = true :=
  (isShut_move_iff w next).2 (.inl h.shut)

theorem move (h : w.IsClosed) (next : Move) : (w.move next).IsClosed := by
  refine ⟨h.shut_of_move next, ?_⟩
  cases next with
  | step n =>
    cases there : w.asks[n]? with
    | none => simpa [Exchange.move, there] using h.empty
    | some a =>
      simp only [Exchange.move, there, stepAsk]
      cases a.stage <;> dsimp only <;> (repeat' split) <;>
        simp_all [finish, putStage, unlist, take, h.empty, h.shut]
  | giveUp n | drop n =>
    cases there : w.asks[n]? with
    | none => simpa [Exchange.move, there] using h.empty
    | some a =>
      simp only [Exchange.move, there]
      split <;> simp [putStage, unlist, h.empty]
  | hear message =>
    rcases hear_cases w message with ⟨same, -⟩ | ⟨id, body, -, there, -⟩
    · rw [same, h.empty]
    · simp [h.empty] at there
  | write => cases queue : w.connection.queue <;> simp [Exchange.move, next?, queue, h.empty]
  | ask | stopReading | stopWriting => exact h.empty
  | post message => exact (waiting_post ..).trans h.empty
  | shut => rfl

theorem run (h : w.IsClosed) (moves : List Move) : (w.run moves).IsClosed :=
  run_induction (fun _ next h => h.move next) h moves

/-- No response reaches a request any more. -/
theorem lookup_move (h : w.IsClosed) (absent : w.connection.arrived.lookup id = none)
    (next : Move) : (w.move next).connection.arrived.lookup id = none := by
  by_cases heard : ∃ message, next = .hear message
  · obtain ⟨message, rfl⟩ := heard
    rcases hear_cases w message with ⟨same, -⟩ | ⟨_, _, -, there, -⟩
    · rw [same, absent]
    · simp [h.empty] at there
  · have kept : Kept w (w.move next) := Kept.move w fun message same => heard ⟨message, same⟩
    cases found : (w.move next).connection.arrived.lookup id with
    | none => rfl
    | some body => simpa [absent] using kept.arrived found

end IsClosed

/-- A table that is closed has been emptied. -/
theorem isClosed_iff (moves : List Move) :
    (run {} moves).IsClosed ↔ (run {} moves).connection.isShut = true := by
  refine ⟨IsClosed.shut, ?_⟩
  induction moves using List.reverseRecOn with
  | nil => simp [run]
  | append_singleton moves next ih =>
    rw [run_concat, isShut_move_iff]
    rintro (before | rfl)
    · exact (ih before).move next
    · exact ⟨rfl, rfl⟩

/-- How a request goes on. -/
inductive Advance (w : Exchange) (a : Ask) : Ask.Stage → Prop
  | refused (new : a.stage = .numbered) (shut : w.connection.isShut = true) :
      Advance w a (.ended .closed)
  | listed (new : a.stage = .numbered) (isOpen : w.connection.isShut = false) : Advance w a .listed
  | sent (listed : a.stage = .listed) : Advance w a .sent
  | unsent (listed : a.stage = .listed) : Advance w a (.ended .closed)
  | answered {body : Json} (sent : a.stage = .sent)
      (found : w.connection.arrived.lookup a.id = some body) : Advance w a (.ended (.answered body))
  | closed (sent : a.stage = .sent) : Advance w a (.ended .closed)
  | leaving (sent : a.stage = .sent) : Advance w a .leaving
  | cancelled (leaving : a.stage = .leaving) : Advance w a (.ended .cancelled)
  | dropped (on : a.stage.outcome? = none) : Advance w a .dropped

/-- What a move does to the requests: nothing, a new one is made, or one goes on. -/
inductive Progress (w w' : Exchange) : Prop
  | rest (asks : w'.asks = w.asks)
  | made (a : Ask) (new : a.stage = .numbered) (asks : w'.asks = w.asks ++ [a])
  | advance (n : Nat) (a : Ask) (stage : Ask.Stage) (there : w.asks[n]? = some a)
      (advance : Advance w a stage) (asks : w'.asks = w.asks.set n { a with stage })

theorem progress_stepAsk (there : w.asks[n]? = some a) : Progress w (w.stepAsk n a) := by
  have goes {w' : Exchange} {stage : Ask.Stage} (advance : Advance w a stage)
      (asks : w'.asks = w.asks.set n { a with stage }) : Progress w w' :=
    .advance n a stage there advance asks
  unfold stepAsk
  cases stage : a.stage with
  | numbered =>
    dsimp only
    split
    · next shut => exact goes (.refused stage shut) rfl
    · next isOpen => exact goes (.listed stage (Bool.eq_false_iff.2 isOpen)) rfl
  | listed =>
    dsimp only
    split
    · exact goes (.sent stage) rfl
    · exact goes (.unsent stage) rfl
  | sent =>
    dsimp only
    split
    · next found => exact goes (.answered stage found) rfl
    · split
      · exact .rest rfl
      · exact goes (.closed stage) rfl
  | leaving => exact goes (.cancelled stage) rfl
  | ended | dropped => exact .rest rfl

theorem progress_move (w : Exchange) (next : Move) : Progress w (w.move next) := by
  cases next with
  | ask method params => exact .made _ rfl rfl
  | step n =>
    cases there : w.asks[n]? with
    | none => simpa only [move, there] using Progress.rest rfl
    | some a => simpa only [move, there] using progress_stepAsk there
  | giveUp n =>
    cases there : w.asks[n]? with
    | none => simpa only [move, there] using Progress.rest rfl
    | some a =>
      simp only [move, there]
      split
      · next stage => exact .advance n a .leaving there (.leaving stage) rfl
      · exact .rest rfl
  | drop n =>
    cases there : w.asks[n]? with
    | none => simpa only [move, there] using Progress.rest rfl
    | some a =>
      simp only [move, there]
      split
      · exact .rest rfl
      · next on =>
        have on : a.stage.outcome? = none := by
          cases stage : a.stage <;> simp_all [Ask.Stage.outcome?]
        exact .advance n a .dropped there (.dropped on) rfl
  | hear | post | write | shut | stopReading | stopWriting => exact .rest rfl

namespace Progress

variable {w' : Exchange}

/-- What has become of a request. -/
theorem asks (progress : Progress w w') (there : w.asks[n]? = some a) :
    ∃ b, w'.asks[n]? = some b ∧ b.id = a.id ∧ b.method = a.method ∧
      (b.stage = a.stage ∨ Advance w a b.stage) := by
  cases progress with
  | rest asks => exact ⟨a, asks ▸ there, rfl, rfl, .inl rfl⟩
  | made b _ asks =>
    have old := (List.getElem?_eq_some_iff.1 there).1
    exact ⟨a, by rw [asks, List.getElem?_append_left old, there], rfl, rfl, .inl rfl⟩
  | advance m b stage here advance asks =>
    by_cases same : m = n
    · subst same
      obtain rfl := Option.some.inj (here.symm.trans there)
      have inside := (List.getElem?_eq_some_iff.1 there).1
      exact ⟨{ b with stage }, by rw [asks, List.getElem?_set_self inside], rfl, rfl, .inr advance⟩
    · exact ⟨a, by rw [asks, List.getElem?_set_ne same, there], rfl, rfl, .inl rfl⟩

/-- A request that was not there is new. -/
theorem new (progress : Progress w w') (absent : w.asks[n]? = none) (there : w'.asks[n]? = some a) :
    a.stage = .numbered := by
  have beyond := List.getElem?_eq_none_iff.1 absent
  cases progress with
  | rest asks => simp [asks, absent] at there
  | made b new asks =>
    rw [asks, List.getElem?_append_right beyond] at there
    obtain ⟨-, rfl⟩ := List.getElem?_eq_some_iff.1 there
    simpa using new
  | advance m b stage _ _ asks =>
    rw [asks] at there
    have inside := (List.getElem?_eq_some_iff.1 there).1
    rw [List.length_set] at inside
    omega

end Progress

namespace IsClosed

/-- No request gets further away from its end. -/
theorem left_le (h : w.IsClosed) {stage : Ask.Stage} (advance : Advance w a stage) :
    stage.left ≤ a.stage.left := by
  cases advance with
  | listed new isOpen => simp [h.shut] at isOpen
  | _ => simp_all [Ask.Stage.left]

theorem isRefused (h : w.IsClosed) {stage : Ask.Stage} (advance : Advance w a stage)
    (before : a.stage.isRefused) : stage.isRefused := by
  cases advance with
  | listed new isOpen => simp [h.shut] at isOpen
  | _ => simp_all [Ask.Stage.isRefused]

theorem left_asks (h : w.IsClosed) (there : w.asks[n]? = some a) (next : Move) :
    ∃ b, (w.move next).asks[n]? = some b ∧ b.id = a.id ∧ b.method = a.method ∧
      b.stage.left ≤ a.stage.left := by
  obtain ⟨b, there', same, method, stays | advance⟩ := (progress_move w next).asks there
  · exact ⟨b, there', same, method, Nat.le_of_eq (by rw [stays])⟩
  · exact ⟨b, there', same, method, h.left_le advance⟩

/-- In its turn a request comes nearer to its end. -/
theorem asks_stepAsk (h : w.IsClosed) (on : a.stage.isOver = false) :
    ∃ stage : Ask.Stage, (w.stepAsk n a).asks = w.asks.set n { a with stage } ∧
      stage.left < a.stage.left := by
  unfold stepAsk
  cases stage : a.stage with
  | numbered => exact ⟨.ended .closed, by simp [h.shut, finish, putStage], by simp [Ask.Stage.left]⟩
  | listed =>
    dsimp only
    split
    · exact ⟨.sent, rfl, by simp [Ask.Stage.left]⟩
    · exact ⟨.ended .closed, rfl, by simp [Ask.Stage.left]⟩
  | sent =>
    dsimp only
    split
    · exact ⟨.ended (.answered _), rfl, by simp [Ask.Stage.left]⟩
    · exact ⟨.ended .closed, by simp [h.empty, finish, putStage], by simp [Ask.Stage.left]⟩
  | leaving => exact ⟨.ended .cancelled, rfl, by simp [Ask.Stage.left]⟩
  | ended | dropped => simp [stage, Ask.Stage.isOver] at on

theorem left_run (h : w.IsClosed) (there : w.asks[n]? = some a) (moves : List Move) :
    ∃ b, (w.run moves).asks[n]? = some b ∧ b.stage.left ≤ a.stage.left := by
  have kept : (w.run moves).IsClosed ∧
      ∃ b, (w.run moves).asks[n]? = some b ∧ b.stage.left ≤ a.stage.left := by
    refine run_induction (P := fun v => v.IsClosed ∧
      ∃ b, v.asks[n]? = some b ∧ b.stage.left ≤ a.stage.left) (fun v next kept => ?_)
      ⟨h, a, there, Nat.le_refl _⟩ moves
    obtain ⟨closed, b, there, le⟩ := kept
    obtain ⟨c, there', -, -, le'⟩ := closed.left_asks there next
    exact ⟨closed.move next, c, there', Nat.le_trans le' le⟩
  exact kept.2

theorem left_step (h : w.IsClosed) (there : w.asks[n]? = some a) :
    ∃ b, (w.move (.step n)).asks[n]? = some b ∧ b.id = a.id ∧ b.method = a.method ∧
      b.stage.left ≤ a.stage.left - 1 := by
  cases done : a.stage.isOver with
  | true =>
    obtain ⟨b, there', same, method, le⟩ := h.left_asks there (.step n)
    have none := Ask.Stage.left_of_isOver done
    exact ⟨b, there', same, method, by omega⟩
  | false =>
    obtain ⟨stage, asks, less⟩ := h.asks_stepAsk (n := n) done
    have inside := (List.getElem?_eq_some_iff.1 there).1
    refine ⟨{ a with stage }, ?_, rfl, rfl, Nat.le_sub_one_of_lt less⟩
    simp only [Exchange.move, there, asks, List.getElem?_set_self inside]

/-- A refused request leaves the connection as it is. -/
theorem connection_stepAsk (h : w.IsClosed) (refused : a.stage.isRefused) :
    (w.stepAsk n a).connection = w.connection := by
  unfold stepAsk
  cases stage : a.stage with
  | numbered => simp [h.shut, finish, putStage]
  | ended | dropped => rfl
  | _ => simp [stage, Ask.Stage.isRefused] at refused

/-- What a request that waits for a response ends with. -/
theorem ends_of_sent (h : w.IsClosed) (there : w.asks[n]? = some a) (sent : a.stage = .sent) :
    ∃ outcome, (w.move (.step n)).ends = w.ends ++ [(n, outcome)] := by
  simp only [Exchange.move, there, stepAsk, sent, h.empty]
  split
  · exact ⟨.answered _, rfl⟩
  · exact ⟨.closed, rfl⟩

end IsClosed

/-- The request was in the table when it was closed. -/
structure IsStranded (w : Exchange) (n : Nat) (a : Ask) : Prop where
  closed : w.IsClosed
  there : w.asks[n]? = some a
  silent : w.connection.arrived.lookup a.id = none
  unanswered : ∀ body, a.stage ≠ .ended (.answered body)

/-- A number that is in the table has had no response, so none will reach its request once the table
is closed. -/
theorem Sound.isStranded {moves : List Move} (h : w.Sound moves) (there : w.asks[n]? = some a)
    (waits : a.id ∈ w.connection.waiting) : (w.move .shut).IsStranded n a := by
  obtain ⟨quiet, silent⟩ := h.unanswered (.inl waits)
  refine ⟨⟨rfl, rfl⟩, there, silent, fun body ended => ?_⟩
  obtain ⟨past, message, later, split, response, listed, -⟩ := h.answered there ended
  exact quiet past message later body split response listed

theorem IsStranded.move (h : w.IsStranded n a) (next : Move) :
    ∃ b, (w.move next).IsStranded n b ∧ b.id = a.id ∧ b.method = a.method := by
  obtain ⟨b, there, same, method, on⟩ := (progress_move w next).asks h.there
  refine ⟨b, ⟨h.closed.move next, there, ?_, fun body ended => ?_⟩, same, method⟩
  · rw [same]
    exact h.closed.lookup_move h.silent next
  · rcases on with stays | advance
    · exact h.unanswered body (stays ▸ ended)
    · rw [ended] at advance
      cases advance with
      | answered _ found => simp [h.silent] at found

theorem IsStranded.run (h : w.IsStranded n a) (moves : List Move) :
    ∃ b, (w.run moves).IsStranded n b ∧ b.id = a.id ∧ b.method = a.method := by
  refine run_induction (P := fun v => ∃ b, v.IsStranded n b ∧ b.id = a.id ∧ b.method = a.method)
    (fun v next kept => ?_) ⟨a, h, rfl, rfl⟩ moves
  obtain ⟨b, stranded, same, method⟩ := kept
  obtain ⟨c, stranded', same', method'⟩ := stranded.move next
  exact ⟨c, stranded', same'.trans same, method'.trans method⟩

/-- How a stranded request ends, if it does. -/
theorem IsStranded.result (h : w.IsStranded n a) {outcome : Outcome}
    (ended : a.stage = .ended outcome) :
    outcome.result a.method = .error .connectionClosed ∨
      outcome.result a.method = .error (givenUp a.method) := by
  cases outcome with
  | answered body => exact absurd ended (h.unanswered body)
  | closed => exact .inl rfl
  | cancelled => exact .inr rfl

/-- The request comes, or came, too late. -/
structure IsLate (w : Exchange) (n : Nat) : Prop where
  closed : w.IsClosed
  refused : ∀ a, w.asks[n]? = some a → a.stage.isRefused

theorem IsLate.move (h : w.IsLate n) (next : Move) : (w.move next).IsLate n := by
  refine ⟨h.closed.move next, fun b there' => ?_⟩
  have progress := progress_move w next
  cases there : w.asks[n]? with
  | none => simp [progress.new there there', Ask.Stage.isRefused]
  | some a =>
    obtain ⟨c, here, -, -, on⟩ := progress.asks there
    obtain rfl := Option.some.inj (here.symm.trans there')
    rcases on with stays | advance
    · rw [stays]
      exact h.refused a there
    · exact h.closed.isRefused advance (h.refused a there)

theorem IsLate.run (h : w.IsLate n) (moves : List Move) : (w.run moves).IsLate n :=
  run_induction (P := fun v => v.IsLate n) (fun _ next h => h.move next) h moves

/-- A late request queues nothing. -/
theorem IsLate.connection_step (h : w.IsLate n) :
    (w.move (.step n)).connection = w.connection := by
  cases there : w.asks[n]? with
  | none => simp only [Exchange.move, there]
  | some a =>
    simp only [Exchange.move, there]
    exact h.closed.connection_stepAsk (h.refused a there)

end Exchange

/-- The requests on a connection, and the stream that its reader reads. -/
structure Reception where
  exchange : Exchange := {}
  /-- What the server has written and was not read yet. -/
  input : List UInt8 := []
  /-- Will the server write no more? -/
  inputEnded : Bool := false

inductive Reception.Move
  /-- Something happens to the requests or the connection. -/
  | exchange (move : Exchange.Move)
  /-- The server writes. -/
  | feed (bytes : List UInt8)
  /-- The server closes its output. -/
  | endOutput
  /-- The reader takes in what comes next. -/
  | read

namespace Reception

variable {r : Reception} {n : Nat} {a : Ask}

def wire (r : Reception) : Wire :=
  { connection := r.exchange.connection, input := r.input, inputEnded := r.inputEnded }

def setWire (r : Reception) (w : Wire) : Reception :=
  { exchange := { r.exchange with connection := w.connection }
    input := w.input
    inputEnded := w.inputEnded }

def move (r : Reception) : Move → Reception
  | .exchange move => { r with exchange := r.exchange.move move }
  | .feed bytes => r.setWire (r.wire.feed bytes)
  | .endOutput => { r with inputEnded := true }
  | .read => if r.wire.hasInput then r.setWire r.wire.read.1 else r

def run (r : Reception) (moves : List Move) : Reception := moves.foldl move r

def isShut (r : Reception) : Bool := r.exchange.connection.isShut

/-- Has the server's output come to its end, clean or not? -/
def IsAtEnd (r : Reception) : Prop :=
  Frame.arrival r.inputEnded r.input = .ended ∨
    ∃ cause, Frame.arrival r.inputEnded r.input = .fault cause

/-- Is it the turn of the request? -/
def Move.isTurnOf (n : Nat) : Move → Bool
  | .exchange (.step m) => m = n
  | _ => false

/-- The turns of a request in which it does not wait for room in the queue. -/
def turns (n : Nat) : Reception → List Move → Nat
  | _, [] => 0
  | r, next :: later =>
    (if next.isTurnOf n && ! r.exchange.isHeld n then 1 else 0) + turns n (r.move next) later

/-- The reader takes in a message or nothing, or closes the table at the end of the stream. -/
inductive Reading (r r' : Reception) : Prop
  | nothing (on : ¬ (r.exchange.connection.reads = true ∧ r.IsAtEnd)) (same : r'.exchange = r.exchange)
  | message (message : Json) (on : ¬ (r.exchange.connection.reads = true ∧ r.IsAtEnd))
      (hears : r'.exchange = r.exchange.move (.hear message))
  | ending (reads : r.exchange.connection.reads = true) (atEnd : r.IsAtEnd)
      (closes : r'.exchange = (r.exchange.move .shut).move .stopReading)

theorem reading_read (r : Reception) : Reading r (r.move .read) := by
  cases reads : r.exchange.connection.reads with
  | false =>
    refine .nothing (by simp [reads]) ?_
    simp [move, Wire.hasInput, wire, reads]
  | true =>
    cases arrives : Frame.arrival r.inputEnded r.input with
    | partly =>
      refine .nothing (by simp [IsAtEnd, arrives]) ?_
      simp [move, Wire.hasInput, wire, arrives]
    | message v rest =>
      refine .message v (by simp [IsAtEnd, arrives]) ?_
      simp [move, Wire.hasInput, Wire.read, wire, setWire, reads, arrives, Exchange.move]
    | ended =>
      refine .ending reads (.inl arrives) ?_
      simp [move, Wire.hasInput, Wire.read, wire, setWire, reads, arrives, Exchange.move, endInput]
    | fault cause =>
      refine .ending reads (.inr ⟨cause, arrives⟩) ?_
      simp [move, Wire.hasInput, Wire.read, wire, setWire, reads, arrives, Exchange.move, endInput]

theorem exchange_feed (r : Reception) (bytes : List UInt8) :
    (r.move (.feed bytes)).exchange = r.exchange := by
  cases ended : r.inputEnded <;> simp [move, Wire.feed, wire, setWire, ended]

/-- Whatever happens on the stream, it happens to the requests as moves of theirs. -/
theorem exists_moves (r : Reception) (next : Move) :
    ∃ moves, (r.move next).exchange = r.exchange.run moves := by
  cases next with
  | exchange move => exact ⟨[move], rfl⟩
  | feed bytes => exact ⟨[], r.exchange_feed bytes⟩
  | endOutput => exact ⟨[], rfl⟩
  | read =>
    cases reading_read r with
    | nothing _ same => exact ⟨[], same⟩
    | message message _ hears => exact ⟨[.hear message], hears⟩
    | ending _ _ closes => exact ⟨[.shut, .stopReading], closes⟩

theorem exists_run (r : Reception) (moves : List Move) :
    ∃ done, (r.run moves).exchange = r.exchange.run done := by
  induction moves generalizing r with
  | nil => exact ⟨[], rfl⟩
  | cons next later ih =>
    obtain ⟨first, here⟩ := r.exists_moves next
    obtain ⟨done, there⟩ := ih (r.move next)
    refine ⟨first ++ done, ?_⟩
    rw [Exchange.run, List.foldl_append, ← Exchange.run, ← Exchange.run, ← here]
    exact there

/-- The table is closed when it is told so, and when the reader meets the end of the stream. -/
theorem isShut_move_iff (r : Reception) (next : Move) :
    (r.move next).isShut ↔ r.isShut ∨ next = .exchange .shut ∨
      (next = .read ∧ r.exchange.connection.reads ∧ r.IsAtEnd) := by
  simp only [isShut]
  cases next with
  | exchange move => simpa [Reception.move] using r.exchange.isShut_move_iff move
  | feed bytes => simp [r.exchange_feed bytes]
  | endOutput => simp [move]
  | read =>
    cases reading_read r with
    | nothing on same => simp [same, on]
    | message message on hears => simp [hears, on, Exchange.isShut_move_iff]
    | ending reads atEnd closes => simp [closes, reads, atEnd, Exchange.isShut_move_iff]

theorem isClosed_run (h : r.exchange.IsClosed) (moves : List Move) :
    (r.run moves).exchange.IsClosed := by
  obtain ⟨done, same⟩ := r.exists_run moves
  exact same ▸ h.run done

theorem left_move (h : r.exchange.IsClosed) (there : r.exchange.asks[n]? = some a) (next : Move) :
    ∃ b, (r.move next).exchange.asks[n]? = some b ∧
      b.stage.left ≤ a.stage.left - if next.isTurnOf n then 1 else 0 := by
  cases turn : next.isTurnOf n with
  | false =>
    obtain ⟨moves, same⟩ := r.exists_moves next
    rw [same]
    exact h.left_run there moves
  | true =>
    obtain rfl : next = .exchange (.step n) := by
      rcases next with ⟨_ | _⟩ | _ <;> simp_all [Move.isTurnOf]
    obtain ⟨b, there', -, -, less⟩ := h.left_step there
    exact ⟨b, there', less⟩

/-- With every turn that it gets a request comes nearer to its end. -/
theorem left_run (h : r.exchange.IsClosed) (there : r.exchange.asks[n]? = some a)
    (moves : List Move) : ∃ b, (r.run moves).exchange.asks[n]? = some b ∧
      b.stage.left ≤ a.stage.left - r.turns n moves := by
  induction moves generalizing r a with
  | nil => exact ⟨a, there, by simp [turns]⟩
  | cons next later ih =>
    obtain ⟨b, there', less⟩ := left_move h there next
    have closed : (r.move next).exchange.IsClosed := isClosed_run h [next]
    obtain ⟨c, there'', less'⟩ := ih closed there'
    refine ⟨c, there'', ?_⟩
    have counted : (if (next.isTurnOf n && ! r.exchange.isHeld n) = true then 1 else 0) ≤
        if next.isTurnOf n = true then 1 else 0 := by
      cases next.isTurnOf n <;> cases r.exchange.isHeld n <;> simp
    simp only [turns]
    omega

theorem isOver_of_turns (h : r.exchange.IsClosed) (there : r.exchange.asks[n]? = some a)
    {moves : List Move} (enough : 2 ≤ r.turns n moves) :
    ∃ b, (r.run moves).exchange.asks[n]? = some b ∧ b.stage.isOver := by
  obtain ⟨b, there', less⟩ := left_run h there moves
  have most := a.stage.left_le
  exact ⟨b, there', Ask.Stage.isOver_of_left (by omega)⟩

/-- A request in the table is stranded when this is closed. -/
theorem exists_stranded {done : List Exchange.Move} (sound : r.exchange.Sound done)
    (there : r.exchange.asks[n]? = some a) (waits : a.id ∈ r.exchange.connection.waiting)
    {next : Move} (isOpen : r.isShut = false) (closes : (r.move next).isShut) (later : List Move) :
    ∃ b, ((r.move next).run later).exchange.IsStranded n b ∧ b.id = a.id ∧ b.method = a.method := by
  have stranded := sound.isStranded there waits
  obtain ⟨rest, same⟩ : ∃ rest, (r.move next).exchange = (r.exchange.move .shut).run rest := by
    rcases (r.isShut_move_iff next).1 closes with before | rfl | ⟨rfl, reads, atEnd⟩
    · simp [isOpen] at before
    · exact ⟨[], rfl⟩
    · cases reading_read r with
      | nothing on | message _ on => exact absurd ⟨reads, atEnd⟩ on
      | ending _ _ closes => exact ⟨[.stopReading], closes⟩
  obtain ⟨more, same'⟩ := (r.move next).exists_run later
  rw [same', same, Exchange.run, Exchange.run, ← List.foldl_append]
  exact stranded.run (rest ++ more)

end Reception

end LanguageBroker.Connection
