import LanguageBroker.Proofs.CancelledRequests
import LanguageBroker.Proofs.MessageGrammar

/-!
What a server asks and tells its broker. The reader leaves a request to a task of its own, which
queues the reply whenever the handler comes to an answer, and waits for the handler of a
notification. So every request is answered once, in whatever order the answers come; notifications
keep their order; and all but the replies is as if no answer ever came.
-/

namespace LanguageBroker.Frame

variable {bytes mid rest : List UInt8} {messages : List Json} {v : Json}

/-- The stream begins with these messages, one behind the other, and goes on with the rest. -/
inductive Gives : List UInt8 → List Json → List UInt8 → Prop
  | nil (bytes : List UInt8) : Gives bytes [] bytes
  | cons {bytes mid rest : List UInt8} {v : Json} {messages : List Json}
      (begins : Begins bytes v mid) (later : Gives mid messages rest) :
      Gives bytes (v :: messages) rest

namespace Gives

theorem append (h : Gives bytes messages rest) (more : List UInt8) :
    Gives (bytes ++ more) messages (rest ++ more) := by
  induction h with
  | nil bytes => exact .nil _
  | cons begins _ ih => exact .cons (begins.append more) ih

theorem concat (h : Gives bytes messages mid) (begins : Begins mid v rest) :
    Gives bytes (messages ++ [v]) rest := by
  induction h with
  | nil bytes => exact .cons begins (.nil rest)
  | cons first _ ih => exact .cons first (ih begins)

theorem go (h : Gives bytes messages rest) {fuel : Nat} (enough : bytes.length < fuel) :
    ∃ left, rest.length < left ∧ readAll.go fuel bytes =
      (messages ++ (readAll.go left rest).1, (readAll.go left rest).2) := by
  induction h generalizing fuel with
  | nil bytes => exact ⟨fuel, enough, rfl⟩
  | @cons bytes mid rest v messages begins _ ih =>
    have shorter := begins.length_lt
    obtain ⟨fuel, rfl⟩ := Nat.exists_eq_add_of_le' (Nat.zero_lt_of_lt enough)
    have less : mid.length < fuel := by omega
    obtain ⟨left, enough, same⟩ := ih less
    refine ⟨left, enough, ?_⟩
    rw [readAll.go, read_of_begins begins]
    simp only [same]
    rfl

/-- The messages are the first of all that the stream holds. -/
theorem messages_prefix (h : Gives bytes messages rest) : messages <+: (readAll bytes).1 := by
  obtain ⟨left, -, same⟩ := h.go (Nat.lt_succ_self _)
  rw [readAll, same]
  exact List.prefix_append ..

/-- They are all, when no other one follows. -/
theorem messages_eq (h : Gives bytes messages rest) (bare : ∀ v after, ¬ Begins rest v after) :
    messages = (readAll bytes).1 := by
  obtain ⟨left, enough, same⟩ := h.go (Nat.lt_succ_self _)
  obtain ⟨left, rfl⟩ := Nat.exists_eq_add_of_le' (Nat.zero_lt_of_lt enough)
  have none : (readAll.go (left + 1) rest).1 = [] := by
    rw [readAll.go]
    cases reads : read rest with
    | error cause => rfl
    | ok result =>
      rcases result with _ | ⟨v, after⟩
      · rfl
      · exact absurd (begins_of_read reads) (bare v after)
  rw [readAll, same, none, List.append_nil]

end Gives

end LanguageBroker.Frame

namespace LanguageBroker.Connection

/-- A request of the server's. -/
structure Question where
  id : Json
  method : String
  params : Json

/-- What the handler says to each request, by the request's place among all, its method and its
parameters. -/
abbrev Handler := Nat → String → Json → Except RpcError Json

/-- The parameters of a message. -/
def paramsOf (message : Json) : Json := (message.get? "params").getD .null

/-- The request that a message makes: it has a method and an id of any kind. -/
def question? (message : Json) : Option Question :=
  match message.get? "id", message.method? with
  | some id, some method => some { id, method, params := paramsOf message }
  | _, _ => none

/-- The notification that a message is: it has a method and no id. -/
def notification? (message : Json) : Option (String × Json) :=
  match message.get? "id", message.method? with
  | none, some method => some (method, paramsOf message)
  | _, _ => none

/-- Does the message answer a request? -/
def isReply (message : Json) : Bool := message.method?.isNone

/-- The message carries the id of the request and the answer, a result or an error. -/
def Replies (q : Question) (answer : Except RpcError Json) (message : Json) : Prop :=
  message.get? "id" = some q.id ∧
    match answer with
    | .ok result => message.get? "result" = some result ∧ message.get? "error" = none
    | .error e => message.get? "error" = some e.toJson ∧ message.get? "result" = none

theorem replies_replyMessage (q : Question) (answer : Except RpcError Json) :
    Replies q answer (replyMessage q.id answer) := by
  cases answer <;>
    simp [Replies, replyMessage, versionMember, Json.object, Json.lookup_insertMember, Json.get?]

/-- A connection and its handler. -/
structure Service where
  reception : Reception := {}
  /-- All that the server has written. -/
  output : List UInt8 := []
  /-- What the reader has taken in. -/
  heard : List Json := []
  questions : List Question := []
  /-- The requests that were answered, as their answers came. -/
  answered : List Nat := []
  /-- What the handler was told. -/
  notified : List (String × Json) := []
  /-- Does the handler still see to a notification? -/
  isBusy : Bool := false
  /-- What the server was handed. -/
  written : List Json := []

/-- What else goes on at the broker's end while the connection is not closed. -/
inductive Service.Chore
  | ask (method : String) (params : Json)
  | step (n : Nat)
  | giveUp (n : Nat)
  | drop (n : Nat)
  | notify (method : String) (params : Json)
  | write

def Service.Chore.move : Chore → Exchange.Move
  | .ask method params => .ask method params
  | .step n => .step n
  | .giveUp n => .giveUp n
  | .drop n => .drop n
  | .notify method params => .post (notificationMessage method params)
  | .write => .write

inductive Service.Move
  | chore (chore : Chore)
  /-- The server writes. -/
  | feed (bytes : List UInt8)
  /-- The server closes its output. -/
  | endOutput
  /-- The reader takes in what comes next. -/
  | read
  /-- The handler has seen to a notification. -/
  | endNotice
  /-- The handler has come to its answer to a request. -/
  | reply (k : Nat)

/-- Is it an answer of the handler's? -/
def Service.Move.isAnswer : Move → Bool
  | .reply _ => true
  | _ => false

namespace Service

variable {handler : Handler} {s t : Service} {k n : Nat} {q : Question} {v : Json}
variable {moves : List Move} {next : Move}

def exchange (s : Service) : Exchange := s.reception.exchange

/-- All that was queued, in the writer's order. -/
def line (s : Service) : List Json := s.written ++ s.exchange.connection.queue

def goOn (s : Service) (next : Exchange.Move) : Service :=
  { s with
    reception := s.reception.move (.exchange next)
    written := s.written ++ s.exchange.handed next }

/-- The handler gets what the reader has for it. -/
def hand (s : Service) : Option Incoming → Service
  | some (.request id method params) =>
    { s with questions := s.questions ++ [{ id, method, params }] }
  | some (.notification method params) =>
    { s with notified := s.notified ++ [(method, params)], isBusy := true }
  | _ => s

def move (handler : Handler) (s : Service) : Move → Service
  | .chore chore => s.goOn chore.move
  | .feed bytes =>
    { s with
      reception := s.reception.move (.feed bytes)
      output := if s.reception.inputEnded then s.output else s.output ++ bytes }
  | .endOutput => { s with reception := s.reception.move .endOutput }
  | .read =>
    if s.isBusy || !s.reception.wire.hasInput then s
    else
      { s with
        reception := s.reception.move .read
        heard := s.heard ++ s.reception.wire.reading }.hand s.reception.wire.read.2
  | .endNotice => { s with isBusy := false }
  | .reply k =>
    match s.questions[k]? with
    | some q =>
      if k ∈ s.answered then s
      else
        { s.goOn (.post (replyMessage q.id (handler k q.method q.params))) with
          answered := s.answered ++ [k] }
    | none => s

def run (handler : Handler) (s : Service) (moves : List Move) : Service :=
  moves.foldl (move handler) s

theorem run_concat (handler : Handler) (s : Service) (moves : List Move) (next : Move) :
    s.run handler (moves ++ [next]) = (s.run handler moves).move handler next := by
  simp [run]

/-! What the reader does. -/

theorem hand_receive (s : Service) (c : Connection) (v : Json) :
    s.hand (c.receive v).2 =
      { s with
        questions := s.questions ++ (question? v).toList
        notified := s.notified ++ (notification? v).toList
        isBusy := s.isBusy || (notification? v).isSome } := by
  simp only [receive, Incoming.ofJson?, question?, notification?, Json.method?, paramsOf]
  cases v.get? "id" with
  | none => cases (v.get? "method").bind Json.text? <;> simp [hand]
  | some id =>
    cases (v.get? "method").bind Json.text? with
    | some method => simp [hand]
    | none =>
      cases id with
      | int m => cases code : RpcError.isCode m <;> simp [code, hand]
      | _ => simp [hand]

/-- A message is taken in, and the handler gets what is for it. -/
def takeIn (s : Service) (v : Json) (rest : List UInt8) : Service :=
  { s with
    reception := { s.reception with exchange := s.exchange.move (.hear v), input := rest }
    heard := s.heard ++ [v]
    questions := s.questions ++ (question? v).toList
    notified := s.notified ++ (notification? v).toList
    isBusy := (notification? v).isSome }

/-- The reader has come to the end of the stream. -/
def endInput (s : Service) : Service :=
  { s with
    reception := { s.reception with exchange := (s.exchange.move .shut).move .stopReading } }

theorem read_waits (handler : Handler)
    (on : s.isBusy = true ∨ s.reception.wire.hasInput = false) : s.move handler .read = s := by
  rcases on with busy | input
  · simp [move, busy]
  · simp [move, input]

theorem read_goes (handler : Handler) (free : s.isBusy = false)
    (input : s.reception.wire.hasInput = true) :
    s.move handler .read =
      { s with
        reception := s.reception.setWire s.reception.wire.read.1
        heard := s.heard ++ s.reception.wire.reading }.hand s.reception.wire.read.2 := by
  simp [move, Reception.move, free, input]

/-- A reader that does not wait for the handler of a notification takes the next message in. -/
theorem read_message (handler : Handler) {rest : List UInt8} (free : s.isBusy = false)
    (reads : s.exchange.connection.reads = true) (begins : Frame.Begins s.reception.input v rest) :
    s.move handler .read = s.takeIn v rest := by
  have reads' : s.reception.exchange.connection.reads = true := reads
  have arrives := (Frame.arrival_eq_message_iff s.reception.inputEnded).2 begins
  have input : s.reception.wire.hasInput = true := by
    simp [Wire.hasInput, Reception.wire, arrives, reads']
  have next : s.reception.wire.read.2 = (s.exchange.connection.receive v).2 := by
    simp [Wire.read, Reception.wire, exchange, arrives]
  rw [read_goes handler free input, next, hand_receive]
  simp [takeIn, Wire.reading, Wire.read, Reception.wire, Reception.setWire, exchange,
    Exchange.move, arrives, free]

theorem read_ending (handler : Handler) (free : s.isBusy = false)
    (input : s.reception.wire.hasInput = true)
    (bare : ∀ v rest, ¬ Frame.Begins s.reception.input v rest) :
    s.move handler .read = s.endInput := by
  rw [read_goes handler free input]
  cases arrives : Frame.arrival s.reception.inputEnded s.reception.input with
  | partly => simp [Wire.hasInput, Reception.wire, arrives] at input
  | message v rest => exact absurd ((Frame.arrival_eq_message_iff _).1 arrives) (bare v rest)
  | ended | fault cause =>
    simp [endInput, Wire.reading, Wire.read, Reception.wire, Reception.setWire, exchange,
      Exchange.move, arrives, hand, Connection.endInput]

/-- The reader waits, takes a message in, or comes to the end of the stream. -/
inductive Reading (s s' : Service) : Prop
  | waits (on : s.isBusy = true ∨ s.reception.wire.hasInput = false) (same : s' = s)
  | message (v : Json) (rest : List UInt8) (free : s.isBusy = false)
      (reads : s.exchange.connection.reads = true) (begins : Frame.Begins s.reception.input v rest)
      (same : s' = s.takeIn v rest)
  | ending (free : s.isBusy = false) (input : s.reception.wire.hasInput = true)
      (bare : ∀ v rest, ¬ Frame.Begins s.reception.input v rest) (same : s' = s.endInput)

theorem reading_read (handler : Handler) (s : Service) : Reading s (s.move handler .read) := by
  cases free : s.isBusy with
  | true => exact .waits (.inl free) (read_waits handler (.inl free))
  | false =>
    cases input : s.reception.wire.hasInput with
    | false => exact .waits (.inr input) (read_waits handler (.inr input))
    | true =>
      by_cases next : ∃ v rest, Frame.Begins s.reception.input v rest
      · obtain ⟨v, rest, begins⟩ := next
        have reads : s.exchange.connection.reads = true := (Bool.and_eq_true_iff.1 input).1
        exact .message v rest free reads begins (read_message handler free reads begins)
      · have bare (v : Json) (rest : List UInt8) (begins : Frame.Begins s.reception.input v rest) :
            False := next ⟨v, rest, begins⟩
        exact .ending free input bare (read_ending handler free input bare)

/-- At the end of the stream no more than a part of a message is left, nor will there be more. -/
theorem not_begins_of_part {more rest : List UInt8} (input : s.reception.wire.hasInput = true)
    (bare : ∀ v rest, ¬ Frame.Begins s.reception.input v rest)
    (ended : s.reception.inputEnded = true → more = []) :
    ¬ Frame.Begins (s.reception.input ++ more) v rest := by
  intro begins
  cases stays : s.reception.inputEnded with
  | true => exact bare v rest (by simpa [ended stays] using begins)
  | false =>
    rcases Frame.arrival_of_part begins with waits | ⟨left, also⟩
    · simp [Wire.hasInput, Reception.wire, stays, waits] at input
    · exact bare v left also

theorem reads_receive (c : Connection) (message : Json) :
    (c.receive message).1.reads = c.reads := by
  unfold receive
  split
  · simp only [deliver]
    split <;> rfl
  · rfl

/-! What is queued. -/

theorem queue_stepAsk (w : Exchange) (a : Ask) (writes : w.connection.writes = true) :
    ∃ said, (w.stepAsk n a).connection.queue = w.connection.queue ++ said ∧
      said.filter isReply = [] := by
  have stepped := Exchange.stepped_stepAsk w n a
  generalize w.stepAsk n a = w' at *
  cases stepped with
  | sent =>
    exact ⟨[requestMessage a.id a.method a.params], by simp [post, writes], by simp [isReply]⟩
  | cancelled =>
    exact ⟨[cancelMessage a.id], by simp [Exchange.finish, Exchange.putStage, post, writes],
      by simp [isReply]⟩
  | _ => exact ⟨[], (List.append_nil _).symm, rfl⟩

/-- No chore stops the reader. -/
theorem reads_chore (w : Exchange) (chore : Chore) :
    (w.move chore.move).connection.reads = w.connection.reads := by
  cases chore with
  | ask method params => rfl
  | step n =>
    cases there : w.asks[n]? with
    | none => simp [Chore.move, Exchange.move, there]
    | some a =>
      simp only [Chore.move, Exchange.move, there]
      exact (Exchange.streams_stepAsk w n a).1
  | giveUp n | drop n =>
    cases there : w.asks[n]? with
    | none => simp [Chore.move, Exchange.move, there]
    | some a =>
      simp only [Chore.move, Exchange.move, there]
      split <;> rfl
  | notify method params => exact Exchange.reads_post ..
  | write => cases queue : w.connection.queue <;> simp [Chore.move, Exchange.move, next?, queue]

/-- No chore stops the writer, and what a chore queues has a method. -/
theorem queue_chore (w : Exchange) (writes : w.connection.writes = true) (chore : Chore) :
    (w.move chore.move).connection.writes = true ∧
      ∃ said, w.handed chore.move ++ (w.move chore.move).connection.queue =
        w.connection.queue ++ said ∧ said.filter isReply = [] := by
  have nothing (same : (w.move chore.move).connection = w.connection)
      (handed : w.handed chore.move = []) :
      (w.move chore.move).connection.writes = true ∧
        ∃ said, w.handed chore.move ++ (w.move chore.move).connection.queue =
          w.connection.queue ++ said ∧ said.filter isReply = [] := by
    rw [same, handed]
    exact ⟨writes, [], by simp, rfl⟩
  cases chore with
  | ask method params =>
    exact ⟨writes, [], by simp [Exchange.handed, Chore.move, Exchange.move], rfl⟩
  | step n =>
    cases there : w.asks[n]? with
    | none => exact nothing (by simp [Chore.move, Exchange.move, there]) rfl
    | some a =>
      simp only [Chore.move, Exchange.move, there]
      exact ⟨(Exchange.streams_stepAsk w n a).2.trans writes, queue_stepAsk w a writes⟩
  | giveUp n | drop n =>
    cases there : w.asks[n]? with
    | none => exact nothing (by simp [Chore.move, Exchange.move, there]) rfl
    | some a =>
      simp only [Chore.move, Exchange.move, there]
      split <;>
        exact ⟨writes, [], by simp [Exchange.handed, Exchange.putStage, Exchange.unlist], rfl⟩
  | notify method params =>
    refine ⟨by simp [Chore.move, Exchange.move, writes], [notificationMessage method params], ?_,
      by simp [isReply]⟩
    simp [Exchange.handed, Chore.move, Exchange.move, post, writes]
  | write =>
    rcases queue : w.connection.queue with _ | ⟨message, later⟩
    · exact queue ▸ nothing (by simp [Chore.move, Exchange.move, next?, queue])
        (by simp [Exchange.handed, Chore.move, queue])
    · exact ⟨by simp [Chore.move, Exchange.move, next?, queue, writes], [],
        by simp [Exchange.handed, Chore.move, Exchange.move, next?, queue], rfl⟩

theorem line_goOn_post (s : Service) (writes : s.exchange.connection.writes = true)
    (message : Json) : (s.goOn (.post message)).line = s.line ++ [message] := by
  simp only [exchange] at writes
  simp [line, goOn, exchange, Reception.move, Exchange.move, Exchange.handed, post, writes]

/-- The reply to a request. -/
def reply? (handler : Handler) (questions : List Question) (k : Nat) : Option Json :=
  questions[k]?.map fun q => replyMessage q.id (handler k q.method q.params)

theorem filterMap_reply? {questions : List Question} {answered : List Nat}
    (known : ∀ k ∈ answered, k < questions.length) (more : List Question) :
    answered.filterMap (reply? handler (questions ++ more)) =
      answered.filterMap (reply? handler questions) :=
  List.filterMap_congr fun k there => by
    rw [reply?, reply?, List.getElem?_append_left (known k there)]

/-- What was heard explains what the handler got, and what it answered explains the replies. -/
structure Sound (handler : Handler) (s : Service) : Prop where
  gives : Frame.Gives s.output s.heard s.reception.input
  /-- A reader that has stopped left no message behind, nor will there be one. -/
  finished : s.exchange.connection.reads = false → ∀ more v rest,
    (s.reception.inputEnded = true → more = []) → ¬ Frame.Begins (s.reception.input ++ more) v rest
  questions : s.questions = s.heard.filterMap question?
  notified : s.notified = s.heard.filterMap notification?
  writes : s.exchange.connection.writes = true
  once : s.answered.Nodup
  known : ∀ k ∈ s.answered, k < s.questions.length
  replies : s.line.filter isReply = s.answered.filterMap (reply? handler s.questions)

namespace Sound

theorem chore (h : s.Sound handler) (chore : Chore) :
    (s.move handler (.chore chore)).Sound handler := by
  obtain ⟨writes, said, queue, quiet⟩ := queue_chore s.exchange h.writes chore
  have line : (s.move handler (.chore chore)).line = s.line ++ said := by
    simp only [line, List.append_assoc, ← queue]
    exact List.append_assoc ..
  have replies := h.replies
  rw [← List.append_nil (s.line.filter isReply), ← quiet, ← List.filter_append, ← line] at replies
  exact { h with
    finished := fun stopped => h.finished ((reads_chore s.exchange chore).symm.trans stopped)
    writes
    replies }

theorem feed (h : s.Sound handler) (bytes : List UInt8) :
    (s.move handler (.feed bytes)).Sound handler := by
  have exchange : (s.move handler (.feed bytes)).exchange = s.exchange :=
    s.reception.exchange_feed bytes
  have line : (s.move handler (.feed bytes)).line = s.line := by
    rw [Service.line, exchange]
    rfl
  cases ended : s.reception.inputEnded with
  | true =>
    have ended' : s.reception.wire.inputEnded = true := ended
    have stays : s.reception.move (.feed bytes) = s.reception := by
      rw [Reception.move, Wire.feed, if_pos ended']
      rfl
    have same : s.move handler (.feed bytes) = s := by
      simp only [Service.move, stays, ended, if_true]
    rwa [same]
  | false =>
    have input : (s.move handler (.feed bytes)).reception.input = s.reception.input ++ bytes := by
      simp [Service.move, Reception.move, Wire.feed, Reception.wire, Reception.setWire, ended]
    have output : (s.move handler (.feed bytes)).output = s.output ++ bytes := by
      simp [Service.move, ended]
    refine { h with
      gives := ?_
      finished := fun stopped more v rest _ => ?_
      writes := exchange ▸ h.writes
      replies := line ▸ h.replies }
    · rw [input, output]
      exact h.gives.append bytes
    · rw [input, List.append_assoc]
      exact h.finished (exchange ▸ stopped) (bytes ++ more) v rest (by simp [ended])

theorem takeIn (h : s.Sound handler) {rest : List UInt8}
    (reads : s.exchange.connection.reads = true) (begins : Frame.Begins s.reception.input v rest) :
    (s.takeIn v rest).Sound handler where
  gives := h.gives.concat begins
  finished stopped := by
    have still : (s.exchange.connection.receive v).1.reads = s.exchange.connection.reads :=
      reads_receive ..
    exact absurd (reads.symm.trans (still.symm.trans stopped)) (by simp)
  questions := by
    rw [Service.takeIn, List.filterMap_append, ← h.questions]
    rfl
  notified := by
    rw [Service.takeIn, List.filterMap_append, ← h.notified]
    rfl
  writes := (utters_receive s.exchange.connection v).writes.trans h.writes
  once := h.once
  known k there := by
    rw [Service.takeIn, List.length_append]
    exact Nat.lt_add_right _ (h.known k there)
  replies := by
    have line : (s.takeIn v rest).line = s.line := by
      have queue : (s.exchange.connection.receive v).1.queue = s.exchange.connection.queue := by
        rw [(utters_receive s.exchange.connection v).queue, List.append_nil]
      simp only [line, ← queue]
      rfl
    rw [line, h.replies]
    exact (filterMap_reply? h.known _).symm

theorem read (h : s.Sound handler) : (s.move handler .read).Sound handler := by
  cases reading_read handler s with
  | waits _ same => rwa [same]
  | message v rest _ reads begins same =>
    rw [same]
    exact h.takeIn reads begins
  | ending _ input bare same =>
    rw [same]
    exact { h with finished := fun _ more v rest => not_begins_of_part (s := s) input bare }

theorem reply (h : s.Sound handler) (k : Nat) : (s.move handler (.reply k)).Sound handler := by
  cases there : s.questions[k]? with
  | none => simpa only [move, there] using h
  | some q =>
    by_cases old : k ∈ s.answered
    · simpa only [move, there, old, if_true] using h
    · have new : ∀ j ∈ s.answered, j ≠ k := fun j here same => old (same ▸ here)
      have inside := (List.getElem?_eq_some_iff.1 there).1
      have writes : s.exchange.connection.writes = true := h.writes
      simp only [move, there, old, if_false]
      refine { h with
        finished := fun stopped => h.finished ((Exchange.reads_post ..).symm.trans stopped)
        writes := (Exchange.writes_post ..).trans writes
        once := List.nodup_append.2 ⟨h.once, by simp, by simpa using new⟩
        known := fun j here => ?_
        replies := ?_ }
      · rcases List.mem_append.1 here with before | now
        · exact h.known j before
        · exact List.mem_singleton.1 now ▸ inside
      · let message := replyMessage q.id (handler k q.method q.params)
        have is : isReply message = true := by simp [isReply, message]
        calc (s.goOn (.post message)).line.filter isReply
          _ = s.line.filter isReply ++ [message] := by
            rw [line_goOn_post s writes, List.filter_append, List.filter_cons_of_pos is,
              List.filter_nil]
          _ = (s.answered ++ [k]).filterMap (reply? handler s.questions) := by
            rw [h.replies, List.filterMap_append]
            simp [reply?, there, message]

theorem move (h : s.Sound handler) (next : Move) : (s.move handler next).Sound handler := by
  cases next with
  | chore chore => exact h.chore chore
  | feed bytes => exact h.feed bytes
  | endOutput =>
    refine { h with finished := fun stopped more v rest ended => ?_ }
    obtain rfl := ended rfl
    exact h.finished stopped [] v rest fun _ => rfl
  | endNotice => exact { h with }
  | read => exact h.read
  | reply k => exact h.reply k

end Sound

theorem sound_run (handler : Handler) (moves : List Move) :
    (run handler {} moves).Sound handler := by
  induction moves using List.reverseRecOn with
  | nil =>
    exact ⟨.nil [], by simp [run, exchange], rfl, rfl, rfl, List.nodup_nil, by simp [run], rfl⟩
  | append_singleton moves next ih =>
    rw [run_concat]
    exact ih.move next

/-- When all requests were answered, the replies are one to each of them, in the order of the
answers. -/
theorem Sound.perm_range (h : s.Sound handler) (all : ∀ k < s.questions.length, k ∈ s.answered) :
    s.answered.Perm (List.range s.questions.length) :=
  (List.perm_ext_iff_of_nodup h.once List.nodup_range).2 fun k =>
    ⟨fun there => List.mem_range.2 (h.known k there), fun inside => all k (List.mem_range.1 inside)⟩

/-- The handler's answer to a request is queued at once. -/
theorem Sound.line_reply (h : s.Sound handler) (there : s.questions[k]? = some q)
    (new : k ∉ s.answered) :
    (s.move handler (.reply k)).answered = s.answered ++ [k] ∧
      (s.move handler (.reply k)).line =
        s.line ++ [replyMessage q.id (handler k q.method q.params)] := by
  simp only [Service.move, there, new, if_false, true_and]
  exact line_goOn_post s h.writes _

/-! All but the replies, as if no answer came. -/

end Service

namespace Exchange

/-- The requests, with what is queued left out. -/
def mute (w : Exchange) : Exchange := { w with connection := { w.connection with queue := [] } }

theorem mute_post (c : Connection) (message : Json) :
    { c.post message with queue := [] } = { c with queue := [] } := by
  cases writes : c.writes <;> simp [post, writes]

theorem mute_receive (c : Connection) (message : Json) :
    { (c.receive message).1 with queue := [] } =
      ({ c with queue := [] }.receive message).1 := by
  unfold receive
  split
  · simp only [deliver]
    split <;> rfl
  · rfl

theorem mute_stepAsk (w : Exchange) (n : Nat) (a : Ask) :
    (w.stepAsk n a).mute = (w.mute.stepAsk n a).mute := by
  unfold stepAsk
  cases a.stage with
  | numbered => cases shut : w.connection.isShut <;> simp [shut, mute, finish, putStage]
  | listed => cases writes : w.connection.writes <;>
      simp [writes, mute, finish, putStage, unlist, post]
  | sent =>
    cases found : w.connection.arrived.lookup a.id with
    | some body => simp [found, mute, finish, putStage, take]
    | none =>
      by_cases waits : a.id ∈ w.connection.waiting <;>
        simp [found, waits, mute, finish, putStage]
  | leaving => cases writes : w.connection.writes <;> simp [writes, mute, finish, putStage, post]
  | ended | dropped => rfl

/-- What is queued decides nothing. -/
theorem mute_move (w : Exchange) (next : Move) : (w.move next).mute = (w.mute.move next).mute := by
  have asks : w.mute.asks = w.asks := rfl
  cases next with
  | ask | shut | stopReading | stopWriting => rfl
  | step n =>
    cases there : w.asks[n]? with
    | none => simp only [move, asks, there]; rfl
    | some a => simpa only [move, asks, there] using w.mute_stepAsk n a
  | giveUp n | drop n =>
    cases there : w.asks[n]? with
    | none => simp only [move, asks, there]; rfl
    | some a =>
      simp only [move, asks, there]
      split <;> rfl
  | hear message => simp only [move, mute, ← mute_receive]
  | post message => simp only [move, mute, mute_post]
  | write => cases queue : w.connection.queue <;> simp [move, mute, next?, queue]

end Exchange

namespace Service

variable {handler : Handler} {s t : Service} {moves : List Move} {next : Move}

/-- All but what answers change: which requests were answered, what is queued for the server and
what it was handed. -/
def mute (s : Service) : Service :=
  { s with
    reception := { s.reception with exchange := s.exchange.mute }
    answered := []
    written := [] }

theorem mute_reply (handler : Handler) (s : Service) (k : Nat) :
    (s.move handler (.reply k)).mute = s.mute := by
  cases there : s.questions[k]? with
  | none => simp only [move, there]
  | some q =>
    by_cases old : k ∈ s.answered
    · simp only [move, there, old, if_true]
    · simp only [move, there, old, if_false, mute, goOn, Reception.move, exchange, Exchange.mute,
        Exchange.move, Exchange.mute_post]

/-- The next move is the same whatever was answered. -/
theorem mute_move (handler other : Handler) (s : Service) (no : next.isAnswer = false) :
    (s.move handler next).mute = (s.mute.move other next).mute := by
  cases next with
  | chore chore =>
    have same := Exchange.mute_move s.reception.exchange chore.move
    simp only [move, goOn, mute, exchange, Reception.move, same]
  | feed bytes =>
    cases ended : s.reception.inputEnded <;>
      simp [move, mute, Reception.move, Reception.setWire, Reception.wire, Wire.feed, exchange,
        Exchange.mute, ended]
  | endOutput | endNotice => rfl
  | read =>
    cases reading_read handler s with
    | waits on same =>
      rw [same, read_waits (s := s.mute) other on]
      rfl
    | message v rest free reads begins same =>
      have hears := Exchange.mute_move s.reception.exchange (.hear v)
      rw [same, read_message (s := s.mute) other free reads begins]
      simp only [mute, takeIn, exchange, hears]
    | ending free input bare same =>
      rw [same, read_ending (s := s.mute) other free input bare]
      rfl
  | reply k => simp [Move.isAnswer] at no

/-- All but the replies is as if no answer ever came. -/
theorem mute_run (handler other : Handler) (same : s.mute = t.mute) (moves : List Move) :
    (s.run handler moves).mute = (t.run other (moves.filter fun next => !next.isAnswer)).mute := by
  induction moves generalizing s t with
  | nil => exact same
  | cons next later ih =>
    cases answer : next.isAnswer with
    | true =>
      -- an answer is left out on the other side
      rw [List.filter_cons_of_neg (by simp [answer])]
      cases next with
      | reply k => exact ih ((mute_reply handler s k).trans same)
      | _ => simp [Move.isAnswer] at answer
    | false =>
      rw [List.filter_cons_of_pos (by simp [answer])]
      refine ih ?_
      rw [mute_move handler other s answer, same, ← mute_move other other t answer]

/-- What happens to the requests happens to them on a connection. -/
theorem exists_moves (handler : Handler) (s : Service) (next : Move) :
    ∃ moves, (s.move handler next).exchange = s.exchange.run moves := by
  cases next with
  | chore chore => exact ⟨[chore.move], rfl⟩
  | feed bytes => exact ⟨[], s.reception.exchange_feed bytes⟩
  | endOutput | endNotice => exact ⟨[], rfl⟩
  | read =>
    cases reading_read handler s with
    | waits _ same => exact ⟨[], by rw [same]; rfl⟩
    | message v _ _ _ _ same => exact ⟨[.hear v], by rw [same]; rfl⟩
    | ending _ _ _ same => exact ⟨[.shut, .stopReading], by rw [same]; rfl⟩
  | reply k =>
    cases there : s.questions[k]? with
    | none => exact ⟨[], by simp only [move, there]; rfl⟩
    | some q =>
      by_cases old : k ∈ s.answered
      · exact ⟨[], by simp only [move, there, old, if_true]; rfl⟩
      · refine ⟨[.post (replyMessage q.id (handler k q.method q.params))], ?_⟩
        simp only [move, there, old, if_false]
        rfl

theorem exists_run (handler : Handler) (moves : List Move) :
    ∃ done, (run handler {} moves).exchange = Exchange.run {} done := by
  induction moves using List.reverseRecOn with
  | nil => exact ⟨[], rfl⟩
  | append_singleton moves next ih =>
    obtain ⟨done, same⟩ := ih
    obtain ⟨more, now⟩ := exists_moves handler (run handler {} moves) next
    refine ⟨done ++ more, ?_⟩
    rw [run_concat, now, same, Exchange.run, Exchange.run, ← List.foldl_append, Exchange.run]

/-- A response that the reader takes in ends the request that waits for it, whatever requests of
the server's are still open. -/
theorem ends_of_response (handler : Handler) (moves : List Move) {rest : List UInt8} {body : Json}
    {a : Ask} (free : (run handler {} moves).isBusy = false)
    (reads : (run handler {} moves).exchange.connection.reads = true)
    (begins : Frame.Begins (run handler {} moves).reception.input v rest)
    (there : (run handler {} moves).exchange.asks[n]? = some a) (sent : a.stage = .sent)
    (waits : a.id ∈ (run handler {} moves).exchange.connection.waiting)
    (response : Incoming.ofJson? v = some (.response a.id body)) :
    (((run handler {} moves).move handler .read).move handler (.chore (.step n))).exchange.ends =
      (run handler {} moves).exchange.ends ++ [(n, .answered body)] := by
  obtain ⟨done, same⟩ := exists_run handler moves
  have sound : (run handler {} moves).exchange.Sound done := same ▸ Exchange.sound_run done
  rw [read_message handler free reads begins]
  exact sound.step_of_response there sent waits response

theorem Sound.heard_eq (h : s.Sound handler) (free : s.reception.wire.hasInput = false) :
    s.heard = (Frame.readAll s.output).1 := by
  refine h.gives.messages_eq fun v rest begins => ?_
  cases reads : s.exchange.connection.reads with
  | false => exact h.finished reads [] v rest (fun _ => rfl) (by simpa using begins)
  | true =>
    have reads' : s.reception.exchange.connection.reads = true := reads
    have arrives := (Frame.arrival_eq_message_iff s.reception.inputEnded).2 begins
    simp [Wire.hasInput, Reception.wire, arrives, reads'] at free

theorem forall₂_reply? (questions : List Question) {answered : List Nat}
    (known : ∀ k ∈ answered, k < questions.length) :
    List.Forall₂ (fun k message => ∃ q, questions[k]? = some q ∧
      Replies q (handler k q.method q.params) message) answered
        (answered.filterMap (reply? handler questions)) := by
  induction answered with
  | nil => exact .nil
  | cons k answered ih =>
    obtain ⟨q, there⟩ : ∃ q, questions[k]? = some q :=
      ⟨_, List.getElem?_eq_getElem (known k List.mem_cons_self)⟩
    have replied : reply? handler questions k =
        some (replyMessage q.id (handler k q.method q.params)) := by
      rw [reply?, there]
      rfl
    rw [List.filterMap_cons_some replied]
    exact .cons ⟨_, there, replies_replyMessage ..⟩
      (ih fun j here => known j (List.mem_cons_of_mem k here))

end Service

end LanguageBroker.Connection

namespace LanguageBroker.Server

open Connection

variable {s : Server} {v : Service} {handler : Handler} {q : Question}

/-- The streams of the server and its open requests are those of the service, and the handler sees
to a notification at least as long as findings are on their way. -/
structure Hosts (s : Server) (v : Service) : Prop where
  wire : v.reception.wire = { s.wire with serverReads := true }
  next : s.nextQuestion = v.questions.length
  questions : ∀ q, q ∈ s.questions ↔
    v.questions[q.number]? = some ⟨q.id, q.method, q.params⟩ ∧ q.number ∉ v.answered
  busy : s.findings.isSome → v.isBusy

theorem read_serverReads (w : Wire) : Wire.read { w with serverReads := true } =
    ({ w.read.1 with serverReads := true }, w.read.2) := by
  unfold Wire.read
  dsimp only
  cases Frame.arrival w.inputEnded w.input <;> rfl

/-- A notification leads to findings on their way, and to nothing else. -/
theorem hear_findings (s : Server) (clock : Clock) (method : String) (params : Json) :
    s.hear clock method params = { s with findings := (s.hear clock method params).findings } := by
  unfold hear
  split
  · split <;> rfl
  · rfl

/-- A new request is open. -/
theorem Hosts.ask (h : Hosts s v) (known : ∀ k ∈ v.answered, k < v.questions.length) {id : Json}
    {method : String} {params : Json} (q : Question) :
    q ∈ s.questions ++ [⟨s.nextQuestion, id, method, params⟩] ↔
      (v.questions ++ [⟨id, method, params⟩])[q.number]? = some ⟨q.id, q.method, q.params⟩ ∧
        q.number ∉ v.answered := by
  rw [List.mem_append, List.mem_singleton, h.questions, List.getElem?_append]
  have fresh : v.questions.length ∉ v.answered := fun there => Nat.lt_irrefl _ (known _ there)
  obtain ⟨number, i, m, p⟩ := q
  dsimp only
  split
  · next old =>
    have other : number ≠ s.nextQuestion := by
      rw [h.next]
      exact Nat.ne_of_lt old
    simp [other]
  · next beyond =>
    have none : v.questions[number]? = none := List.getElem?_eq_none (Nat.not_lt.1 beyond)
    rw [none, h.next]
    rcases Nat.eq_or_lt_of_le (Nat.not_lt.1 beyond) with same | more
    · subst same
      simp [fresh, eq_comm]
    · have outside : [(⟨id, method, params⟩ : Connection.Question)][number - v.questions.length]? =
          Option.none := List.getElem?_eq_none (by simp; omega)
      rw [outside]
      simp
      omega

/-- The reader of a server reads as that of the service. -/
theorem Hosts.read (h : Hosts s v) (sound : v.Sound handler) (free : s.findings = none)
    (idle : v.isBusy = false) (input : s.wire.hasInput = true) (clock : Clock) :
    Hosts (s.stepReader clock) (v.move handler .read) := by
  have input' : v.reception.wire.hasInput = true := by
    rw [h.wire]
    exact input
  rw [Service.read_goes handler idle input', h.wire, read_serverReads]
  simp only [stepReader, free]
  have busy {P : Prop} : (none : Option Passage).isSome = true → P := by simp
  rcases s.wire.read.2 with _ | ⟨id, body⟩ | ⟨id, method, params⟩ | ⟨method, params⟩
  · exact ⟨rfl, h.next, h.questions, busy⟩
  · exact ⟨rfl, h.next, h.questions, busy⟩
  · exact ⟨rfl, by simp [Service.hand, h.next], h.ask sound.known, busy⟩
  · dsimp only
    rw [hear_findings]
    exact ⟨rfl, h.next, h.questions, fun _ => rfl⟩

/-- A server answers its requests as the service does. -/
theorem Hosts.reply (h : Hosts s v) (there : q ∈ s.questions) (source : SettingsSource)
    (same : handler q.number q.method q.params = (reply source q.method q.params).1) :
    Hosts (s.stepQuestion source q) (v.move handler (.reply q.number)) := by
  obtain ⟨asked, new⟩ := (h.questions q).1 there
  have wire : v.reception.exchange.connection = s.wire.connection := congrArg Wire.connection h.wire
  have input : v.reception.input = s.wire.input := congrArg Wire.input h.wire
  have ended : v.reception.inputEnded = s.wire.inputEnded := congrArg Wire.inputEnded h.wire
  simp only [Service.move, asked, new, if_false, stepQuestion, same]
  refine ⟨?_, h.next, fun p => ?_, h.busy⟩
  · simp [Service.goOn, Reception.wire, Reception.move, Exchange.move, wire, input, ended, see,
      reconnect]
  · simp [see, h.questions, Service.goOn, and_assoc]

theorem Hosts.endNotice (h : Hosts s v) (free : s.findings = none) :
    Hosts s (v.move handler .endNotice) :=
  ⟨h.wire, h.next, h.questions, by simp [free]⟩

end LanguageBroker.Server

namespace LanguageBroker.Connection.Service

/-- The reader takes in the messages of the server's output, in their order and, when it has nothing
more to take, all of them. Those with a method and an id are the requests, those with a method and
no id are what the handler is told, in the order in which they came. Every answer that the handler
has come to was queued as one reply, in the order of the answers, with the id of its request and the
handler's result or error for the method and the parameters of that request, and nothing else that
is queued is a reply; an answer yet to come is queued when it comes, and when all have come the
replies are one to each request. No answer is waited for: a message is taken in and a response ends
its request however many requests are open, and all but the replies is the same whenever answers
come, in whatever order, and whatever they are. -/
theorem server_requests_answered_once (handler : Handler) (moves : List Move) :
    let s := run handler {} moves
    s.heard <+: (Frame.readAll s.output).1 ∧
      (s.reception.wire.hasInput = false → s.heard = (Frame.readAll s.output).1) ∧
      s.questions = s.heard.filterMap question? ∧ s.notified = s.heard.filterMap notification? ∧
      s.answered.Nodup ∧
      List.Forall₂ (fun k message => ∃ q, s.questions[k]? = some q ∧
        Replies q (handler k q.method q.params) message) s.answered (s.line.filter isReply) ∧
      (∀ (k : Nat) (q : Question), s.questions[k]? = some q → k ∉ s.answered →
        (s.move handler (.reply k)).answered = s.answered ++ [k] ∧ ∃ message,
          Replies q (handler k q.method q.params) message ∧
            (s.move handler (.reply k)).line = s.line ++ [message]) ∧
      ((∀ k < s.questions.length, k ∈ s.answered) →
        s.answered.Perm (List.range s.questions.length)) ∧
      (∀ (v : Json) (rest : List UInt8), s.isBusy = false → s.exchange.connection.reads = true →
        Frame.Begins s.reception.input v rest →
          (s.move handler .read).heard = s.heard ++ [v] ∧
            ∀ (n : Nat) (a : Ask) (body : Json), s.exchange.asks[n]? = some a → a.stage = .sent →
              a.id ∈ s.exchange.connection.waiting →
                Incoming.ofJson? v = some (.response a.id body) →
                  ((s.move handler .read).move handler (.chore (.step n))).exchange.ends =
                    s.exchange.ends ++ [(n, .answered body)]) ∧
      ∀ (other : Handler) (moves' : List Move),
        (moves'.filter fun next => !next.isAnswer) = (moves.filter fun next => !next.isAnswer) →
          (run other {} moves').mute = s.mute := by
  intro s
  have sound : s.Sound handler := sound_run handler moves
  refine ⟨sound.gives.messages_prefix, sound.heard_eq, sound.questions, sound.notified, sound.once,
    sound.replies ▸ forall₂_reply? s.questions sound.known, ?answer, sound.perm_range, ?read,
    ?apart⟩
  case answer =>
    intro k q there new
    obtain ⟨answered, line⟩ := sound.line_reply there new
    exact ⟨answered, _, replies_replyMessage .., line⟩
  case read =>
    intro v rest free reads begins
    refine ⟨?_, fun n a body there sent waits response =>
      ends_of_response handler moves free reads begins there sent waits response⟩
    rw [read_message handler free reads begins]
    rfl
  case apart =>
    intro other moves' same
    calc (run other {} moves').mute
      _ = (run handler {} (moves'.filter fun next => !next.isAnswer)).mute :=
        mute_run other handler rfl moves'
      _ = (run handler {} (moves.filter fun next => !next.isAnswer)).mute := by rw [same]
      _ = s.mute := (mute_run handler handler rfl moves).symm

end LanguageBroker.Connection.Service
