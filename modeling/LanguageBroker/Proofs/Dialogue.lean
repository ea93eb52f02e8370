import LanguageBroker.Proofs.CallReports
import LanguageBroker.Server

/-!
What is said between the broker and one server process. All that goes on at the broker's end, the
server's writing and the passing of time are moves that come in any order; only a start waits until
the conversation before is over, and an end until the start is. Beside the state stands a record of
what was queued for the present process, what it was handed and what the reader took in from it.
-/

namespace LanguageBroker

/-! The messages of a conversation. -/

namespace Json

theorem lookup_insertMember (key k : String) (v : Json) (ms : List (String × Json)) :
    (insertMember k v ms).lookup key = if key = k then some v else ms.lookup key := by
  induction ms with
  | nil => by_cases same : key = k <;> simp [insertMember, same]
  | cons m ms ih =>
    obtain ⟨l, u⟩ := m
    unfold insertMember
    split
    · by_cases same : key = k <;> simp [List.lookup_cons, same, beq_false_of_ne]
    · split
      · next here =>
        by_cases same : key = k <;> simp [List.lookup_cons, ← here, same, beq_false_of_ne]
      · next there =>
        by_cases same : key = l
        · simp [same, Ne.symm there]
        · simp [List.lookup_cons, same, beq_false_of_ne, ih]

/-- The method that a message names. -/
def method? (message : Json) : Option String := (message.get? "method").bind text?

/-- Does the message begin something? Answers do not, nor does the notice that a request was given
up. -/
def isInitiating (message : Json) : Bool :=
  match message.method? with
  | some method => method != "$/cancelRequest"
  | none => false

end Json

namespace Connection

variable {c c' : Connection} {message : Json}

@[simp] theorem method?_requestMessage (id : RequestId) (method : String) (params : Json) :
    (requestMessage id method params).method? = some method := by
  simp [requestMessage, versionMember, Json.object, Json.lookup_insertMember, Json.method?,
    Json.get?, Json.text?]

@[simp] theorem method?_notificationMessage (method : String) (params : Json) :
    (notificationMessage method params).method? = some method := by
  simp [notificationMessage, versionMember, Json.object, Json.lookup_insertMember, Json.method?,
    Json.get?, Json.text?]

@[simp] theorem method?_replyMessage (id : Json) (result : Except RpcError Json) :
    (replyMessage id result).method? = none := by
  cases result <;>
    simp [replyMessage, versionMember, Json.object, Json.lookup_insertMember, Json.method?,
      Json.get?]

@[simp] theorem method?_cancelMessage (id : RequestId) :
    (cancelMessage id).method? = some "$/cancelRequest" := method?_notificationMessage ..

/-- Messages were queued, and only responses that were just heard came. -/
structure Utters (c c' : Connection) (messages heard : List Json) : Prop where
  queue : c'.queue = c.queue ++ messages
  writes : c'.writes = c.writes
  silent : c.writes = false → messages = []
  arrived : ∀ a ∈ c'.arrived, a ∈ c.arrived ∨
    ∃ message ∈ heard, Incoming.ofJson? message = some (.response a.1 a.2)

/-- The message, if the writer still takes it. -/
def taken (c : Connection) (message : Json) : List Json := if c.writes then [message] else []

theorem Utters.of_subset {messages : List Json} (queue : c'.queue = c.queue ++ messages)
    (writes : c'.writes = c.writes) (silent : c.writes = false → messages = [])
    (arrived : c'.arrived ⊆ c.arrived) : Utters c c' messages [] :=
  ⟨queue, writes, silent, fun _ here => .inl (arrived here)⟩

/-- Nothing is queued. -/
theorem Utters.of_queue (queue : c'.queue = c.queue) (writes : c'.writes = c.writes)
    (arrived : c'.arrived ⊆ c.arrived) : Utters c c' [] [] :=
  .of_subset (by rw [queue, List.append_nil]) writes (fun _ => rfl) arrived

theorem utters_rfl : Utters c c [] [] := .of_queue rfl rfl (List.Subset.refl _)

theorem Utters.trans {c'' : Connection} {messages more : List Json}
    (before : Utters c c' messages []) (after : Utters c' c'' more []) :
    Utters c c'' (messages ++ more) [] := by
  refine .of_subset (by simp [after.queue, before.queue]) (after.writes.trans before.writes)
    (fun dead => ?_) ?_
  · simp [before.silent dead, after.silent (before.writes.trans dead)]
  intro a here
  have here : a ∈ c'.arrived := by simpa using after.arrived a here
  simpa using before.arrived a here

theorem utters_post (c : Connection) (message : Json) :
    Utters c (c.post message) (c.taken message) [] := by
  cases writes : c.writes <;> apply Utters.of_subset <;> simp [post, taken, writes]

theorem utters_take (c : Connection) (id : RequestId) : Utters c (c.take id) [] [] :=
  .of_queue rfl rfl (List.filter_subset_self _)

theorem utters_cancel (c : Connection) (id : RequestId) :
    Utters c (c.cancel id) (c.taken (cancelMessage id)) [] := by
  cases writes : c.writes <;> apply Utters.of_subset <;> simp [cancel, post, taken, writes]

theorem utters_notify (c : Connection) (method : String) (params : Json) :
    Utters c (c.notify method params).1 (c.taken (notificationMessage method params)) [] := by
  cases writes : c.writes
  · simpa [notify, taken, writes] using utters_rfl
  · simpa [notify, writes] using utters_post c (notificationMessage method params)

/-- A notification is queued, or fails at once. -/
theorem notify_cases (c : Connection) (method : String) (params : Json) :
    (∃ c', c.notify method params = (c', .ok ()) ∧
        Utters c c' [notificationMessage method params] []) ∨
      c.notify method params = (c, .error .connectionClosed) ∧ c.writes = false := by
  cases writes : c.writes with
  | false => exact .inr ⟨by simp [notify, writes], rfl⟩
  | true =>
    refine .inl ⟨(c.notify method params).1, by simp [notify, writes], ?_⟩
    simpa [taken, writes] using c.utters_notify method params

/-- A request is sent under the next number, or fails at once. -/
theorem request_cases (c : Connection) (method : String) (params : Json) :
    (∃ c', c.request method params = (c', .ok c.nextId) ∧
        Utters c c' [requestMessage c.nextId method params] []) ∨
      ∃ c', c.request method params = (c', .error .connectionClosed) ∧ Utters c c' [] [] := by
  cases dead : c.isShut || !c.writes with
  | true =>
    exact .inr ⟨{ c with nextId := c.nextId + 1 }, by simp only [request, dead, if_true],
      .of_queue rfl rfl (List.Subset.refl _)⟩
  | false =>
    obtain ⟨-, writes⟩ : c.isShut = false ∧ c.writes = true := by simpa using dead
    let sent := { c with nextId := c.nextId + 1, waiting := c.waiting ++ [c.nextId] }
    refine .inl ⟨sent.post (requestMessage c.nextId method params),
      by simp [request, dead, sent], ?_⟩
    have utters := utters_post sent (requestMessage c.nextId method params)
    refine .of_subset ?_ utters.writes (by simp [writes]) fun a here => ?_
    · simpa [taken, sent, writes] using utters.queue
    · simpa using utters.arrived a here

/-- A message is taken in. -/
theorem utters_receive (c : Connection) (message : Json) :
    Utters c (c.receive message).1 [] [message] := by
  have rest : Utters c c [] [message] := ⟨by simp, rfl, fun _ => rfl, fun _ => .inl⟩
  unfold receive
  split
  · next id body is =>
    simp only [deliver]
    split
    · next waits =>
      refine ⟨by simp, rfl, fun _ => rfl, fun a here => ?_⟩
      have at' : ((id.toNat : Nat) : Int) = id := by simp at waits; omega
      rcases List.mem_append.1 here with old | new
      · exact .inl old
      · obtain rfl := List.mem_singleton.1 new
        exact .inr ⟨message, List.mem_singleton_self _, by rw [at', is]⟩
    · exact rest
  · exact rest

end Connection

namespace Wire

/-- The message that would be read. -/
def reading (w : Wire) : List Json :=
  match Frame.arrival w.inputEnded w.input with
  | .message message _ => [message]
  | _ => []

theorem utters_read (w : Wire) :
    w.connection.Utters w.read.1.connection [] w.reading := by
  cases arrival : Frame.arrival w.inputEnded w.input with
  | message message rest =>
    simpa only [read, reading, arrival] using Connection.utters_receive w.connection message
  | partly => simpa only [read, reading, arrival] using Connection.utters_rfl
  | ended | fault =>
    simp only [read, reading, arrival]
    exact .of_queue rfl rfl (List.Subset.refl _)

end Wire

/-! What one step of a server queues. -/

namespace Server

/-- The request that opens a conversation. -/
def greeting (params : Json) : Json := Connection.requestMessage 1 greetingMethod params

/-- The notice that the server can begin. -/
def readyNotice : Json := Connection.notificationMessage "initialized" (Json.object [])

/-- The request to shut down. -/
def farewell (id : RequestId) : Json := Connection.requestMessage id "shutdown" .null

def exitNotice : Json := Connection.notificationMessage "exit" .null

/-- A host's call as it is sent. -/
def callMessage (c : Call) (id : RequestId) : Json :=
  if c.method.isNotification then Connection.notificationMessage c.method.name c.params
  else Connection.requestMessage id c.method.name c.params

def IsCall (message : Json) : Prop := ∃ c id, message = callMessage c id

variable {s s' : Server} {messages heard : List Json}

/-- The conversation is as far as it was. -/
structure Keeps (s s' : Server) : Prop where
  stage : s'.stage = s.stage
  connected : s'.middleware.connected = s.middleware.connected
  startResult : s'.startResult = s.startResult

/-- Messages are queued or heard while the conversation stays as far as it was. -/
structure Speaks (s s' : Server) (messages heard : List Json) : Prop extends Keeps s s' where
  utters : s.wire.connection.Utters s'.wire.connection messages heard

/-- Only calls begin something, and only while the server runs. -/
def Fitting (s : Server) (messages : List Json) : Prop :=
  ∀ message ∈ messages, message.isInitiating → s.stage = .running ∧ IsCall message

theorem speaks_of_wire (stage : s'.stage = s.stage)
    (connected : s'.middleware.connected = s.middleware.connected)
    (startResult : s'.startResult = s.startResult) (wire : s'.wire = s.wire) :
    Speaks s s' [] [] :=
  ⟨⟨stage, connected, startResult⟩, wire ▸ Connection.utters_rfl⟩

theorem fitting_nil : s.Fitting [] := by simp [Fitting]

theorem fitting_taken {c : Connection} {message : Json} (no : message.isInitiating = false) :
    s.Fitting (c.taken message) := by
  intro m here begins
  unfold Connection.taken at here
  split at here
  · obtain rfl := List.mem_singleton.1 here
    simp [no] at begins
  · simp at here

theorem isInitiating_replyMessage (id : Json) (result : Except RpcError Json) :
    (Connection.replyMessage id result).isInitiating = false := by simp [Json.isInitiating]

theorem isInitiating_cancelMessage (id : RequestId) :
    (Connection.cancelMessage id).isInitiating = false := by simp [Json.isInitiating]

theorem connected_leave (p : Passage) (w : Middleware) (now : Nat) (result : CallResult) :
    (p.leave w now result).1.connected = w.connected := by
  rcases w.settle_cases p.method p.start now p.reached result with ⟨_, _, -, -, -, same⟩ | ⟨same, -⟩
    <;> rw [Passage.leave, same]

theorem speaks_reconnect {c : Connection}
    (utters : s.wire.connection.Utters c messages heard) :
    Speaks s (s.reconnect c) messages heard := ⟨⟨rfl, rfl, rfl⟩, utters⟩

/-- A call is passed on at once or not at all. -/
theorem dispatch_cases (s : Server) (c : Call) :
    (∃ messages, Speaks s (s.dispatch c).1 messages [] ∧ s.Fitting messages) := by
  unfold dispatch
  split
  · next running =>
    split
    · next notice =>
      rcases s.wire.connection.notify_cases c.method.name c.params with
        ⟨c', same, utters⟩ | ⟨same, -⟩
      · rw [same]
        refine ⟨_, speaks_reconnect utters, fun m here _ => ⟨running, c, 0, ?_⟩⟩
        simpa [callMessage, notice] using here
      · rw [same]
        exact ⟨[], speaks_of_wire rfl rfl rfl rfl, fitting_nil⟩
    · next request =>
      rcases s.wire.connection.request_cases c.method.name c.params with
        ⟨c', same, utters⟩ | ⟨c', same, utters⟩
      · rw [same]
        refine ⟨_, speaks_reconnect utters,
          fun m here _ => ⟨running, c, s.wire.connection.nextId, ?_⟩⟩
        simpa [callMessage, request] using here
      · rw [same]
        exact ⟨[], speaks_reconnect utters, fitting_nil⟩
  · exact ⟨[], speaks_of_wire rfl rfl rfl rfl, fitting_nil⟩

theorem Speaks.putVisit (speaks : Speaks s s' messages heard) (v : Visit) :
    Speaks s (s'.putVisit v) messages heard :=
  ⟨⟨speaks.stage, speaks.connected, speaks.startResult⟩, speaks.utters⟩

theorem Speaks.see (speaks : Speaks s s' messages heard) (sights : List Sight) :
    Speaks s (s'.see sights) messages heard :=
  ⟨⟨speaks.stage, speaks.connected, speaks.startResult⟩, speaks.utters⟩

theorem Speaks.seePassage (speaks : Speaks s s' messages heard) (sight : Option Passage.Sight) :
    Speaks s (s'.seePassage sight) messages heard := by
  unfold Server.seePassage
  split
  · exact speaks.see _
  · exact speaks

theorem speaks_rfl : Speaks s s [] [] := speaks_of_wire rfl rfl rfl rfl

theorem speaks_stepVisit (s : Server) (clock : Clock) (v : Visit) :
    ∃ messages, Speaks s (s.stepVisit clock v) messages [] ∧ s.Fitting messages := by
  unfold stepVisit
  split
  · exact ⟨[], ⟨⟨rfl, connected_leave .., rfl⟩, Connection.utters_rfl⟩, fitting_nil⟩
  · next c _ _ _ =>
    obtain ⟨messages, speaks, fitting⟩ := s.dispatch_cases c
    refine ⟨messages, ?_, fitting⟩
    split <;>
      · next same =>
        rw [same] at speaks
        exact speaks.putVisit _
  · next c h _ _ _ =>
    split
    · refine ⟨[], Speaks.putVisit ?_ _, fitting_nil⟩
      unfold take
      split
      · exact speaks_reconnect (s.wire.connection.utters_take h.id)
      · exact speaks_rfl
    · unfold cancel
      dsimp only
      split
      · exact ⟨_, (speaks_reconnect (s.wire.connection.utters_cancel h.id)).putVisit _,
          fitting_taken (isInitiating_cancelMessage h.id)⟩
      · exact ⟨[], speaks_rfl.putVisit _, fitting_nil⟩
  · exact ⟨[], (speaks_rfl.putVisit _).seePassage _, fitting_nil⟩

theorem speaks_stepQuestion (s : Server) (source : SettingsSource) (q : Question) :
    ∃ messages, Speaks s (s.stepQuestion source q) messages [] ∧ s.Fitting messages :=
  ⟨_, ⟨⟨rfl, rfl, rfl⟩, Connection.utters_post ..⟩, fitting_taken (isInitiating_replyMessage ..)⟩

theorem speaks_stepFindings (s : Server) (clock : Clock) (p : Passage) :
    Speaks s (s.stepFindings clock p) [] [] := by
  unfold stepFindings
  split
  · exact ⟨⟨rfl, connected_leave .., rfl⟩, Connection.utters_rfl⟩
  · next c _ _ =>
    have same : (s.publish c.params).1 = s ∨
        ∃ sights, (s.publish c.params).1 = s.see sights := by
      unfold publish
      split
      · exact .inr ⟨_, rfl⟩
      · exact .inl rfl
    rcases same with same | ⟨sights, same⟩ <;> dsimp only <;> rw [same] <;>
      exact ⟨⟨rfl, rfl, rfl⟩, Connection.utters_rfl⟩
  · exact (⟨⟨rfl, rfl, rfl⟩, Connection.utters_rfl⟩ :
      Speaks s { s with findings := some (p.walk clock).1 } [] []).seePassage _

/-- The message that the reader takes in. -/
def reading (s : Server) : List Json :=
  match s.findings with
  | none => s.wire.reading
  | some _ => []

theorem speaks_stepReader (s : Server) (clock : Clock) :
    Speaks s (s.stepReader clock) [] s.reading := by
  unfold stepReader reading
  cases s.findings with
  | some p => exact speaks_stepFindings s clock p
  | none =>
    have utters := s.wire.utters_read
    dsimp only
    split
    · exact ⟨⟨rfl, rfl, rfl⟩, utters⟩
    · unfold hear
      split
      · split <;> exact ⟨⟨rfl, rfl, rfl⟩, utters⟩
      · exact ⟨⟨rfl, rfl, rfl⟩, utters⟩
    · exact ⟨⟨rfl, rfl, rfl⟩, utters⟩

/-- The connection is closed and given up. -/
structure IsDown (s : Server) : Prop where
  stage : s.stage = .idle
  writes : s.wire.connection.writes = false
  queue : s.wire.connection.queue = []

theorem isDown_close (s : Server) : s.close.IsDown := ⟨rfl, rfl, rfl⟩

theorem isDown_failStart (s : Server) (cause : BackendError) : (s.failStart cause).IsDown :=
  ⟨rfl, rfl, rfl⟩

/-- Messages were queued, or the connection was given up. -/
def Voices (s s' : Server) : Prop :=
  (∃ messages, s.wire.connection.Utters s'.wire.connection messages []) ∨ s'.IsDown

/-- Has the server agreed to a request? -/
def Agrees (s : Server) (id : RequestId) : Prop :=
  ∃ body answer, (id, body) ∈ s.wire.connection.arrived ∧ Connection.resultOf body = .ok answer

theorem agrees_of_answer {id : RequestId} {answer : Json}
    (found : s.wire.connection.answer? id = some (.ok answer)) : s.Agrees id := by
  unfold Connection.answer? at found
  split at found
  · next body there =>
    obtain ⟨before, after, split, -⟩ := List.lookup_eq_some_iff.1 there
    exact ⟨body, answer, by simp [split], Option.some.inj found⟩
  · split at found <;> simp at found

/-- How a conversation goes on. -/
inductive Proceeds (s s' : Server) : Prop
  | opened (id : RequestId) (options : Options) (greeting : s.stage = .greeting id options)
      (agrees : s.Agrees id) (stage : s'.stage = .running)
      (connected : s'.middleware.connected = true) (startResult : s'.startResult = some (.ok ()))
      (utters : s.wire.connection.Utters s'.wire.connection [readyNotice] [])
  | refused (id : RequestId) (options : Options) (greeting : s.stage = .greeting id options)
      (connected : s'.middleware.connected = s.middleware.connected) (down : s'.IsDown)
  | told (id : RequestId) (due : Deadline) (leaving : s.stage = .leaving id due)
      (agrees : s.Agrees id) (stage : s'.stage = .departing)
      (connected : s'.middleware.connected = s.middleware.connected)
      (startResult : s'.startResult = s.startResult)
      (utters : s.wire.connection.Utters s'.wire.connection
        (s.wire.connection.taken exitNotice) [])
  | ended (going : s.stage = .departing ∨ ∃ id due, s.stage = .leaving id due)
      (connected : s'.middleware.connected = s.middleware.connected)
      (startResult : s'.startResult = s.startResult) (down : s'.IsDown)
  | rest (same : s' = s)

theorem proceeds_endGreeting {c : Connection} {id : RequestId} {options : Options} {answer : Json}
    (greeting : s.stage = .greeting id options) (agrees : s.Agrees id)
    (utters : s.wire.connection.Utters c [] []) :
    Proceeds s ((s.reconnect c).endGreeting options (.ok answer)) := by
  rcases c.notify_cases "initialized" (Json.object []) with ⟨c', same, more⟩ | ⟨same, -⟩
  · simp only [endGreeting, reconnect, same]
    exact .opened id options greeting agrees rfl rfl rfl (utters.trans more)
  · simp only [endGreeting, reconnect, same]
    exact .refused id options greeting rfl (isDown_failStart ..)

theorem proceeds (s : Server) : Proceeds s s.proceed := by
  unfold proceed
  split
  · next id options stage =>
    split
    · next result found =>
      cases result with
      | error e => exact .refused id options stage rfl (isDown_failStart ..)
      | ok answer =>
        exact proceeds_endGreeting stage (agrees_of_answer found) (s.wire.connection.utters_take id)
    · exact .rest rfl
  · next id due stage =>
    unfold endLeaving
    split
    · next answer found =>
      refine .told id due stage (agrees_of_answer found) rfl rfl rfl ?_
      exact s.wire.connection.utters_notify ..
    · exact .ended (.inr ⟨id, due, stage⟩) rfl rfl (isDown_close s)
  · next stage => exact .ended (.inl stage) rfl rfl (isDown_close s)
  · exact .rest rfl
  · exact .rest rfl

theorem Proceeds.voices (proceeds : Proceeds s s') : Voices s s' := by
  cases proceeds with
  | opened _ _ _ _ _ _ _ utters | told _ _ _ _ _ _ _ utters => exact .inl ⟨_, utters⟩
  | refused _ _ _ _ down | ended _ _ _ down => exact .inr down
  | rest same => exact .inl ⟨[], same ▸ Connection.utters_rfl⟩

/-- How a start begins: the server is greeted, or there is none. -/
inductive Starts (s s' : Server) : Prop
  | greeted (params : Json) (options : Options) (stage : s'.stage = .greeting 1 options)
      (connected : s'.middleware.connected = s.middleware.connected)
      (startResult : s'.startResult = none) (writes : s'.wire.connection.writes = true)
      (queue : s'.wire.connection.queue = [greeting params])
      (arrived : s'.wire.connection.arrived = [])
  | unlaunched (cause : BackendError) (same : s' = { s with startResult := some (.error cause) })

theorem starts (s : Server) (launch : Except BackendError Nat) (options : Options)
    (idle : s.stage = .idle) : Starts s (s.start launch options) := by
  cases launch with
  | error cause => exact .unlaunched cause (by simp [start, idle])
  | ok processId =>
    apply Starts.greeted (Greeting.params options processId) options <;>
      simp [start, idle, Connection.request, Connection.post, greeting]

/-- How the end of a conversation is asked for. -/
inductive Dismisses (s s' : Server) : Prop
  | left (running : s.stage = .running) (id : RequestId) (due : Deadline)
      (stage : s'.stage = .leaving id due) (startResult : s'.startResult = s.startResult)
      (utters : s.wire.connection.Utters s'.wire.connection [farewell id] [])
  | failed (running : s.stage = .running) (startResult : s'.startResult = s.startResult)
      (down : s'.IsDown)
  | unheeded (other : s.stage ≠ .running) (stage : s'.stage = s.stage)
      (startResult : s'.startResult = s.startResult) (wire : s'.wire = s.wire)

theorem Dismisses.voices (dismisses : Dismisses s s') : Voices s s' := by
  cases dismisses with
  | left _ _ _ _ _ utters => exact .inl ⟨_, utters⟩
  | failed _ _ down => exact .inr down
  | unheeded _ _ _ wire => exact .inl ⟨[], wire ▸ Connection.utters_rfl⟩

theorem dismisses (s : Server) (clock : Clock) : Dismisses s (s.dispose clock) := by
  by_cases running : s.stage = .running
  · unfold dispose
    rcases s.wire.connection.request_cases "shutdown" .null with
      ⟨c, same, utters⟩ | ⟨c, same, utters⟩
    · simp only [running, same]
      exact .left running _ _ rfl rfl utters
    · simp only [running, same]
      exact .failed running rfl (isDown_close _)
  · have same : s.dispose clock = { s with middleware := s.middleware.disconnect } := by
      cases stage : s.stage <;> simp_all [dispose]
    rw [same]
    exact .unheeded running rfl rfl rfl

@[simp] theorem connected_dispose (s : Server) (clock : Clock) :
    (s.dispose clock).middleware.connected = false := by
  unfold dispose
  dsimp only
  split
  · split <;> rfl
  · rfl

/-- What a step has added to the queue. -/
def said (s s' : Server) : List Json :=
  s'.wire.connection.queue.drop s.wire.connection.queue.length

@[simp] theorem said_of_utters
    (utters : s.wire.connection.Utters s'.wire.connection messages heard) :
    said s s' = messages := by
  rw [said, utters.queue, List.drop_left]

@[simp] theorem said_of_isDown (down : s'.IsDown) : said s s' = [] := by
  rw [said, down.queue, List.drop_nil]

/-- One server and what is said in its conversations, with a record of the present one. -/
structure Dialogue where
  server : Server
  clock : Clock := {}
  /-- What was queued for the present process. -/
  queued : List Json := []
  /-- What the process was handed of it. -/
  written : List Json := []
  /-- What the reader took in from the process. -/
  heard : List Json := []
  /-- Was the end of the conversation asked for? -/
  isDismissed : Bool := false

inductive Dialogue.Move
  /-- A process is launched, or could not be. Only one that does not run is started. -/
  | start (launch : Except BackendError Nat) (options : Options)
  /-- The end is asked for, but not during a start. -/
  | dispose
  | call (c : Call)
  /-- Whoever made a call gives it up, or forgets it. -/
  | giveUp (number : Nat)
  | forget (number : Nat)
  /-- Something goes on at the broker's end, if it can. -/
  | act (duty : Duty) (source : SettingsSource)
  | feed (bytes : List UInt8)
  | hangUp
  | wait (duration : Nat)

namespace Dialogue

/-- A server that was not started yet. -/
def opening (variant : Variant) (chain : List (Interceptor Flow)) : Dialogue :=
  { server := { middleware := { variant }, chain } }

/-- The record of a new conversation begins. -/
def begin (w : Dialogue) (launch : Except BackendError Nat) (options : Options) : Dialogue :=
  let server := w.server.start launch options
  { server, clock := w.clock, queued := server.wire.connection.queue }

def dismiss (w : Dialogue) : Dialogue :=
  let server := w.server.dispose w.clock
  { w with server, queued := w.queued ++ said w.server server, isDismissed := true }

def perform (w : Dialogue) (duty : Duty) (source : SettingsSource) : Dialogue :=
  let (server, message) := w.server.act source w.clock duty
  { w with
    server
    clock := w.clock.tick
    queued := w.queued ++ said w.server server
    written := w.written ++ message.toList
    heard := w.heard ++ if duty = .reader then w.server.reading else [] }

def move (w : Dialogue) : Move → Dialogue
  | .start launch options =>
    match w.server.stage with
    | .idle => w.begin launch options
    | _ => w
  | .dispose =>
    match w.server.stage with
    | .greeting .. => w
    | _ => w.dismiss
  | .call c => { w with server := (w.server.call w.clock c).1 }
  | .giveUp number => { w with server := w.server.giveUp number }
  | .forget number =>
    { w with server :=
      { w.server with visits := w.server.visits.filter fun v => v.number ≠ number } }
  | .act duty source => if w.server.isReady w.clock duty then w.perform duty source else w
  | .feed bytes => { w with server := { w.server with wire := w.server.wire.feed bytes } }
  | .hangUp => { w with server := { w.server with wire := w.server.wire.hangUp } }
  | .wait duration => { w with clock := w.clock.set (w.clock.now + duration) }

def run (w : Dialogue) (moves : List Move) : Dialogue := moves.foldl move w

theorem run_nil (w : Dialogue) : w.run [] = w := rfl

theorem run_cons (w : Dialogue) (next : Move) (later : List Move) :
    w.run (next :: later) = (w.move next).run later := rfl

/-- What every move of a run keeps is so after the run. -/
theorem run_induction {P : Dialogue → Prop} {moves : List Move}
    (keeps : ∀ w next, next ∈ moves → P w → P (w.move next)) {w : Dialogue} (h : P w) :
    P (w.run moves) := by
  induction moves generalizing w with
  | nil => exact h
  | cons next later ih =>
    exact ih (fun w next here => keeps w next (List.mem_cons_of_mem _ here))
      (keeps w next List.mem_cons_self h)

variable {w w' : Dialogue}

/-- What the record says more. -/
structure Records (w w' : Dialogue) (queued written heard : List Json) : Prop where
  queued : w'.queued = w.queued ++ queued
  written : w'.written = w.written ++ written
  heard : w'.heard = w.heard ++ heard

/-- What a move does to the conversation. -/
inductive Change (next : Move) (w w' : Dialogue) : Prop
  | spoke (messages heard : List Json) (speaks : Speaks w.server w'.server messages heard)
      (fitting : w.server.Fitting messages) (records : Records w w' messages [] heard)
      (isDismissed : w'.isDismissed = w.isDismissed)
  | handed (message : Json) (rest : List Json) (keeps : Keeps w.server w'.server)
      (queue : w.server.wire.connection.queue = message :: rest)
      (connection : w'.server.wire.connection = { w.server.wire.connection with queue := rest })
      (records : Records w w' [] [message] []) (isDismissed : w'.isDismissed = w.isDismissed)
  | silenced (keeps : Keeps w.server w'.server)
      (connection : w'.server.wire.connection = w.server.wire.connection.endOutput)
      (records : Records w w' [] [] []) (isDismissed : w'.isDismissed = w.isDismissed)
  | proceeded (source : SettingsSource) (acts : next = .act .conversation source)
      (proceeds : Proceeds w.server w'.server)
      (records : Records w w' (said w.server w'.server) [] [])
      (isDismissed : w'.isDismissed = w.isDismissed)
  | dismissed (isStarted : ∀ id options, w.server.stage ≠ .greeting id options)
      (dismisses : Dismisses w.server w'.server)
      (connected : w'.server.middleware.connected = false)
      (records : Records w w' (said w.server w'.server) [] []) (isDismissed : w'.isDismissed = true)
  | began (launch : Except BackendError Nat) (options : Options)
      (acts : next = .start launch options) (idle : w.server.stage = .idle)
      (starts : Starts w.server w'.server)
      (queued : w'.queued = w'.server.wire.connection.queue) (written : w'.written = [])
      (heard : w'.heard = []) (isDismissed : w'.isDismissed = false)

theorem records_of_eq (queued : w'.queued = w.queued) (written : w'.written = w.written)
    (heard : w'.heard = w.heard) : Records w w' [] [] [] :=
  ⟨by rw [queued, List.append_nil], by rw [written, List.append_nil], by rw [heard, List.append_nil]⟩

theorem change_write (w : Dialogue) (source : SettingsSource) :
    Change (.act .writer source) w (w.perform .writer source) := by
  cases queue : w.server.wire.connection.queue with
  | nil =>
    have same : w.perform .writer source = { w with clock := w.clock.tick } := by
      simp [perform, act, Wire.write, Connection.next?, queue, said]
    rw [same]
    exact .spoke [] [] speaks_rfl fitting_nil (records_of_eq rfl rfl rfl) rfl
  | cons message rest =>
    by_cases reads : w.server.wire.serverReads
    · refine .handed message rest ⟨?_, ?_, ?_⟩ queue ?_ ⟨?_, ?_, ?_⟩ ?_ <;>
        simp [perform, act, Wire.write, Connection.next?, queue, reads, said]
    · refine .silenced ⟨?_, ?_, ?_⟩ ?_ ⟨?_, ?_, ?_⟩ ?_ <;>
        simp [perform, act, Wire.write, Connection.next?, queue, reads, said,
          Connection.endOutput]

theorem change_perform (w : Dialogue) (duty : Duty) (source : SettingsSource) :
    Change (.act duty source) w (w.perform duty source) := by
  have spoke {messages : List Json} (other : duty ≠ .reader)
      (speaks : Speaks w.server (w.server.act source w.clock duty).1 messages [])
      (silent : (w.server.act source w.clock duty).2 = none)
      (fitting : w.server.Fitting messages) :
      Change (.act duty source) w (w.perform duty source) := by
    refine .spoke messages [] speaks fitting ⟨?_, ?_, ?_⟩ rfl
    · exact congrArg (w.queued ++ ·) (said_of_utters speaks.utters)
    · simp [perform, silent]
    · simp [perform, other]
  cases duty with
  | reader =>
    have speaks := w.server.speaks_stepReader w.clock
    refine .spoke [] _ speaks fitting_nil ⟨?_, ?_, ?_⟩ rfl
    · exact congrArg (w.queued ++ ·) (said_of_utters speaks.utters)
    · simp [perform, act]
    · simp [perform]
  | writer => exact w.change_write source
  | question number =>
    cases found : w.server.question? number with
    | none => exact spoke (by simp) (by simpa [act, found] using speaks_rfl) rfl fitting_nil
    | some q =>
      obtain ⟨messages, speaks, fitting⟩ := w.server.speaks_stepQuestion source q
      exact spoke (by simp) (by simpa [act, found] using speaks) rfl fitting
  | conversation =>
    exact .proceeded source rfl w.server.proceeds ⟨rfl, by simp [perform, act], by simp [perform]⟩
      rfl
  | visit number =>
    cases found : w.server.visit? number with
    | none => exact spoke (by simp) (by simpa [act, found] using speaks_rfl) rfl fitting_nil
    | some v =>
      obtain ⟨messages, speaks, fitting⟩ := w.server.speaks_stepVisit w.clock v
      exact spoke (by simp) (by simpa [act, found] using speaks) rfl fitting

theorem change_move (w : Dialogue) (next : Move) : Change next w (w.move next) := by
  have quiet {s : Server} (stage : s.stage = w.server.stage)
      (connected : s.middleware.connected = w.server.middleware.connected)
      (startResult : s.startResult = w.server.startResult)
      (connection : s.wire.connection = w.server.wire.connection) :
      Change next w { w with server := s } :=
    .spoke [] [] ⟨⟨stage, connected, startResult⟩, connection ▸ Connection.utters_rfl⟩ fitting_nil
      (records_of_eq rfl rfl rfl) rfl
  have still : Change next w w := quiet rfl rfl rfl rfl
  cases next with
  | start launch options =>
    unfold move
    dsimp only
    split
    · next idle =>
      exact .began launch options rfl idle (w.server.starts launch options idle) rfl rfl rfl rfl
    · exact still
  | dispose =>
    unfold move
    dsimp only
    split
    · exact still
    · next isStarted =>
      exact .dismissed isStarted (w.server.dismisses w.clock) (connected_dispose ..)
        ⟨rfl, by simp [dismiss], by simp [dismiss]⟩ rfl
  | act duty source =>
    unfold move
    dsimp only
    split
    · exact w.change_perform duty source
    · exact still
  | call | giveUp | forget | hangUp => exact quiet rfl rfl rfl rfl
  | feed bytes =>
    refine quiet rfl rfl rfl ?_
    simp only [Wire.feed]
    split <;> rfl
  | wait duration => exact .spoke [] [] speaks_rfl fitting_nil (records_of_eq rfl rfl rfl) rfl

end Dialogue

end Server

end LanguageBroker
