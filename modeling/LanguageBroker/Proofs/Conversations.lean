import LanguageBroker.Proofs.Dialogue

/-!
The order of what the broker says to one server process. The stage that a conversation has come to
tells what was begun so far, except that a conversation that is over may have ended anywhere; and
what the process was handed is a beginning of what was queued for it.
-/

namespace LanguageBroker.Server

/-! The messages that begin something are told apart by their methods. -/

theorem name_ne (method : Method) :
    method.name ≠ greetingMethod ∧ method.name ≠ "initialized" ∧ method.name ≠ "shutdown" ∧
      method.name ≠ "exit" ∧ method.name ≠ "$/cancelRequest" := by
  cases method <;> decide

@[simp] theorem method?_greeting (params : Json) :
    (greeting params).method? = some greetingMethod := by simp [greeting]

@[simp] theorem method?_readyNotice : readyNotice.method? = some "initialized" := by
  simp [readyNotice]

@[simp] theorem method?_farewell (id : RequestId) : (farewell id).method? = some "shutdown" := by
  simp [farewell]

@[simp] theorem method?_exitNotice : exitNotice.method? = some "exit" := by simp [exitNotice]

@[simp] theorem method?_callMessage (c : Call) (id : RequestId) :
    (callMessage c id).method? = some c.method.name := by
  unfold callMessage
  split <;> simp

theorem isInitiating_of_method? {message : Json} {method : String}
    (is : message.method? = some method) (other : method ≠ "$/cancelRequest") :
    message.isInitiating = true := by simp [Json.isInitiating, is, other]

@[simp] theorem isInitiating_greeting (params : Json) : (greeting params).isInitiating = true :=
  isInitiating_of_method? (method?_greeting params) (by decide)

@[simp] theorem isInitiating_readyNotice : readyNotice.isInitiating = true :=
  isInitiating_of_method? method?_readyNotice (by decide)

@[simp] theorem isInitiating_farewell (id : RequestId) : (farewell id).isInitiating = true :=
  isInitiating_of_method? (method?_farewell id) (by decide)

@[simp] theorem isInitiating_exitNotice : exitNotice.isInitiating = true :=
  isInitiating_of_method? method?_exitNotice (by decide)

theorem IsCall.ne {message other : Json} {method : String} (isCall : IsCall message)
    (is : other.method? = some method)
    (reserved : method = greetingMethod ∨ method = "initialized" ∨ method = "shutdown" ∨
      method = "exit") : message ≠ other := by
  rintro rfl
  obtain ⟨c, id, rfl⟩ := isCall
  obtain ⟨greeting, ready, shutdown, exit, -⟩ := name_ne c.method
  rw [method?_callMessage, Option.some.injEq] at is
  rcases reserved with rfl | rfl | rfl | rfl <;> contradiction

/-- Has the server been heard to agree to a request? -/
def Agreed (heard : List Json) (id : RequestId) : Prop :=
  ∃ message ∈ heard, ∃ body answer, Incoming.ofJson? message = some (.response id body) ∧
    Connection.resultOf body = .ok answer

/-- A conversation that has begun: greeting, notice and calls. -/
def Begun (heard messages : List Json) : Prop :=
  ∃ params calls, (∀ message ∈ calls, IsCall message) ∧ Agreed heard 1 ∧
    messages = greeting params :: readyNotice :: calls

/-- What a conversation may have consisted of. -/
inductive Spoken (heard : List Json) : List Json → Prop
  | nothing : Spoken heard []
  | greeted (params : Json) : Spoken heard [greeting params]
  | begun {messages : List Json} (begun : Begun heard messages) : Spoken heard messages
  | left {messages : List Json} (begun : Begun heard messages) (id : RequestId) :
      Spoken heard (messages ++ [farewell id])
  | told {messages : List Json} (begun : Begun heard messages) (id : RequestId)
      (agreed : Agreed heard id) : Spoken heard (messages ++ [farewell id, exitNotice])

/-- What a conversation has consisted of at each stage. -/
def Script (heard : List Json) : Stage → List Json → Prop
  | .idle, messages => Spoken heard messages
  | .greeting id _, messages => id = 1 ∧ ∃ params, messages = [greeting params]
  | .running, messages => Begun heard messages
  | .leaving id _, messages => ∃ before, Begun heard before ∧ messages = before ++ [farewell id]
  | .departing, messages => ∃ before id, Begun heard before ∧ Agreed heard id ∧
      (messages = before ++ [farewell id] ∨ messages = before ++ [farewell id, exitNotice])

variable {heard new messages : List Json} {stage : Stage}

theorem Agreed.more {id : RequestId} (h : Agreed heard id) (new : List Json) :
    Agreed (heard ++ new) id := by
  obtain ⟨message, here, rest⟩ := h
  exact ⟨message, List.mem_append_left _ here, rest⟩

theorem Begun.more (h : Begun heard messages) (new : List Json) :
    Begun (heard ++ new) messages := by
  obtain ⟨params, calls, are, agreed, same⟩ := h
  exact ⟨params, calls, are, agreed.more new, same⟩

theorem Spoken.more (h : Spoken heard messages) (new : List Json) :
    Spoken (heard ++ new) messages := by
  cases h with
  | nothing => exact .nothing
  | greeted params => exact .greeted params
  | begun begun => exact .begun (begun.more new)
  | left begun id => exact .left (begun.more new) id
  | told begun id agreed => exact .told (begun.more new) id (agreed.more new)

theorem Script.more (h : Script heard stage messages) (new : List Json) :
    Script (heard ++ new) stage messages := by
  cases stage with
  | idle => exact Spoken.more h new
  | greeting => exact h
  | running => exact Begun.more h new
  | leaving =>
    obtain ⟨before, begun, same⟩ := h
    exact ⟨before, begun.more new, same⟩
  | departing =>
    obtain ⟨before, id, begun, agreed, same⟩ := h
    exact ⟨before, id, begun.more new, agreed.more new, same⟩

/-- A conversation may end at any stage. -/
theorem Script.spoken (h : Script heard stage messages) : Spoken heard messages := by
  cases stage with
  | idle => exact h
  | greeting =>
    obtain ⟨-, params, rfl⟩ := h
    exact .greeted params
  | running => exact .begun h
  | leaving id =>
    obtain ⟨before, begun, rfl⟩ := h
    exact .left begun id
  | departing =>
    obtain ⟨before, id, begun, agreed, rfl | rfl⟩ := h
    · exact .left begun id
    · exact .told begun id agreed

theorem Begun.calls (h : Begun heard messages) (more : ∀ message ∈ new, IsCall message) :
    Begun heard (messages ++ new) := by
  obtain ⟨params, calls, are, agreed, rfl⟩ := h
  refine ⟨params, calls ++ new, fun message here => ?_, agreed, rfl⟩
  rcases List.mem_append.1 here with here | here
  · exact are message here
  · exact more message here

theorem Begun.exitNotice_not_mem (h : Begun heard messages) : exitNotice ∉ messages := by
  obtain ⟨params, calls, are, -, rfl⟩ := h
  intro here
  rcases List.mem_cons.1 here with same | here
  · exact absurd (congrArg Json.method? same) (by simp [greetingMethod])
  · rcases List.mem_cons.1 here with same | here
    · exact absurd (congrArg Json.method? same) (by simp)
    · exact (are _ here).ne method?_exitNotice (by simp) rfl

theorem exitNotice_ne_farewell (id : RequestId) : exitNotice ≠ farewell id :=
  fun same => absurd (congrArg Json.method? same) (by simp)

namespace Spoken

/-- There is one greeting, one notice, one farewell and at most one word to exit. -/
theorem in_order (h : Spoken heard messages) :
    ∃ params calls id, (∀ message ∈ calls, IsCall message) ∧
      messages <+: greeting params :: readyNotice :: (calls ++ [farewell id, exitNotice]) := by
  have order {before after : List Json} (begun : Begun heard before) (id : RequestId)
      (rest : after <+: [farewell id, exitNotice]) :
      ∃ params calls id, (∀ message ∈ calls, IsCall message) ∧
        before ++ after <+: greeting params :: readyNotice :: (calls ++ [farewell id, exitNotice]) := by
    obtain ⟨params, calls, are, -, rfl⟩ := begun
    refine ⟨params, calls, id, are, ?_⟩
    simpa using rest
  cases h with
  | nothing => exact ⟨.null, [], 0, by simp, List.nil_prefix⟩
  | greeted params => exact ⟨params, [], 0, by simp, by simp⟩
  | begun begun => simpa using order begun 0 List.nil_prefix
  | left begun id => exact order begun id (by simp)
  | told begun id => exact order begun id (List.prefix_refl _)

/-- The server has agreed before it is told that it can begin. -/
theorem agreed_of_ready (h : Spoken heard messages) (ready : readyNotice ∈ messages) :
    Agreed heard 1 := by
  cases h with
  | nothing => simp at ready
  | greeted params =>
    exact absurd (congrArg Json.method? (List.mem_singleton.1 ready)) (by simp [greetingMethod])
  | begun begun | left begun | told begun =>
    obtain ⟨-, -, -, agreed, -⟩ := begun
    exact agreed

/-- The server has agreed to shut down before it is told to exit. -/
theorem agreed_of_exit (h : Spoken heard messages) (exit : exitNotice ∈ messages) :
    ∃ id, farewell id ∈ messages ∧ Agreed heard id := by
  cases h with
  | nothing => simp at exit
  | greeted params =>
    exact absurd (congrArg Json.method? (List.mem_singleton.1 exit)) (by simp [greetingMethod])
  | begun begun => exact absurd exit begun.exitNotice_not_mem
  | left begun id =>
    rcases List.mem_append.1 exit with exit | exit
    · exact absurd exit begun.exitNotice_not_mem
    · exact absurd (List.mem_singleton.1 exit) (exitNotice_ne_farewell id)
  | told begun id agreed => exact ⟨id, by simp, agreed⟩

end Spoken

namespace Dialogue

variable {w w' : Dialogue} {next : Move}

/-- What is queued was said, and leaves the queue only into the process or with the writer. -/
structure Flows (w : Dialogue) : Prop where
  flow : w.server.wire.connection.writes = true →
    w.written ++ w.server.wire.connection.queue = w.queued
  silent : w.server.wire.connection.writes = false → w.server.wire.connection.queue = []
  handed : w.written <+: w.queued

namespace Flows

theorem of_utters (h : w.Flows)
    (utters : w.server.wire.connection.Utters w'.server.wire.connection messages heard)
    (queued : w'.queued = w.queued ++ messages) (written : w'.written = w.written) : w'.Flows where
  flow writes := by
    rw [utters.queue, queued, written, ← h.flow (utters.writes ▸ writes), List.append_assoc]
  silent dead := by
    have dead := utters.writes ▸ dead
    rw [utters.queue, h.silent dead, utters.silent dead, List.append_nil]
  handed := by
    rw [queued, written]
    exact h.handed.trans (List.prefix_append ..)

theorem of_silence (h : w.Flows) (writes : w'.server.wire.connection.writes = false)
    (queue : w'.server.wire.connection.queue = []) (queued : w'.queued = w.queued)
    (written : w'.written = w.written) : w'.Flows where
  flow alive := by simp [writes] at alive
  silent _ := queue
  handed := by rw [queued, written]; exact h.handed

theorem of_voices (h : w.Flows) (voices : Voices w.server w'.server)
    (records : Records w w' (said w.server w'.server) [] []) : w'.Flows := by
  have queued := records.queued
  have written : w'.written = w.written := by simp [records.written]
  rcases voices with ⟨messages, utters⟩ | down
  · rw [said_of_utters utters] at queued
    exact h.of_utters utters queued written
  · rw [said_of_isDown down, List.append_nil] at queued
    exact h.of_silence down.writes down.queue queued written

end Flows

theorem Change.flows (change : Change next w w') (h : w.Flows) : w'.Flows := by
  cases change with
  | spoke messages new speaks _ records =>
    exact h.of_utters speaks.utters records.queued (by simp [records.written])
  | handed message rest _ queue connection records =>
    have writes : w.server.wire.connection.writes = true := by
      by_contra dead
      simp [h.silent (Bool.eq_false_iff.2 dead)] at queue
    have flow : w'.written ++ w'.server.wire.connection.queue = w'.queued := by
      rw [connection, records.written, records.queued, List.append_nil, ← h.flow writes, queue,
        List.append_assoc, List.singleton_append]
    exact ⟨fun _ => flow, fun dead => by simp [connection, writes] at dead,
      flow ▸ List.prefix_append ..⟩
  | silenced _ connection records =>
    exact h.of_silence (by rw [connection]; rfl) (by rw [connection]; rfl)
      (by simp [records.queued]) (by simp [records.written])
  | proceeded _ _ proceeds records => exact h.of_voices proceeds.voices records
  | dismissed _ dismisses _ records => exact h.of_voices dismisses.voices records
  | began _ _ _ _ starts queued written =>
    refine ⟨fun _ => by rw [written, queued, List.nil_append], fun dead => ?_,
      by rw [written]; exact List.nil_prefix⟩
    cases starts with
    | greeted _ _ _ _ _ writes => simp [writes] at dead
    | unlaunched _ same =>
      rw [same] at dead ⊢
      exact h.silent dead

theorem flows_run (h : w.Flows) (moves : List Move) : (w.run moves).Flows :=
  run_induction (fun w next _ => (w.change_move next).flows) h

/-- The messages queued so far that began something. -/
def initiated (w : Dialogue) : List Json := w.queued.filter Json.isInitiating

/-- The conversation goes as it should. -/
structure Proper (w : Dialogue) : Prop where
  script : Script w.heard w.server.stage w.initiated
  /-- What lies there to be looked at was heard. -/
  arrived : w.server.stage ≠ .idle → ∀ a ∈ w.server.wire.connection.arrived,
    ∃ message ∈ w.heard, Incoming.ofJson? message = some (.response a.1 a.2)
  greets : ∀ id options, w.server.stage = .greeting id options → w.isDismissed = false
  gate : w.server.middleware.connected = true →
    w.server.stage = .running ∧ w.isDismissed = false
  /-- After a start that failed nothing was begun but perhaps the greeting. -/
  failed : ∀ cause, w.server.startResult = some (.error cause) →
    w.server.stage = .idle ∧ ∀ message ∈ w.initiated, ∃ params, message = greeting params
  /-- Nothing more is begun when a conversation is over. -/
  rest : w.server.stage = .idle →
    w.server.wire.connection.queue.filter Json.isInitiating = []

theorem initiated_of_queued (queued : w'.queued = w.queued ++ messages) :
    w'.initiated = w.initiated ++ messages.filter Json.isInitiating := by
  rw [initiated, queued, List.filter_append]
  rfl

theorem filter_of_fitting {s : Server} (fitting : s.Fitting messages)
    (other : s.stage ≠ .running) : messages.filter Json.isInitiating = [] := by
  rw [List.filter_eq_nil_iff]
  intro message here begins
  exact other (fitting message here begins).1

namespace Proper

theorem agreed (h : w.Proper) {id : RequestId} (going : w.server.stage ≠ .idle)
    (agrees : w.server.Agrees id) : Agreed w.heard id := by
  obtain ⟨body, answer, here, is⟩ := agrees
  obtain ⟨message, told, response⟩ := h.arrived going _ here
  exact ⟨message, told, body, answer, response, is⟩

theorem arrived_of_utters (h : w.Proper) (going : w.server.stage ≠ .idle)
    (utters : w.server.wire.connection.Utters w'.server.wire.connection messages new)
    (heard : w'.heard = w.heard ++ new) :
    ∀ a ∈ w'.server.wire.connection.arrived,
      ∃ message ∈ w'.heard, Incoming.ofJson? message = some (.response a.1 a.2) := by
  intro a here
  rw [heard]
  rcases utters.arrived a here with here | ⟨message, here, is⟩
  · obtain ⟨message, here, is⟩ := h.arrived going a here
    exact ⟨message, List.mem_append_left _ here, is⟩
  · exact ⟨message, List.mem_append_right _ here, is⟩

/-- Messages that leave the conversation as far as it was. -/
theorem of_speaks (h : w.Proper) (speaks : Speaks w.server w'.server messages new)
    (fitting : w.server.Fitting messages) (queued : w'.queued = w.queued ++ messages)
    (heard : w'.heard = w.heard ++ new) (isDismissed : w'.isDismissed = w.isDismissed) :
    w'.Proper := by
  have initiated := initiated_of_queued queued
  have same (other : w.server.stage ≠ .running) : w'.initiated = w.initiated := by
    rw [initiated, filter_of_fitting fitting other, List.append_nil]
  constructor
  · rw [speaks.stage, heard]
    by_cases running : w.server.stage = .running
    · have script := h.script
      rw [running] at script ⊢
      rw [initiated]
      refine Begun.calls (Begun.more script new) fun message here => ?_
      obtain ⟨here, begins⟩ := List.mem_filter.1 here
      exact (fitting message here begins).2
    · rw [same running]
      exact h.script.more new
  · intro going
    exact h.arrived_of_utters (speaks.stage ▸ going) speaks.utters heard
  · rw [speaks.stage, isDismissed]
    exact h.greets
  · rw [speaks.connected, speaks.stage, isDismissed]
    exact h.gate
  · intro cause failed
    obtain ⟨idle, only⟩ := h.failed cause (speaks.startResult ▸ failed)
    exact ⟨speaks.stage.trans idle, by simpa [same, idle] using only⟩
  · intro idle
    have idle := speaks.stage ▸ idle
    rw [speaks.utters.queue, List.filter_append, h.rest idle,
      filter_of_fitting fitting (by simp [idle]), List.append_nil]

/-- The queue gets shorter. -/
theorem of_keeps (h : w.Proper) (keeps : Keeps w.server w'.server)
    (queue : w'.server.wire.connection.queue.Sublist w.server.wire.connection.queue)
    (arrived : w'.server.wire.connection.arrived = w.server.wire.connection.arrived)
    (queued : w'.queued = w.queued) (heard : w'.heard = w.heard)
    (isDismissed : w'.isDismissed = w.isDismissed) : w'.Proper where
  script := by
    rw [keeps.stage, heard, initiated, queued]
    exact h.script
  arrived := by
    rw [keeps.stage, arrived, heard]
    exact h.arrived
  greets := by
    rw [keeps.stage, isDismissed]
    exact h.greets
  gate := by
    rw [keeps.connected, keeps.stage, isDismissed]
    exact h.gate
  failed := by
    rw [keeps.startResult, keeps.stage, initiated, queued]
    exact h.failed
  rest idle := by
    have none := h.rest (keeps.stage ▸ idle)
    exact List.sublist_nil.1 (none ▸ queue.filter Json.isInitiating)

/-- The connection is closed. -/
theorem of_isDown (h : w.Proper) (down : w'.server.IsDown) (queued : w'.queued = w.queued)
    (heard : w'.heard = w.heard)
    (connected : w'.server.middleware.connected = true →
      w.server.middleware.connected = true ∧ w.server.stage ≠ .running)
    (failed : ∀ cause, w'.server.startResult = some (.error cause) →
      ∀ message ∈ w.initiated, ∃ params, message = greeting params) : w'.Proper where
  script := by
    rw [down.stage, heard, initiated, queued]
    exact h.script.spoken
  arrived going := absurd down.stage going
  greets id options is := by simp [down.stage] at is
  gate isOpen := by
    obtain ⟨isOpen, other⟩ := connected isOpen
    exact absurd (h.gate isOpen).1 other
  failed cause is := ⟨down.stage, by rw [initiated, queued]; exact failed cause is⟩
  rest _ := by rw [down.queue, List.filter_nil]

end Proper

/-- A conversation goes on as far as the server agrees. -/
theorem Proper.proceeds (h : w.Proper) (proceeds : Proceeds w.server w'.server)
    (queued : w'.queued = w.queued ++ said w.server w'.server) (heard : w'.heard = w.heard)
    (isDismissed : w'.isDismissed = w.isDismissed) : w'.Proper := by
  have more (going : w.server.stage ≠ .idle) {messages : List Json}
      (utters : w.server.wire.connection.Utters w'.server.wire.connection messages []) :=
    h.arrived_of_utters going utters (by rw [heard, List.append_nil])
  have shut (other : w.server.stage ≠ .running)
      (connected : w'.server.middleware.connected = w.server.middleware.connected)
      (is : w'.server.middleware.connected = true) :
      w.server.middleware.connected = true ∧ w.server.stage ≠ .running := ⟨connected ▸ is, other⟩
  have script := h.script
  cases proceeds with
  | opened id options greeting agrees stage connected startResult utters =>
    rw [said_of_utters utters] at queued
    rw [greeting] at script
    obtain ⟨rfl, params, begun⟩ := script
    have agreed := h.agreed (by simp [greeting]) agrees
    refine ⟨?_, fun _ => more (by simp [greeting]) utters, by simp [stage],
      fun _ => ⟨stage, isDismissed.trans (h.greets 1 options greeting)⟩, by simp [startResult], ?_⟩
    · rw [stage, heard, initiated_of_queued queued, begun]
      exact ⟨params, [], by simp, agreed, by simp⟩
    · simp [stage]
  | refused id options greeting connected down =>
    rw [said_of_isDown down, List.append_nil] at queued
    rw [greeting] at script
    obtain ⟨-, params, begun⟩ := script
    refine h.of_isDown down queued heard (shut (by simp [greeting]) connected) fun _ _ => ?_
    simp [begun]
  | told id due leaving agrees stage connected startResult utters =>
    rw [said_of_utters utters] at queued
    rw [leaving] at script
    obtain ⟨before, begun, same⟩ := script
    have agreed := h.agreed (by simp [leaving]) agrees
    refine ⟨?_, fun _ => more (by simp [leaving]) utters, by simp [stage], fun is => ?_,
      fun cause is => ?_, ?_⟩
    · rw [stage, heard, initiated_of_queued queued, same]
      refine ⟨before, id, begun, agreed, ?_⟩
      unfold Connection.taken
      split <;> simp
    · simpa [leaving] using (h.gate (connected ▸ is)).1
    · simpa [leaving] using (h.failed cause (startResult ▸ is)).1
    · simp [stage]
  | ended going connected startResult down =>
    rw [said_of_isDown down, List.append_nil] at queued
    have other : w.server.stage ≠ .running ∧ w.server.stage ≠ .idle := by
      rcases going with going | ⟨id, due, going⟩ <;> simp [going]
    exact h.of_isDown down queued heard (shut other.1 connected) fun cause is =>
      absurd (h.failed cause (startResult ▸ is)).1 other.2
  | rest same =>
    have speaks : Speaks w.server w'.server [] [] := same ▸ speaks_rfl
    rw [said_of_utters speaks.utters] at queued
    exact h.of_speaks speaks fitting_nil queued (by simp [heard]) isDismissed

/-- The end of a conversation was asked for. -/
theorem Proper.dismisses (h : w.Proper)
    (isStarted : ∀ id options, w.server.stage ≠ .greeting id options)
    (dismisses : Dismisses w.server w'.server)
    (connected : w'.server.middleware.connected = false)
    (queued : w'.queued = w.queued ++ said w.server w'.server) (heard : w'.heard = w.heard) :
    w'.Proper := by
  cases dismisses with
  | left running id due stage startResult utters =>
    rw [said_of_utters utters] at queued
    have script := h.script
    rw [running] at script
    refine ⟨?_, fun _ => ?_, by simp [stage], by simp [connected], fun cause is => ?_,
      by simp [stage]⟩
    · rw [stage, heard, initiated_of_queued queued]
      exact ⟨w.initiated, script, by simp⟩
    · exact h.arrived_of_utters (by simp [running]) utters (by simp [heard])
    · simpa [running] using (h.failed cause (startResult ▸ is)).1
  | failed running startResult down =>
    rw [said_of_isDown down, List.append_nil] at queued
    refine h.of_isDown down queued heard (by simp [connected]) fun cause is => ?_
    exact (h.failed cause (startResult ▸ is)).2
  | unheeded other stage startResult wire =>
    have utters : w.server.wire.connection.Utters w'.server.wire.connection [] [] :=
      wire ▸ Connection.utters_rfl
    rw [said_of_utters utters, List.append_nil] at queued
    have same : w'.initiated = w.initiated := by rw [initiated, queued, initiated]
    refine ⟨?_, ?_, fun id options is => absurd (stage ▸ is) (isStarted id options),
      by simp [connected], ?_, ?_⟩
    · rw [stage, heard, same]
      exact h.script
    · rw [stage, wire, heard]
      exact h.arrived
    · rw [startResult, stage, same]
      exact h.failed
    · rw [stage, wire]
      exact h.rest

/-- A new conversation begins, or cannot. -/
theorem Proper.starts (h : w.Proper) (idle : w.server.stage = .idle)
    (starts : Starts w.server w'.server)
    (queued : w'.queued = w'.server.wire.connection.queue)
    (isDismissed : w'.isDismissed = false) : w'.Proper := by
  have shut : w.server.middleware.connected = true → False := fun isOpen => by
    simpa [idle] using (h.gate isOpen).1
  cases starts with
  | greeted params options stage connected startResult _ queue arrived =>
    refine ⟨?_, by simp [arrived], fun _ _ _ => isDismissed,
      fun isOpen => (shut (connected ▸ isOpen)).elim, by simp [startResult], by simp [stage]⟩
    rw [stage, initiated, queued, queue]
    exact ⟨rfl, params, by simp⟩
  | unlaunched cause same =>
    have none : w'.initiated = [] := by
      rw [initiated, queued, same]
      exact h.rest idle
    refine ⟨?_, by simp [same, idle], fun _ _ _ => isDismissed, fun isOpen => ?_, fun _ _ => ?_, ?_⟩
    · rw [none, same]
      simp only [idle]
      exact .nothing
    · rw [same] at isOpen
      exact (shut isOpen).elim
    · simp [same, idle, none]
    · rw [same]
      exact h.rest

theorem Change.proper (change : Change next w w') (h : w.Proper) : w'.Proper := by
  cases change with
  | spoke messages new speaks fitting records isDismissed =>
    exact h.of_speaks speaks fitting records.queued records.heard isDismissed
  | handed message rest keeps queue connection records isDismissed =>
    have shorter : w'.server.wire.connection.queue.Sublist w.server.wire.connection.queue := by
      rw [queue, connection]
      exact List.sublist_cons_self message rest
    exact h.of_keeps keeps shorter (by rw [connection]) (by simp [records.queued])
      (by simp [records.heard]) isDismissed
  | silenced keeps connection records isDismissed =>
    refine h.of_keeps keeps ?_ (by rw [connection]; rfl) (by simp [records.queued])
      (by simp [records.heard]) isDismissed
    rw [connection]
    exact List.nil_sublist _
  | proceeded _ _ proceeds records isDismissed =>
    exact h.proceeds proceeds records.queued (by simp [records.heard]) isDismissed
  | dismissed isStarted dismisses connected records =>
    exact h.dismisses isStarted dismisses connected records.queued (by simp [records.heard])
  | began _ _ _ idle starts queued _ _ isDismissed => exact h.starts idle starts queued isDismissed

theorem proper_opening (variant : Variant) (chain : List (Interceptor Flow)) :
    (opening variant chain).Proper := by
  constructor <;> simp [opening]
  exact .nothing

theorem proper_run (h : w.Proper) (moves : List Move) : (w.run moves).Proper :=
  run_induction (fun w next _ => (w.change_move next).proper) h

theorem flows_opening (variant : Variant) (chain : List (Interceptor Flow)) :
    (opening variant chain).Flows := by
  constructor <;> simp [opening]

end Dialogue

end LanguageBroker.Server
