import LanguageBroker.Proofs.Conversations
import Mathlib

/-!
The word to exit. It is queued once the server has agreed to shut down, and the connection is closed
in the conversation's next turn; the writer's turns come in between or they do not. What is in the
queue by then is lost.
-/

namespace LanguageBroker.Server.Dialogue

variable {w w' : Dialogue} {next : Move} {source : SettingsSource}

/-- Does a move leave the conversation to those that are under way? -/
def Move.isMeanwhile : Move → Bool
  | .start .. | .act .conversation _ => false
  | _ => true

def Move.isStart : Move → Bool
  | .start .. => true
  | _ => false

/-- Nothing is handed to a process once the writer has stopped. -/
theorem Change.silent (change : Change next w w') (h : w.Flows)
    (stopped : w.server.wire.connection.writes = false) (other : next.isStart = false) :
    w'.server.wire.connection.writes = false ∧ w'.written = w.written := by
  have voiced (voices : Voices w.server w'.server) : w'.server.wire.connection.writes = false := by
    rcases voices with ⟨_, utters⟩ | down
    · exact utters.writes.trans stopped
    · exact down.writes
  cases change with
  | spoke _ _ speaks _ records =>
    exact ⟨speaks.utters.writes.trans stopped, by simp [records.written]⟩
  | handed message rest _ queue => simp [h.silent stopped] at queue
  | silenced _ connection records => exact ⟨by rw [connection]; rfl, by simp [records.written]⟩
  | proceeded _ _ proceeds records => exact ⟨voiced proceeds.voices, by simp [records.written]⟩
  | dismissed _ dismisses _ records => exact ⟨voiced dismisses.voices, by simp [records.written]⟩
  | began _ _ acts => simp [acts, Move.isStart] at other

theorem written_run_of_stopped (h : w.Flows) (stopped : w.server.wire.connection.writes = false)
    {later : List Move} (others : ∀ next ∈ later, next.isStart = false) :
    (w.run later).written = w.written := by
  have kept : (w.run later).Flows ∧ (w.run later).server.wire.connection.writes = false ∧
      (w.run later).written = w.written := by
    refine run_induction (P := fun v => v.Flows ∧ v.server.wire.connection.writes = false ∧
      v.written = w.written) (fun v next here kept => ?_) ⟨h, stopped, rfl⟩
    obtain ⟨flows, stopped, same⟩ := kept
    have change := v.change_move next
    obtain ⟨stopped, same'⟩ := change.silent flows stopped (others next here)
    exact ⟨change.flows flows, stopped, same'.trans same⟩
  exact kept.2.2

/-- A server that was told to exit is waited for until the conversation's turn comes. -/
theorem Change.departing (change : Change next w w') (departing : w.server.stage = .departing)
    (meanwhile : next.isMeanwhile) : w'.server.stage = .departing := by
  cases change with
  | spoke _ _ speaks => exact speaks.stage.trans departing
  | handed _ _ keeps | silenced keeps => exact keeps.stage.trans departing
  | proceeded _ acts => simp [acts, Move.isMeanwhile] at meanwhile
  | dismissed _ dismisses =>
    cases dismisses with
    | left running | failed running => simp [departing] at running
    | unheeded _ stage => exact stage.trans departing
  | began _ _ acts => simp [acts, Move.isMeanwhile] at meanwhile

theorem departing_run (departing : w.server.stage = .departing) {between : List Move}
    (meanwhile : ∀ next ∈ between, next.isMeanwhile) :
    (w.run between).server.stage = .departing :=
  run_induction (P := fun v => v.server.stage = .departing)
    (fun v next here departing => (v.change_move next).departing departing (meanwhile next here))
    departing

/-- In the conversation's turn the connection is closed. -/
theorem close_of_departing (departing : w.server.stage = .departing) (source : SettingsSource) :
    (w.move (.act .conversation source)).server.IsDown ∧
      (w.move (.act .conversation source)).written = w.written := by
  have ready : w.server.isReady w.clock .conversation = true := by
    simp [isReady, canProceed, departing]
  have closed : w.server.proceed = w.server.close := by simp [proceed, departing]
  simp only [move, ready, if_true, perform, act, closed]
  exact ⟨isDown_close _, by simp⟩

/-- The writer hands over what is in the queue, one message in each turn. -/
theorem written_of_turns {messages : List Json}
    (queue : w.server.wire.connection.queue = messages)
    (writes : w.server.wire.connection.writes = true) (reads : w.server.wire.serverReads = true)
    (source : SettingsSource) :
    (w.run (List.replicate messages.length (.act .writer source))).written
      = w.written ++ messages := by
  induction messages generalizing w with
  | nil => simp [run_nil]
  | cons message rest ih =>
    have turn : w.move (.act .writer source) = w.perform .writer source := by
      simp [move, isReady, Wire.hasOutput, queue, writes]
    have step : (w.perform .writer source).written = w.written ++ [message] := by
      simp [perform, act, Wire.write, Connection.next?, queue, reads]
    rw [List.length_cons, List.replicate_succ, run_cons, turn]
    refine (ih ?_ ?_ ?_).trans ?_
    · simp [perform, act, Wire.write, Connection.next?, queue, reads]
    · simpa [perform, act, Wire.write, Connection.next?, queue, reads] using writes
    · simp [perform, act, Wire.write, Connection.next?, queue, reads]
    · rw [step, List.append_assoc, List.singleton_append]

theorem exitNotice_not_mem_of_leaving (h : w.Proper) {id : RequestId} {due : Deadline}
    (leaving : w.server.stage = .leaving id due) : exitNotice ∉ w.queued := by
  intro here
  have script := h.script
  rw [leaving] at script
  obtain ⟨before, begun, same⟩ := script
  have here : exitNotice ∈ w.initiated := List.mem_filter.2 ⟨here, isInitiating_exitNotice⟩
  rw [same, List.mem_append, List.mem_singleton] at here
  exact here.elim begun.exitNotice_not_mem (exitNotice_ne_farewell id)

/-- A server that agrees to shut down is told to exit: the notice is queued behind all else. -/
theorem told_of_leaving {id : RequestId} {due : Deadline} {answer : Json}
    (leaving : w.server.stage = .leaving id due)
    (agreed : w.server.wire.connection.answer? id = some (.ok answer))
    (writes : w.server.wire.connection.writes = true) (source : SettingsSource) :
    let told := w.move (.act .conversation source)
    told.server.stage = .departing ∧
      told.server.wire.connection.queue = w.server.wire.connection.queue ++ [exitNotice] ∧
      told.server.wire.connection.writes = true ∧
      told.server.wire.serverReads = w.server.wire.serverReads ∧
      told.queued = w.queued ++ [exitNotice] ∧ told.written = w.written := by
  have ready : w.server.isReady w.clock .conversation = true := by
    simp [isReady, canProceed, leaving, agreed]
  have utters := w.server.wire.connection.utters_notify "exit" .null
  have proceed : w.server.proceed =
      { w.server.reconnect (w.server.wire.connection.notify "exit" .null).1 with
        stage := .departing } := by
    simp [Server.proceed, leaving, agreed, endLeaving]
  rw [Connection.taken, if_pos writes] at utters
  have said : w.server.said w.server.proceed = [exitNotice] := by
    rw [proceed]
    exact said_of_utters utters
  simp only [move, ready, if_true, perform, act]
  rw [said, proceed]
  exact ⟨rfl, utters.queue, utters.writes.trans writes, rfl, rfl, List.append_nil _⟩

theorem Change.keeps_queued (change : Change next w w') (other : next.isStart = false) :
    w.queued <+: w'.queued := by
  cases change with
  | spoke _ _ _ _ records | handed _ _ _ _ _ records | silenced _ _ records
  | proceeded _ _ _ records | dismissed _ _ _ records =>
    exact records.queued ▸ List.prefix_append ..
  | began _ _ acts => simp [acts, Move.isStart] at other

theorem keeps_queued_run (w : Dialogue) {moves : List Move}
    (others : ∀ next ∈ moves, next.isStart = false) : w.queued <+: (w.run moves).queued :=
  run_induction (P := fun v => w.queued <+: v.queued)
    (fun v next here kept => kept.trans ((v.change_move next).keeps_queued (others next here)))
    (List.prefix_refl _)

theorem isStart_of_isMeanwhile (meanwhile : next.isMeanwhile) : next.isStart = false := by
  cases next <;> simp_all [Move.isMeanwhile, Move.isStart]

/-- Does the message tell the server to exit? -/
def isExit (message : Json) : Bool := message.method? == some "exit"

theorem isExit_exitNotice : isExit exitNotice = true := by simp [isExit]

theorem countP_isExit_of_begun {heard messages : List Json} (begun : Begun heard messages) :
    messages.countP isExit = 0 := by
  obtain ⟨params, calls, are, -, rfl⟩ := begun
  have none : calls.countP isExit = 0 := by
    rw [List.countP_eq_zero]
    intro message here
    obtain ⟨c, id, rfl⟩ := are message here
    simpa [isExit] using (name_ne c.method).2.2.2.1
  simp [isExit, greetingMethod, none]

/-- The notice is queued once only. -/
theorem countP_isExit_queued (h : w.Proper) (departing : w.server.stage = .departing) :
    w.queued.countP isExit ≤ 1 := by
  have same : w.queued.countP isExit = w.initiated.countP isExit := by
    rw [initiated, List.countP_filter]
    refine List.countP_congr fun message _ => ?_
    simp only [isExit, beq_iff_eq, Bool.and_eq_true]
    exact ⟨fun is => ⟨is, isInitiating_of_method? is (by decide)⟩, And.left⟩
  have script := h.script
  rw [departing] at script
  obtain ⟨before, id, begun, -, either⟩ := script
  rw [same]
  rcases either with all | all <;> rw [all, List.countP_append, countP_isExit_of_begun begun] <;>
    simp [isExit]

theorem exitNotice_handed_iff (flows : w.Flows) (proper : w.Proper)
    (departing : w.server.stage = .departing) (queued : exitNotice ∈ w.queued)
    (writes : w.server.wire.connection.writes = true) :
    exitNotice ∈ w.written ↔ exitNotice ∉ w.server.wire.connection.queue := by
  have flow := flows.flow writes
  have once := countP_isExit_queued proper departing
  rw [← flow, List.countP_append] at once
  rw [← flow, List.mem_append] at queued
  constructor
  · intro written waiting
    have := List.countP_pos_iff.2 ⟨exitNotice, written, isExit_exitNotice⟩
    have := List.countP_pos_iff.2 ⟨exitNotice, waiting, isExit_exitNotice⟩
    omega
  · exact queued.resolve_right

/-- When a live server has agreed to shut down, the word to exit is queued behind all else. It
reaches the server if and only if the writer has handed it over by the time the conversation's turn
comes again, and never does when that turn comes at once; a server that reads gets it if the writer
has its turns first. -/
theorem exit_needs_writer (variant : Variant) (chain : List (Interceptor Flow)) (moves : List Move)
    (source : SettingsSource) {id : RequestId} {due : Deadline} {answer : Json}
    (leaving : ((opening variant chain).run moves).server.stage = .leaving id due)
    (agreed : ((opening variant chain).run moves).server.wire.connection.answer? id
      = some (.ok answer))
    (writes : ((opening variant chain).run moves).server.wire.connection.writes = true) :
    let w := (opening variant chain).run moves
    let told := w.move (.act .conversation source)
    (told.server.stage = .departing ∧
        told.server.wire.connection.queue = w.server.wire.connection.queue ++ [exitNotice] ∧
        exitNotice ∉ told.written) ∧
      (∀ between later : List Move, (∀ next ∈ between, next.isMeanwhile) →
        (∀ next ∈ later, next.isStart = false) →
        let waiting := told.run between
        let closed := waiting.move (.act .conversation source)
        closed.server.IsDown ∧
          (exitNotice ∈ (closed.run later).written ↔ exitNotice ∈ waiting.written) ∧
          (waiting.server.wire.connection.writes = true →
            (exitNotice ∈ waiting.written ↔
              exitNotice ∉ waiting.server.wire.connection.queue))) ∧
      (∀ later : List Move, (∀ next ∈ later, next.isStart = false) →
        exitNotice ∉ ((told.move (.act .conversation source)).run later).written) ∧
      (w.server.wire.serverReads = true →
        let turns := List.replicate (w.server.wire.connection.queue.length + 1)
          (.act .writer source)
        exitNotice ∈ (told.run turns).written) := by
  intro w told
  have proper : w.Proper := proper_run (proper_opening variant chain) moves
  have flows : w.Flows := flows_run (flows_opening variant chain) moves
  have change := w.change_move (.act .conversation source)
  have absent := exitNotice_not_mem_of_leaving proper leaving
  obtain ⟨departing, queue, alive, reads, queued, written⟩ :=
    told_of_leaving (w := w) leaving agreed writes source
  have unwritten : exitNotice ∉ told.written := fun here =>
    absent (flows.handed.subset (written ▸ here))
  have lost (between later : List Move) (meanwhile : ∀ next ∈ between, next.isMeanwhile)
      (others : ∀ next ∈ later, next.isStart = false) :
      let closed := (told.run between).move (.act .conversation source)
      closed.server.IsDown ∧ (closed.run later).written = (told.run between).written := by
    intro closed
    obtain ⟨down, same⟩ := close_of_departing (departing_run departing meanwhile) source
    have flows : closed.Flows :=
      (change_move _ _).flows (flows_run (change.flows flows) between)
    exact ⟨down, (written_run_of_stopped flows down.writes others).trans same⟩
  refine ⟨⟨departing, queue, unwritten⟩, fun between later meanwhile others => ?_,
    fun later others => ?_, fun reading => ?_⟩
  · obtain ⟨down, same⟩ := lost between later meanwhile others
    have here : exitNotice ∈ (told.run between).queued :=
      (told.keeps_queued_run fun next here => isStart_of_isMeanwhile (meanwhile next here)).subset
        (by simp [told, queued])
    exact ⟨down, by rw [same], exitNotice_handed_iff (flows_run (change.flows flows) between)
      (proper_run (change.proper proper) between) (departing_run departing meanwhile) here⟩
  · have same := (lost [] later (by simp) others).2
    rw [run_nil] at same
    exact same ▸ unwritten
  · have turns := written_of_turns queue alive (reads.trans reading) source
    rw [List.length_append, List.length_singleton] at turns
    simp [told, turns]

/-- A server's consent to a request. -/
def consent (id : RequestId) : Json := .obj [("id", .int id), ("result", .null)]

/-- An editor without settings. -/
def unset : SettingsSource := { editor := fun _ => .ok [] }

/-- A server is started, greeted and asked to shut down, and agrees to all of it. -/
def obedience : List Move :=
  [.start (.ok 1) { selector := [], folder := none, payload := .null }, .act .writer unset,
    .feed (Frame.write (consent 1)), .act .reader unset, .act .conversation unset,
    .act .writer unset, .dispose, .act .writer unset, .feed (Frame.write (consent 2)),
    .act .reader unset]

theorem agreed_obedience :
    let s := ((opening .fullB []).run obedience).server
    s.stage = .leaving 2 ⟨2000, 4⟩ ∧ s.wire.connection.answer? 2 = some (.ok .null) ∧
      s.wire.connection.writes = true ∧ s.wire.serverReads = true ∧
      s.wire.connection.queue.length = 0 := by
  cbv

theorem obedient_server_left_untold :
    let w := (opening .fullB []).run obedience
    let told := w.move (.act .conversation unset)
    (w.server.stage = .leaving 2 ⟨2000, 4⟩ ∧
        w.server.wire.connection.answer? 2 = some (.ok .null) ∧
        w.server.wire.connection.writes = true ∧ w.server.wire.serverReads = true) ∧
      exitNotice ∉ (told.move (.act .conversation unset)).written ∧
      exitNotice ∈ (told.move (.act .writer unset)).written := by
  obtain ⟨leaving, agreed, writes, reads, empty⟩ := agreed_obedience
  obtain ⟨-, -, lost, handed⟩ := exit_needs_writer .fullB [] obedience unset leaving agreed writes
  have handed := handed reads
  rw [empty] at handed
  exact ⟨⟨leaving, agreed, writes, reads⟩, lost [] (by simp), handed⟩

end LanguageBroker.Server.Dialogue
