import LanguageBroker.Proofs.CallReports
import LanguageBroker.Proofs.FramedMessages
import LanguageBroker.Proofs.SettledShapes
import Mathlib.Data.List.ModifyLast

/-!
What a server finds, on its way to the editor. Each notice that the reader takes in is let through
or turned away as the gate then stands, and the reader takes in no other before it has come to its
end; so the editor gets the findings in the order in which they came. Behind interceptors that pass
calls on the editor gets what was let through once. It gets it as it was read a second time: the
findings are written as JSON for the interceptors, and a URI in them need not be read as the same
URI again.
-/

namespace LanguageBroker

namespace Flow

/-- There is nothing left but remarks and pauses. -/
inductive IsQuiet : Flow → Prop
  | ended (result : CallResult) : IsQuiet (.ended result)
  | remark (name : String) (method : Method) {rest : Flow} (quiet : IsQuiet rest) :
      IsQuiet (.remark name method rest)
  | pause (duration : Nat) {rest : Flow} (quiet : IsQuiet rest) : IsQuiet (.pause duration rest)

/-- The server is reached once, with that call. -/
inductive Carries (call : Call) : Flow → Prop
  | reach {rest : CallResult → Flow} (quiet : ∀ result, (rest result).IsQuiet) :
      Carries call (.reach call rest)
  | remark (name : String) (method : Method) {rest : Flow} (carries : Carries call rest) :
      Carries call (.remark name method rest)
  | pause (duration : Nat) {rest : Flow} (carries : Carries call rest) :
      Carries call (.pause duration rest)

/-- Remarks and pauses before another flow and after it, and perhaps another result. -/
inductive Surrounds (inner : Flow) : Flow → Prop
  | within {k : CallResult → Flow} (quiet : ∀ result, (k result).IsQuiet) :
      Surrounds inner (inner.andThen k)
  | remark (name : String) (method : Method) {rest : Flow} (surrounds : Surrounds inner rest) :
      Surrounds inner (.remark name method rest)
  | pause (duration : Nat) {rest : Flow} (surrounds : Surrounds inner rest) :
      Surrounds inner (.pause duration rest)

variable {call : Call} {flow inner : Flow} {k : CallResult → Flow}

theorem andThen_ended (flow : Flow) : flow.andThen .ended = flow := by
  induction flow with
  | ended result => rfl
  | remark name method rest ih => rw [andThen, ih]
  | pause duration rest ih => rw [andThen, ih]
  | reach call rest ih => simp [andThen, ih]

theorem surrounds_rfl (flow : Flow) : Surrounds flow flow := by
  have whole : Surrounds flow (flow.andThen .ended) := .within .ended
  rwa [andThen_ended] at whole

theorem IsQuiet.andThen (quiet : flow.IsQuiet) (later : ∀ result, (k result).IsQuiet) :
    (flow.andThen k).IsQuiet := by
  induction quiet with
  | ended result => exact later result
  | remark name method _ ih => exact .remark name method ih
  | pause duration _ ih => exact .pause duration ih

theorem Carries.andThen (carries : Carries call flow) (later : ∀ result, (k result).IsQuiet) :
    Carries call (flow.andThen k) := by
  induction carries with
  | reach quiet => exact .reach fun result => (quiet result).andThen later
  | remark name method _ ih => exact .remark name method ih
  | pause duration _ ih => exact .pause duration ih

theorem Carries.surrounded (carries : Carries call inner) (surrounds : Surrounds inner flow) :
    Carries call flow := by
  induction surrounds with
  | within quiet => exact carries.andThen quiet
  | remark name method _ ih => exact .remark name method ih
  | pause duration _ ih => exact .pause duration ih

theorem carries_server (call : Call) : Carries call (server call) := .reach .ended

end Flow

/-- The interceptor passes calls on, once and unchanged. -/
def Interceptor.PassesOn (i : Interceptor Flow) : Prop :=
  ∀ call rest, Flow.Surrounds (rest call) (i.intercept call rest)

theorem Interceptor.carries_compose {chain : List (Interceptor Flow)}
    (passing : ∀ i ∈ chain, i.PassesOn) (call : Call) :
    (compose chain Flow.server call).Carries call := by
  induction chain with
  | nil => exact Flow.carries_server call
  | cons i chain ih =>
    have later := ih fun i there => passing i (List.mem_cons_of_mem _ there)
    simp only [compose, List.foldr_cons, before]
    split
    · exact later.surrounded (passing i List.mem_cons_self call _)
    · exact later

namespace Findings

/-- The findings that a message from a server is about. -/
def heard? (message : Json) : Option Json :=
  match Incoming.ofJson? message with
  | some (.notification method params) =>
    if method = Method.publishDiagnostics.name then some params else none
  | _ => none

/-- Findings name their document themselves, so no selector keeps them back. -/
theorem claims_of_read {found params : Json} (known : read? found = some params)
    (selector : List DocumentFilter) : DocumentFilter.claims selector params = true := by
  have read := (Option.filter_eq_some_iff.1 known).1
  have unnamed : params.get? "textDocument" = none := by
    obtain ⟨ms, wrote, rfl⟩ := Shape.wrote_of_read (by simp [Shape.must, Shape.may]) read
    have distinct : (ms.map Prod.fst).Nodup := wrote.names.nodup (by decide)
    simpa [Json.object, Json.get?, Json.lookup_foldl_insertMember _ [] distinct] using
      wrote.lookup_eq_none (by decide)
  simp [DocumentFilter.claims, Json.path?, unnamed]

end Findings

namespace Server

/-- What of this the editor was told. -/
def published (sights : List Sight) : List Json :=
  sights.filterMap fun sight =>
    match sight with
    | .published params => some params
    | _ => none

@[simp] theorem published_nil : published [] = [] := rfl

@[simp] theorem published_append (sights more : List Sight) :
    published (sights ++ more) = published sights ++ published more := List.filterMap_append

inductive Notice.Fate
  | underway
  /-- It has come to its end. -/
  | through
  /-- The conversation was closed meanwhile. -/
  | cutOff
  deriving DecidableEq

/-- Findings that the reader has taken in. -/
structure Notice where
  params : Json
  /-- Was the gate open? -/
  connected : Bool
  fate : Notice.Fate
  /-- What was to be seen since then of the way to the editor. -/
  sights : List Sight := []

namespace Notice

/-- The findings are not passed on. -/
def IsRefused (n : Notice) : Prop := n.connected = false ∨ Findings.read? n.params = none

/-- What the editor is to be told: the findings, read once more. -/
def forwarded? (n : Notice) : Option Json :=
  if n.connected then (Findings.read? n.params).bind Shape.publishedDiagnostics.read else none

/-- Findings whose URIs are settled are passed on as they were read. -/
theorem forwarded?_of_settled {n : Notice} {params : Json} (connected : n.connected)
    (known : Findings.read? n.params = some params)
    (settled : ∀ s ∈ Shape.publishedDiagnostics.uris params, Uri.IsSettled s) :
    n.forwarded? = some params := by
  have again := Shape.IsPlain.diagnostics.read_again (Option.filter_eq_some_iff.1 known).1 settled
  simp [forwarded?, connected, known, again]

/-- The reader's turn was about the notice. -/
def turn (s s' : Server) (n : Notice) : Notice :=
  { n with
    fate := if s'.findings.isSome then .underway else .through
    sights := n.sights ++ s'.sights.drop s.sights.length }

end Notice

variable {s s' : Server} {clock : Clock} {p : Passage} {n : Notice}

/-! The way to the editor. -/

/-- What was to be seen stays, and there may be more to see. -/
structure Sees (s s' : Server) (gained : List Sight) : Prop where
  chain : s'.chain = s.chain
  sights : s'.sights = s.sights ++ gained

theorem published_toList_reported (event : Option TelemetryEvent) :
    published (event.map Sight.reported).toList = [] := by cases event <;> rfl

theorem published_seePassage (s : Server) (sight : Option Passage.Sight) :
    published (s.seePassage sight).sights = published s.sights := by
  unfold seePassage
  split <;> simp [see, published]

theorem sees_nothing (chain : s'.chain = s.chain) (sights : s'.sights = s.sights) :
    Sees s s' [] := ⟨chain, by rw [sights, List.append_nil]⟩

theorem sees_publish (s : Server) (params : Json) :
    ∃ gained, Sees s (s.publish params).1 gained := by
  unfold publish
  split
  · exact ⟨_, rfl, rfl⟩
  · exact ⟨[], sees_nothing rfl rfl⟩

theorem sees_seePassage (s : Server) (sight : Option Passage.Sight) :
    ∃ gained, Sees s (s.seePassage sight) gained := by
  unfold seePassage
  split
  · exact ⟨_, rfl, rfl⟩
  · exact ⟨[], sees_nothing rfl rfl⟩

theorem sees_stepFindings (s : Server) (clock : Clock) (p : Passage) :
    ∃ gained, Sees s (s.stepFindings clock p) gained := by
  unfold stepFindings
  split
  · exact ⟨_, rfl, rfl⟩
  · next c _ _ =>
    obtain ⟨gained, sees⟩ := s.sees_publish c.params
    exact ⟨gained, sees.chain, sees.sights⟩
  · obtain ⟨gained, sees⟩ :=
      sees_seePassage { s with findings := some (p.walk clock).1 } (p.walk clock).2
    exact ⟨gained, sees.chain, sees.sights⟩

theorem Sees.published (sees : Sees s s' gained) :
    Server.published s'.sights = Server.published s.sights ++ Server.published gained := by
  rw [sees.sights, published_append]

/-- What carries a call goes on to carry it, or has told the editor of it. -/
theorem stepFindings_of_carries (s : Server) (clock : Clock) {call : Call}
    (carries : p.flow.Carries call) :
    ∃ q, (s.stepFindings clock p).findings = some q ∧
      (q.flow.Carries call ∧ published (s.stepFindings clock p).sights = published s.sights ∨
        q.flow.IsQuiet ∧ published (s.stepFindings clock p).sights =
          published s.sights ++ (Shape.publishedDiagnostics.read call.params).toList) := by
  obtain ⟨method, start, flow, reached, due⟩ := p
  cases carries with
  | @reach rest quiet =>
    simp only [stepFindings, Passage.result?, Passage.atServer?, Passage.resume, publish]
    cases Shape.publishedDiagnostics.read call.params with
    | none => exact ⟨_, rfl, .inr ⟨quiet _, by simp⟩⟩
    | some params => exact ⟨_, rfl, .inr ⟨quiet _, by simp [see, published]⟩⟩
  | remark name m carries =>
    exact ⟨_, rfl, .inl ⟨carries, published_seePassage _ _⟩⟩
  | pause duration carries =>
    cases due with
    | none => exact ⟨_, rfl, .inl ⟨.pause duration carries, rfl⟩⟩
    | some due => exact ⟨_, rfl, .inl ⟨carries, rfl⟩⟩

/-- When nothing is left but remarks and pauses, the editor is told no more. -/
theorem stepFindings_of_isQuiet (s : Server) (clock : Clock) (quiet : p.flow.IsQuiet) :
    published (s.stepFindings clock p).sights = published s.sights ∧
      ∀ q, (s.stepFindings clock p).findings = some q → q.flow.IsQuiet := by
  obtain ⟨method, start, flow, reached, due⟩ := p
  cases quiet with
  | ended result =>
    refine ⟨?_, fun q found => by simp [stepFindings, Passage.result?, see] at found⟩
    simp [stepFindings, Passage.result?, see, published_toList_reported]
  | remark name m quiet =>
    refine ⟨published_seePassage _ _, fun q found => ?_⟩
    obtain rfl := Option.some.inj found
    exact quiet
  | pause duration quiet =>
    cases due with
    | none =>
      refine ⟨rfl, fun q found => ?_⟩
      obtain rfl := Option.some.inj found
      exact .pause duration quiet
    | some due =>
      refine ⟨rfl, fun q found => ?_⟩
      obtain rfl := Option.some.inj found
      exact quiet

/-- What was turned away ends, and nobody sees it. -/
theorem stepFindings_of_turnedAway (s : Server) (clock : Clock)
    (flow : p.flow = .ended (.ok none)) (unreached : p.reached = false) :
    (s.stepFindings clock p).findings = none ∧ (s.stepFindings clock p).sights = s.sights := by
  have silent : (p.leave s.middleware clock.now (.ok none)).2 = none := by
    rcases s.middleware.settle_cases p.method p.start clock.now p.reached (.ok none) with
      ⟨_, _, -, reached, -⟩ | ⟨settled, -⟩
    · simp [unreached] at reached
    · rw [Passage.leave, settled]
  simp [stepFindings, Passage.result?, flow, see, silent]

/-! What was seen of a notice. -/

namespace Notice

/-- The editor was told what it is to be told, unless the way was cut off; and nobody saw findings
that were refused. -/
structure IsHeeded (passing : Prop) (n : Notice) : Prop where
  refused : n.IsRefused → n.sights = []
  partly : passing → published n.sights = [] ∨ published n.sights = n.forwarded?.toList
  whole : passing → n.fate = .through → published n.sights = n.forwarded?.toList

/-- The findings are on their way. -/
inductive Rides (passing : Prop) (n : Notice) (p : Passage) : Prop
  | turnedAway (shut : n.connected = false) (flow : p.flow = .ended (.ok none))
      (unreached : p.reached = false) (unseen : n.sights = [])
  | admitted (params : Json) (isOpen : n.connected = true)
      (known : Findings.read? n.params = some params)
      (way : passing →
        p.flow.Carries { method := .publishDiagnostics, params } ∧ published n.sights = [] ∨
          p.flow.IsQuiet ∧ published n.sights = n.forwarded?.toList)

variable {passing : Prop}

theorem forwarded?_of_shut (shut : n.connected = false) : n.forwarded? = none := by
  simp [forwarded?, shut]

theorem forwarded?_of_open {params : Json} (isOpen : n.connected)
    (known : Findings.read? n.params = some params) :
    n.forwarded? = Shape.publishedDiagnostics.read params := by
  simp [forwarded?, isOpen, known]

theorem not_isRefused {params : Json} (isOpen : n.connected)
    (known : Findings.read? n.params = some params) : ¬ n.IsRefused := by
  simp [IsRefused, isOpen, known]

theorem Rides.isHeeded (rides : n.Rides passing p) (underway : n.fate ≠ .through) :
    n.IsHeeded passing := by
  cases rides with
  | turnedAway shut _ _ unseen =>
    exact ⟨fun _ => unseen, fun _ => .inl (by simp [unseen]), fun _ ended => absurd ended underway⟩
  | admitted params isOpen known way =>
    refine ⟨fun refused => absurd refused (not_isRefused isOpen known), fun pass => ?_,
      fun _ ended => absurd ended underway⟩
    exact (way pass).imp And.right And.right

theorem IsHeeded.cutOff (h : n.IsHeeded passing) :
    IsHeeded passing { n with fate := .cutOff } :=
  ⟨h.refused, h.partly, fun _ ended => by cases ended⟩

theorem published_turn (sees : Sees s s' gained) :
    published (n.turn s s').sights = published n.sights ++ published gained := by
  simp [turn, sees.sights]

theorem Rides.turn (rides : n.Rides passing p) (clock : Clock) :
    let s' := s.stepFindings clock p
    match s'.findings with
    | none => (n.turn s s').fate = .through ∧ (n.turn s s').IsHeeded passing
    | some q => (n.turn s s').fate = .underway ∧ (n.turn s s').Rides passing q := by
  intro s'
  obtain ⟨gained, sees⟩ := s.sees_stepFindings clock p
  have more : published (n.turn s s').sights = published n.sights ++ published gained :=
    published_turn sees
  have told := sees.published
  cases rides with
  | turnedAway shut flow unreached unseen =>
    obtain ⟨ended, same⟩ := stepFindings_of_turnedAway s clock flow unreached
    have still : (n.turn s s').sights = [] := by simp [Notice.turn, s', same, unseen]
    rw [show s'.findings = none from ended]
    refine ⟨by simp [Notice.turn, s', ended], fun _ => still, fun _ => .inl (by simp [still]),
      fun _ _ => ?_⟩
    rw [still, forwarded?_of_shut (n := n.turn s s') shut]
    rfl
  | admitted params isOpen known way =>
    have forwarded := forwarded?_of_open isOpen known
    have onward (pass : passing) :
        (∃ q, s'.findings = some q ∧
          q.flow.Carries { method := .publishDiagnostics, params } ∧
            published (n.turn s s').sights = []) ∨
        (published (n.turn s s').sights = n.forwarded?.toList ∧
          ∀ q, s'.findings = some q → q.flow.IsQuiet) := by
      rcases way pass with ⟨carries, untold⟩ | ⟨quiet, was⟩
      · obtain ⟨q, found, ⟨carries, same⟩ | ⟨quiet, same⟩⟩ :=
          stepFindings_of_carries s clock carries
        · refine .inl ⟨q, found, carries, ?_⟩
          have none := List.append_right_eq_self.1 (told.symm.trans same)
          rw [more, untold, none, List.append_nil]
        · refine .inr ⟨?_, fun r here => ?_⟩
          · rw [more, untold, List.append_cancel_left (told.symm.trans same), forwarded,
              List.nil_append]
          · obtain rfl := Option.some.inj (found.symm.trans here)
            exact quiet
      · obtain ⟨same, later⟩ := stepFindings_of_isQuiet s clock quiet
        have none := List.append_right_eq_self.1 (told.symm.trans same)
        exact .inr ⟨by rw [more, was, none, List.append_nil], later⟩
    cases after : s'.findings with
    | none =>
      refine ⟨by simp [Notice.turn, after],
        fun refused => absurd refused (not_isRefused isOpen known), fun pass => .inr ?_,
        fun pass _ => ?_⟩ <;>
      · rcases onward pass with ⟨q, found, -⟩ | ⟨same, -⟩
        · simp [after] at found
        · exact same
    | some q =>
      refine ⟨by simp [Notice.turn, after], .admitted params isOpen known fun pass => ?_⟩
      rcases onward pass with ⟨r, found, carries, same⟩ | ⟨same, quiet⟩
      · obtain rfl := Option.some.inj (after.symm.trans found)
        exact .inl ⟨carries, same⟩
      · exact .inr ⟨quiet q after, same⟩

end Notice

/-! What else goes on. -/

/-- No findings come in or go on, but they may be given up. -/
structure Aside (s s' : Server) : Prop where
  chain : s'.chain = s.chain
  findings : s'.findings = s.findings ∨ s'.findings = none
  published : published s'.sights = published s.sights

theorem aside_rfl : Aside s s := ⟨rfl, .inl rfl, rfl⟩

theorem aside_start (s : Server) (launch : Except BackendError Nat) (options : Options) :
    Aside s (s.start launch options) := by
  unfold start
  split
  · exact ⟨rfl, .inl rfl, rfl⟩
  · exact ⟨rfl, .inl rfl, rfl⟩
  · dsimp only
    split
    · exact ⟨rfl, .inl rfl, rfl⟩
    · exact ⟨rfl, .inr rfl, rfl⟩

theorem aside_dispose (s : Server) (clock : Clock) : Aside s (s.dispose clock) := by
  unfold dispose
  dsimp only
  split
  · split
    · exact ⟨rfl, .inl rfl, rfl⟩
    · exact ⟨rfl, .inr rfl, rfl⟩
  · exact ⟨rfl, .inl rfl, rfl⟩

theorem aside_endGreeting (s : Server) (options : Options) (result : Except RpcError Json) :
    Aside s (s.endGreeting options result) := by
  unfold endGreeting
  split
  · exact ⟨rfl, .inr rfl, rfl⟩
  · dsimp only
    split
    · exact ⟨rfl, .inr rfl, rfl⟩
    · exact ⟨rfl, .inl rfl, rfl⟩

theorem aside_proceed (s : Server) : Aside s s.proceed := by
  unfold proceed
  split
  · next id options _ =>
    split
    · next result _ =>
      have opened := aside_endGreeting (s.reconnect (s.wire.connection.take id)) options result
      exact ⟨opened.chain, opened.findings, opened.published⟩
    · exact aside_rfl
  · unfold endLeaving
    split
    · exact ⟨rfl, .inl rfl, rfl⟩
    · exact ⟨rfl, .inr rfl, rfl⟩
  · exact ⟨rfl, .inr rfl, rfl⟩
  · exact aside_rfl
  · exact aside_rfl

theorem aside_dispatch (s : Server) (c : Call) : Aside s (s.dispatch c).1 := by
  unfold dispatch
  split
  · split
    · split
      · exact ⟨rfl, .inl rfl, rfl⟩
      · exact aside_rfl
    · split <;> exact ⟨rfl, .inl rfl, rfl⟩
  · exact aside_rfl

theorem aside_stepVisit (s : Server) (clock : Clock) (v : Visit) :
    Aside s (s.stepVisit clock v) := by
  unfold stepVisit
  split
  · exact ⟨rfl, .inl rfl, by simp [endVisit, see, published_toList_reported]⟩
  · next c _ _ _ =>
    have dispatched := s.aside_dispatch c
    split <;>
      · next same =>
        rw [same] at dispatched
        exact ⟨dispatched.chain, dispatched.findings, dispatched.published⟩
  · split
    · unfold take
      split <;> exact ⟨rfl, .inl rfl, rfl⟩
    · unfold cancel
      dsimp only
      split <;> exact ⟨rfl, .inl rfl, rfl⟩
  · dsimp only
    refine ⟨?_, .inl ?_, published_seePassage _ _⟩ <;>
      · unfold seePassage
        split <;> rfl

theorem aside_stepQuestion (s : Server) (source : SettingsSource) (q : Question) :
    Aside s (s.stepQuestion source q) := by
  refine ⟨rfl, .inl rfl, ?_⟩
  simp only [stepQuestion, see, reconnect, published_append]
  cases (reply source q.method q.params).2 <;> simp [published]

theorem aside_act (s : Server) (source : SettingsSource) (clock : Clock) {duty : Duty}
    (other : duty ≠ .reader) : Aside s (s.act source clock duty).1 := by
  cases duty with
  | reader => exact absurd rfl other
  | writer => exact ⟨rfl, .inl rfl, rfl⟩
  | question number =>
    cases found : s.question? number with
    | none => simpa [act, found] using aside_rfl
    | some q => simpa [act, found] using s.aside_stepQuestion source q
  | conversation => exact s.aside_proceed
  | visit number =>
    cases found : s.visit? number with
    | none => simpa [act, found] using aside_rfl
    | some v => simpa [act, found] using s.aside_stepVisit clock v

/-- A server's conversations, with a record of the findings that were taken in. -/
structure Listening where
  dialogue : Dialogue
  notices : List Notice := []

inductive Listening.Move
  | go (next : Dialogue.Move)
  | connect
  | disconnect

namespace Listening

/-- A server that was not started yet. -/
def opening (variant : Variant) (chain : List (Interceptor Flow)) : Listening :=
  { dialogue := .opening variant chain }

/-- Is it the reader's turn, and is there something for it to do? -/
def reads (w : Dialogue) : Dialogue.Move → Bool
  | .act .reader _ => w.server.isReady w.clock .reader
  | _ => false

/-- The record after the reader's turn. -/
def heed (s s' : Server) (notices : List Notice) : List Notice :=
  match s.findings with
  | some _ => notices.modifyLast (.turn s s')
  | none =>
    notices ++ (s.reading.filterMap Findings.heard?).map fun params =>
      Notice.turn s s' ⟨params, s.middleware.connected, .underway, []⟩

/-- The record after anything else, which may cut off what is on its way. -/
def spare (s s' : Server) (notices : List Notice) : List Notice :=
  if s.findings.isSome && s'.findings.isNone then
    notices.modifyLast fun n => { n with fate := .cutOff }
  else notices

def gate (w : Listening) (change : Middleware → Middleware) : Listening :=
  { w with dialogue := { w.dialogue with server :=
    { w.dialogue.server with middleware := change w.dialogue.server.middleware } } }

def move (w : Listening) : Move → Listening
  | .go next =>
    let dialogue := w.dialogue.move next
    { dialogue
      notices :=
        if reads w.dialogue next then heed w.dialogue.server dialogue.server w.notices
        else spare w.dialogue.server dialogue.server w.notices }
  | .connect => w.gate .connect
  | .disconnect => w.gate .disconnect

def run (w : Listening) (moves : List Move) : Listening := moves.foldl move w

theorem run_append (w : Listening) (moves later : List Move) :
    w.run (moves ++ later) = (w.run moves).run later := List.foldl_append

variable {w : Listening} {passing : Prop} {notices : List Notice}

theorem aside_move (w : Dialogue) {next : Dialogue.Move} (apart : reads w next = false) :
    Aside w.server (w.move next).server := by
  cases next with
  | start launch options =>
    unfold Dialogue.move
    dsimp only
    split
    · exact w.server.aside_start launch options
    · exact aside_rfl
  | dispose =>
    unfold Dialogue.move
    dsimp only
    split
    · exact aside_rfl
    · exact w.server.aside_dispose w.clock
  | act duty source =>
    unfold Dialogue.move
    dsimp only
    split
    · next ready =>
      refine w.server.aside_act source w.clock ?_
      rintro rfl
      simp [reads, ready] at apart
    · exact aside_rfl
  | call | giveUp | forget | feed | hangUp | wait => exact ⟨rfl, .inl rfl, rfl⟩

theorem server_move_of_reads (w : Dialogue) {next : Dialogue.Move} (turn : reads w next) :
    (w.move next).server = w.server.stepReader w.clock := by
  cases next with
  | act duty source =>
    cases duty with
    | reader => simp [Dialogue.move, show w.server.isReady w.clock .reader from turn,
        Dialogue.perform, act]
    | _ => simp [reads] at turn
  | _ => simp [reads] at turn

/-- Nothing is to be seen when findings are taken in. -/
theorem sees_stepReader_of_idle (idle : s.findings = none) (clock : Clock) :
    Sees s (s.stepReader clock) [] := by
  simp only [stepReader, idle]
  split
  · exact sees_nothing rfl rfl
  · unfold hear
    split
    · split <;> exact sees_nothing rfl rfl
    · exact sees_nothing rfl rfl
  · exact sees_nothing rfl rfl

/-- The reader takes in something else, or findings, which go on their way if they can be read. -/
theorem stepReader_of_idle (idle : s.findings = none) (clock : Clock) :
    s.reading.filterMap Findings.heard? = [] ∧ (s.stepReader clock).findings = none ∨
      ∃ params, s.reading.filterMap Findings.heard? = [params] ∧
        (s.stepReader clock).findings = (Findings.read? params).map fun params =>
          .enter s.middleware s.chain clock.now { method := .publishDiagnostics, params } := by
  cases arrival : Frame.arrival s.wire.inputEnded s.wire.input with
  | partly | ended | fault =>
    exact .inl (by simp [stepReader, reading, Wire.read, Wire.reading, idle, arrival])
  | message message rest =>
    simp only [stepReader, reading, Wire.read, Wire.reading, idle, arrival, Connection.receive,
      List.filterMap_cons, List.filterMap_nil, Findings.heard?]
    rcases Incoming.ofJson? message with - | incoming
    · exact .inl ⟨rfl, rfl⟩
    cases incoming with
    | response | request => exact .inl ⟨rfl, rfl⟩
    | notification method params =>
      by_cases findings : method = Method.publishDiagnostics.name
      · refine .inr ⟨params, by simp [findings], ?_⟩
        cases known : Findings.read? params <;> simp [hear, findings, known]
      · exact .inl (by simp [hear, findings])

/-- The last notice is on its way if findings are, and each other has come to its end. -/
inductive Attends (passing : Prop) : List Notice → Option Passage → Prop
  | atRest {notices : List Notice}
      (ended : ∀ n ∈ notices, n.fate ≠ .underway ∧ n.IsHeeded passing) :
      Attends passing notices none
  | attending {before : List Notice} {n : Notice} {p : Passage}
      (ended : ∀ n ∈ before, n.fate ≠ .underway ∧ n.IsHeeded passing) (underway : n.fate = .underway)
      (rides : n.Rides passing p) : Attends passing (before ++ [n]) (some p)

/-- The notices are the findings that were heard, and account for what the editor was told. -/
structure Sound (chain : List (Interceptor Flow)) (w : Listening) : Prop where
  heard : w.dialogue.heard.filterMap Findings.heard? <:+ w.notices.map (·.params)
  interceptors : w.dialogue.server.chain = chain
  account : published w.dialogue.server.sights = w.notices.flatMap fun n => published n.sights
  attends : Attends (∀ i ∈ chain, i.PassesOn) w.notices w.dialogue.server.findings

theorem Attends.isHeeded (h : Attends passing notices found) (there : n ∈ notices) :
    n.IsHeeded passing := by
  cases h with
  | atRest ended => exact (ended n there).2
  | attending ended underway rides =>
    rcases List.mem_append.1 there with there | there
    · exact (ended n there).2
    · obtain rfl := List.mem_singleton.1 there
      exact rides.isHeeded (by simp [underway])

theorem Attends.of_none (h : Attends passing notices none) :
    ∀ n ∈ notices, n.fate ≠ .underway ∧ n.IsHeeded passing := by
  cases h with
  | atRest ended => exact ended

theorem Attends.of_some (h : Attends passing notices (some p)) :
    ∃ before n, notices = before ++ [n] ∧ (∀ n ∈ before, n.fate ≠ .underway ∧ n.IsHeeded passing) ∧
      n.fate = .underway ∧ n.Rides passing p := by
  cases h with
  | attending ended underway rides => exact ⟨_, _, rfl, ended, underway, rides⟩

/-- The notice that the reader was at has come to its end or is still on its way. -/
theorem attends_turn {before : List Notice}
    (ended : ∀ n ∈ before, n.fate ≠ .underway ∧ n.IsHeeded passing)
    (after : match s'.findings with
      | none => (n.turn s s').fate = .through ∧ (n.turn s s').IsHeeded passing
      | some q => (n.turn s s').fate = .underway ∧ (n.turn s s').Rides passing q) :
    Attends passing (before ++ [n.turn s s']) s'.findings := by
  cases findings : s'.findings with
  | none =>
    rw [findings] at after
    refine .atRest fun m there => ?_
    rcases List.mem_append.1 there with there | there
    · exact ended m there
    · obtain rfl := List.mem_singleton.1 there
      exact ⟨by simp [after.1], after.2⟩
  | some q =>
    rw [findings] at after
    exact .attending ended after.1 after.2

/-- Findings that are taken in are turned away, or go on their way as the gate stands. -/
theorem after_arrival (clock : Clock) (params : Json)
    (chain : passing → ∀ i ∈ s.chain, i.PassesOn) (unseen : s'.sights = s.sights)
    (findings : s'.findings = (Findings.read? params).map fun params =>
      .enter s.middleware s.chain clock.now { method := .publishDiagnostics, params }) :
    let n : Notice := ⟨params, s.middleware.connected, .underway, []⟩
    match s'.findings with
    | none => (n.turn s s').fate = .through ∧ (n.turn s s').IsHeeded passing
    | some q => (n.turn s s').fate = .underway ∧ (n.turn s s').Rides passing q := by
  intro n
  have still : (n.turn s s').sights = [] := by simp [n, Notice.turn, unseen]
  rw [findings]
  cases known : Findings.read? params with
  | none =>
    refine ⟨by simp [Notice.turn, findings, known], fun _ => still, fun _ => .inl (by simp [still]),
      fun _ _ => ?_⟩
    rw [still]
    simp [Notice.forwarded?, n, Notice.turn, known]
  | some found =>
    refine ⟨by simp [Notice.turn, findings, known], ?_⟩
    cases gate : s.middleware.connected with
    | false =>
      exact .turnedAway gate
        (by simp [Passage.enter, Middleware.passes, Method.bypassesGate, gate]) rfl still
    | true =>
      have passes : s.middleware.passes .publishDiagnostics found = true := by
        simp [Middleware.passes, gate, Findings.claims_of_read known]
      refine .admitted found gate known fun pass => .inl ⟨?_, by simp [still]⟩
      simpa [Passage.enter, passes] using Interceptor.carries_compose (chain pass) _

theorem Attends.heed (h : Attends passing notices s.findings) (clock : Clock)
    (chain : passing → ∀ i ∈ s.chain, i.PassesOn) :
    Attends passing (heed s (s.stepReader clock) notices) (s.stepReader clock).findings := by
  cases findings : s.findings with
  | none =>
    rw [findings] at h
    have ended := h.of_none
    simp only [Listening.heed, findings]
    rcases stepReader_of_idle findings clock with ⟨nothing, still⟩ | ⟨params, one, onward⟩
    · simpa [nothing, still] using h
    · have unseen := (sees_stepReader_of_idle findings clock).sights
      rw [List.append_nil] at unseen
      rw [one]
      exact attends_turn ended (after_arrival clock params chain unseen onward)
  | some p =>
    rw [findings] at h
    obtain ⟨before, n, rfl, ended, -, rides⟩ := h.of_some
    simp only [Listening.heed, findings, List.modifyLast_concat, stepReader]
    exact attends_turn ended (rides.turn clock)

/-- What the editor is told in the reader's turn, it is told of the last notice. -/
theorem account_heed (h : Attends passing notices s.findings) (clock : Clock)
    (account : published s.sights = notices.flatMap fun n => published n.sights) :
    published (s.stepReader clock).sights =
      (heed s (s.stepReader clock) notices).flatMap fun n => published n.sights := by
  cases findings : s.findings with
  | none =>
    have sees := sees_stepReader_of_idle findings clock
    have unseen := sees.sights
    rw [List.append_nil] at unseen
    have fresh (n : Notice) (empty : n.sights = []) :
        (n.turn s (s.stepReader clock)).sights = [] := by simp [Notice.turn, empty, unseen]
    simp only [Listening.heed, findings, List.flatMap_append, List.flatMap_map, unseen, account]
    simp [fresh]
  | some p =>
    rw [findings] at h
    obtain ⟨before, n, rfl, -⟩ := h.of_some
    obtain ⟨gained, sees⟩ := s.sees_stepFindings clock p
    have turned : published (n.turn s (s.stepFindings clock p)).sights =
      published n.sights ++ published gained := Notice.published_turn sees
    simp only [Listening.heed, findings, List.modifyLast_concat, stepReader, sees.published,
      account, List.flatMap_append, List.flatMap_singleton, turned, List.append_assoc]

theorem params_modifyLast {f : Notice → Notice} (same : ∀ n, (f n).params = n.params)
    (notices : List Notice) :
    (notices.modifyLast f).map (·.params) = notices.map (·.params) := by
  rcases notices.eq_nil_or_concat with rfl | ⟨before, n, rfl⟩
  · rfl
  · simp [List.modifyLast_concat, same]

theorem params_heed (s s' : Server) (notices : List Notice) :
    (heed s s' notices).map (·.params) =
      notices.map (·.params) ++ s.reading.filterMap Findings.heard? := by
  cases findings : s.findings with
  | none => simp [heed, findings, Notice.turn, Function.comp_def]
  | some p =>
    simp [heed, findings, reading, params_modifyLast (f := Notice.turn s s') fun n => rfl]

theorem params_spare (s s' : Server) (notices : List Notice) :
    (spare s s' notices).map (·.params) = notices.map (·.params) := by
  unfold spare
  split
  · exact params_modifyLast (fun n => by rfl) notices
  · rfl

theorem Attends.spare (h : Attends passing notices s.findings) (aside : Aside s s') :
    Attends passing (spare s s' notices) s'.findings := by
  rcases aside.findings with same | gone
  · rw [same]
    have kept : Listening.spare s s' notices = notices := by
      cases findings : s.findings <;> simp [Listening.spare, same, findings]
    rwa [kept]
  · rw [gone]
    cases findings : s.findings with
    | none =>
      rw [findings] at h
      simpa [Listening.spare, findings] using h
    | some p =>
      rw [findings] at h
      obtain ⟨before, n, rfl, ended, underway, rides⟩ := h.of_some
      simp only [Listening.spare, findings, gone, Option.isSome_some, Option.isNone_none,
        Bool.and_self, if_true, List.modifyLast_concat]
      refine .atRest fun m there => ?_
      rcases List.mem_append.1 there with there | there
      · exact ended m there
      · obtain rfl := List.mem_singleton.1 there
        exact ⟨by simp, (rides.isHeeded (by simp [underway])).cutOff⟩

theorem flatMap_spare (s s' : Server) (notices : List Notice) :
    ((spare s s' notices).flatMap fun n => published n.sights) =
      notices.flatMap fun n => published n.sights := by
  unfold spare
  split
  · rcases notices.eq_nil_or_concat with rfl | ⟨before, n, rfl⟩
    · rfl
    · simp [List.modifyLast_concat]
  · rfl

theorem sound_opening (variant : Variant) (chain : List (Interceptor Flow)) :
    (opening variant chain).Sound chain :=
  ⟨List.suffix_rfl, rfl, rfl, .atRest (by simp [opening])⟩

theorem heard_move_of_reads (w : Dialogue) {next : Dialogue.Move} (turn : reads w next) :
    (w.move next).heard = w.heard ++ w.server.reading := by
  cases next with
  | act duty source =>
    cases duty with
    | reader => simp [Dialogue.move, show w.server.isReady w.clock .reader from turn,
        Dialogue.perform]
    | _ => simp [reads] at turn
  | _ => simp [reads] at turn

/-- Only the reader hears; what was heard is forgotten with the conversation. -/
theorem heard_move_of_not_reads (w : Dialogue) {next : Dialogue.Move}
    (apart : reads w next = false) :
    (w.move next).heard = w.heard ∨ (w.move next).heard = [] := by
  cases next with
  | start launch options =>
    unfold Dialogue.move
    dsimp only
    split
    · exact .inr rfl
    · exact .inl rfl
  | dispose =>
    unfold Dialogue.move
    dsimp only
    split <;> exact .inl rfl
  | act duty source =>
    unfold Dialogue.move
    dsimp only
    split
    · next ready =>
      have other : duty ≠ .reader := by
        rintro rfl
        simp [reads, ready] at apart
      exact .inl (by simp [Dialogue.perform, other])
    · exact .inl rfl
  | call | giveUp | forget | feed | hangUp | wait => exact .inl rfl

theorem Sound.move {chain : List (Interceptor Flow)} (h : w.Sound chain) (next : Move) :
    (w.move next).Sound chain := by
  obtain ⟨heard, interceptors, account, attends⟩ := h
  cases next with
  | connect | disconnect => exact ⟨heard, interceptors, account, attends⟩
  | go next =>
    cases turn : reads w.dialogue next with
    | true =>
      have server := server_move_of_reads w.dialogue turn
      have kept :
          (w.dialogue.server.stepReader w.dialogue.clock).chain = w.dialogue.server.chain := by
        cases findings : w.dialogue.server.findings with
        | none => exact (sees_stepReader_of_idle findings w.dialogue.clock).chain
        | some p =>
          obtain ⟨gained, sees⟩ := w.dialogue.server.sees_stepFindings w.dialogue.clock p
          simpa [stepReader, findings] using sees.chain
      refine ⟨?_, ?_, ?_, ?_⟩ <;>
        simp only [Listening.move, turn, if_true, server]
      · rw [heard_move_of_reads w.dialogue turn, List.filterMap_append, params_heed]
        exact (List.suffix_append_inj_of_length_eq rfl).2 ⟨heard, rfl⟩
      · exact kept.trans interceptors
      · exact account_heed attends w.dialogue.clock account
      · exact attends.heed w.dialogue.clock fun pass => interceptors ▸ pass
    | false =>
      have aside := aside_move w.dialogue turn
      refine ⟨?_, ?_, ?_, ?_⟩ <;> simp only [Listening.move, turn, Bool.false_eq_true, if_false]
      · rw [params_spare]
        rcases heard_move_of_not_reads w.dialogue turn with same | none
        · rwa [same]
        · rw [none]
          exact List.nil_suffix
      · exact aside.chain.trans interceptors
      · rw [aside.published, flatMap_spare]
        exact account
      · exact attends.spare aside

theorem sound_run (variant : Variant) (chain : List (Interceptor Flow)) (moves : List Move) :
    ((opening variant chain).run moves).Sound chain := by
  induction moves using List.reverseRecOn with
  | nil => exact sound_opening variant chain
  | append_singleton moves next ih =>
    rw [run_append]
    exact ih.move next

/-! The reader brings what is on its way to its end. -/

/-- Does time pass, or is it the reader's turn? -/
def Move.isReaders : Move → Bool
  | .go (.act .reader _) | .go (.wait _) => true
  | _ => false

/-- Nothing but the passing of time and the reader's turns has brought about the change. -/
def Leads (w w' : Listening) : Prop :=
  ∃ turns, (∀ next ∈ turns, Move.isReaders next) ∧ w' = w.run turns

theorem Leads.trans {w w' w'' : Listening} (first : Leads w w') (later : Leads w' w'') :
    Leads w w'' := by
  obtain ⟨turns, readers, rfl⟩ := first
  obtain ⟨more, readers', rfl⟩ := later
  refine ⟨turns ++ more, fun next here => ?_, (run_append ..).symm⟩
  exact (List.mem_append.1 here).elim (readers next) (readers' next)

theorem leads_of_move {next : Move} (readers : next.isReaders) : Leads w (w.move next) :=
  ⟨[next], by simpa using readers, rfl⟩

/-- When a pause is over, the reader's turn comes. -/
theorem leads_step {before : List Notice} (found : w.dialogue.server.findings = some p)
    (notices : w.notices = before ++ [n]) :
    ∃ clock w', Leads w w' ∧ w'.dialogue.server = w.dialogue.server.stepFindings clock p ∧
      w'.notices = before ++ [n.turn w.dialogue.server w'.dialogue.server] := by
  let waited := w.move (.go (.wait ((p.due.map Deadline.time).getD 0)))
  have server : waited.dialogue.server = w.dialogue.server := rfl
  have kept : waited.notices = w.notices := by
    simp only [waited, Listening.move, reads, Bool.false_eq_true, if_false]
    have same : spare w.dialogue.server w.dialogue.server w.notices = w.notices := by
      simp [spare, found]
    exact same
  have ready : waited.dialogue.server.isReady waited.dialogue.clock .reader = true := by
    rw [server]
    simp only [isReady, found]
    obtain ⟨method, start, flow, reached, due⟩ := p
    cases flow <;> cases due <;>
      simp [Passage.result?, Passage.canStep, Clock.reached, waited, Listening.move, Dialogue.move,
        Clock.set]
  have source : SettingsSource := { editor := fun _ => .ok [] }
  have turn : reads waited.dialogue (.act .reader source) := ready
  have after := server_move_of_reads waited.dialogue turn
  rw [server, stepReader, found] at after
  refine ⟨waited.dialogue.clock, waited.move (.go (.act .reader source)),
    (leads_of_move rfl).trans (leads_of_move rfl), after, ?_⟩
  simp only [Listening.move, turn, if_true, heed, server, found, kept, notices,
    List.modifyLast_concat]

/-- Findings that are so far on their way are in time brought to their end. -/
def EndsInTime (p : Passage) : Prop :=
  ∀ w : Listening, w.dialogue.server.findings = some p → ∀ before n, w.notices = before ++ [n] →
    ∃ w' sights, Leads w w' ∧ w'.notices = before ++ [{ n with fate := .through, sights }]

theorem endsInTime_of_step
    (step : ∀ (s : Server) (clock : Clock), (s.stepFindings clock p).findings = none ∨
      ∃ q, (s.stepFindings clock p).findings = some q ∧ EndsInTime q) : EndsInTime p := by
  intro w found before n notices
  obtain ⟨clock, w', leads, server, turned⟩ := leads_step found notices
  rcases step w.dialogue.server clock with ended | ⟨q, still, ends⟩
  · rw [← server] at ended
    exact ⟨w', _, leads, by rw [turned, Notice.turn, ended]; rfl⟩
  · obtain ⟨w'', sights, later, through⟩ := ends w' (server ▸ still) before _ turned
    exact ⟨w'', sights, leads.trans later, through⟩

/-- Whatever the interceptors do, there is only so much of it. -/
theorem endsInTime (p : Passage) : EndsInTime p := by
  obtain ⟨method, start, flow, reached, due⟩ := p
  induction flow generalizing reached due with
  | ended result =>
    exact endsInTime_of_step fun s clock => .inl (by simp [stepFindings, Passage.result?, see])
  | remark name m rest ih =>
    exact endsInTime_of_step fun s clock => .inr ⟨_, rfl, ih _ _⟩
  | reach call rest ih =>
    refine endsInTime_of_step fun s clock => .inr ?_
    simp only [stepFindings, Passage.result?, Passage.atServer?, Passage.resume]
    exact ⟨_, rfl, ih _ _ _⟩
  | pause duration rest ih =>
    have elapsed (due : Deadline) :
        EndsInTime ⟨method, start, .pause duration rest, reached, some due⟩ :=
      endsInTime_of_step fun s clock => .inr ⟨_, rfl, ih _ _⟩
    cases due with
    | none => exact endsInTime_of_step fun s clock => .inr ⟨_, rfl, elapsed _⟩
    | some due => exact elapsed due

/-- In any run of one server's conversations, with the gate opened and closed at any time, the
findings that were heard are noted in the order in which they came, and only the last of them may
still be on its way. The editor was told what the notices say, in their order. Nobody saw anything
of findings that could not be read, are about a scratch file, or came while the gate was shut: no
interceptor, nor the editor, nor telemetry. Any other findings the editor was told once, behind
interceptors that pass calls on and unless the conversation was closed meanwhile; and it was told
them as they are when they are read a second time, which is as they were read if their URIs are
settled. What is on its way needs only time and the reader's turns. -/
theorem findings_forwarded_as_read_again (variant : Variant) (chain : List (Interceptor Flow))
    (moves : List Move) :
    let w := (opening variant chain).run moves
    w.dialogue.heard.filterMap Findings.heard? <:+ w.notices.map (·.params) ∧
      (published w.dialogue.server.sights = w.notices.flatMap fun n => published n.sights) ∧
      (∀ n ∈ w.notices, n.IsRefused → n.sights = []) ∧
      ((∀ i ∈ chain, i.PassesOn) → ∀ n ∈ w.notices,
        (published n.sights = [] ∨ published n.sights = n.forwarded?.toList) ∧
          (n.fate = .through → published n.sights = n.forwarded?.toList)) ∧
      (∀ n ∈ w.notices, n.connected → ∀ params, Findings.read? n.params = some params →
        n.forwarded? = Shape.publishedDiagnostics.read params ∧
          ((∀ s ∈ Shape.publishedDiagnostics.uris params, Uri.IsSettled s) →
            n.forwarded? = some params)) ∧
      (∀ n ∈ w.notices.dropLast, n.fate ≠ .underway) ∧
      ∀ before n, w.notices = before ++ [n] → n.fate = .underway →
        ∃ turns sights, (∀ next ∈ turns, Move.isReaders next) ∧
          (w.run turns).notices = before ++ [{ n with fate := .through, sights }] := by
  intro w
  obtain ⟨heard, -, account, attends⟩ := sound_run variant chain moves
  refine ⟨heard, account, fun n there => (attends.isHeeded there).refused,
    fun pass n there => ⟨(attends.isHeeded there).partly pass, (attends.isHeeded there).whole pass⟩,
    fun n _ isOpen params known => ⟨Notice.forwarded?_of_open isOpen known,
      Notice.forwarded?_of_settled isOpen known⟩, ?_, ?_⟩
  · intro n there
    cases findings : w.dialogue.server.findings with
    | none => exact ((findings ▸ attends).of_none n (List.dropLast_subset _ there)).1
    | some p =>
      obtain ⟨before, last, notices, ended, -⟩ := (findings ▸ attends).of_some
      rw [show w.notices = before ++ [last] from notices, List.dropLast_concat] at there
      exact (ended n there).1
  · intro before n notices underway
    cases findings : w.dialogue.server.findings with
    | none =>
      have ended := ((findings ▸ attends).of_none n (by rw [notices]; simp)).1
      exact absurd underway ended
    | some p =>
      obtain ⟨w', sights, ⟨turns, readers, rfl⟩, through⟩ :=
        endsInTime p w findings before n notices
      exact ⟨turns, sights, readers, through⟩

/-- Nothing was found in a document. -/
def nothingIn (uri : String) : Json := .obj [("diagnostics", .arr []), ("uri", .str uri)]

theorem read_nothingIn {uri : String} {u : Uri} (parsed : Uri.parse? uri = some u) :
    Shape.publishedDiagnostics.read (nothingIn uri) = some (nothingIn u.text) := by
  have ordered : Json.object [("uri", .str u.text), ("diagnostics", .arr [])] = nothingIn u.text := by
    simp only [Json.object, List.foldl_cons, List.foldl_nil, Json.insertMember]
    rw [if_pos (by decide +kernel), nothingIn]
  rw [← ordered]
  simp [Shape.publishedDiagnostics, Shape.read, Shape.readMembers, Shape.must, Shape.may, nothingIn,
    parsed, List.lookup_cons]

/-- Says that it has seen a call, and passes it on. -/
def observer : Interceptor Flow where
  handles _ := true
  intercept call rest := .remark "observer" call.method (rest call)

theorem observer_passesOn : observer.PassesOn := fun call rest =>
  .remark _ _ (Flow.surrounds_rfl (rest call))

/-- What a server says of a file of a host, at a path that begins with another pair of slashes. -/
def saying : Json :=
  Connection.notificationMessage Method.publishDiagnostics.name (nothingIn "file://[::1]//C:/x")

theorem fits_saying : Frame.Fits saying := by
  have members : saying = .obj [("jsonrpc", .str "2.0"),
    ("method", .str Method.publishDiagnostics.name),
    ("params", nothingIn "file://[::1]//C:/x")] := rfl
  refine ⟨?_, by decide +kernel, by decide +kernel⟩
  rw [members, nothingIn]
  refine .obj (by decide +kernel) ?_
  simp only [List.forall_mem_cons, List.not_mem_nil, false_imp_iff, implies_true, and_true]
  refine ⟨.str _, .str _, .obj (by decide +kernel) ?_⟩
  simp only [List.forall_mem_cons, List.not_mem_nil, false_imp_iff, implies_true, and_true]
  exact ⟨.arr (by simp), .str _⟩

/-- The gate is opened, and findings are taken in. -/
def hearing : List Move :=
  [.connect, .go (.feed (Frame.write saying)), .go (.act .reader { editor := fun _ => .ok [] })]

theorem read?_said : Findings.read? (nothingIn "file://[::1]//C:/x") =
    some (nothingIn "file://[::1]/C:/x") := by
  obtain ⟨u, parsed, text⟩ : ∃ u, Uri.parse? "file://[::1]//C:/x" = some u ∧
    u.text = "file://[::1]/C:/x" := Option.map_eq_some_iff.1 (by decide +kernel)
  have shown : (Uri.parse? "file://[::1]/C:/x").any Uri.isHidden = false := by decide +kernel
  rw [Findings.read?, read_nothingIn parsed, text]
  simp only [nothingIn] at shown ⊢
  simp [Option.filter, Json.get?, List.lookup_cons, Json.text?, shown]

theorem read_again_said : Shape.publishedDiagnostics.read (nothingIn "file://[::1]/C:/x") =
    some (nothingIn "file:///C:/x") := by
  obtain ⟨u, parsed, text⟩ : ∃ u, Uri.parse? "file://[::1]/C:/x" = some u ∧
    u.text = "file:///C:/x" := Option.map_eq_some_iff.1 (by decide +kernel)
  rw [read_nothingIn parsed, text]

theorem notices_hearing :
    ((opening .fullB [observer]).run hearing).notices =
      [⟨nothingIn "file://[::1]//C:/x", true, .underway, []⟩] := by
  have arrival := Frame.arrival_write fits_saying false []
  rw [List.append_nil] at arrival
  let s : Server :=
    { middleware := { variant := .fullB, connected := true }, chain := [observer],
      wire := { input := Frame.write saying } }
  have fed : (opening .fullB [observer]).run [.connect, .go (.feed (Frame.write saying))] =
      ⟨{ server := s }, []⟩ := by
    simp [run, Listening.move, gate, opening, Dialogue.opening, Dialogue.move, reads, spare,
      Wire.feed, Middleware.connect, s]
  have ready : s.isReady {} .reader = true := by simp [isReady, Wire.hasInput, s, arrival]
  have heard : s.reading.filterMap Findings.heard? = [nothingIn "file://[::1]//C:/x"] := by
    simp only [reading, Wire.reading, s, arrival]
    rfl
  have turn : reads { server := s } (.act .reader { editor := fun _ => .ok [] }) := ready
  have server := server_move_of_reads { server := s } turn
  rcases stepReader_of_idle (s := s) rfl {} with ⟨none, -⟩ | ⟨params, one, onward⟩
  · simp [heard] at none
  · obtain rfl : nothingIn "file://[::1]//C:/x" = params := by simpa [heard] using one
    have unseen := (sees_stepReader_of_idle (s := s) rfl {}).sights
    rw [read?_said] at onward
    rw [show hearing = [.connect, .go (.feed (Frame.write saying))] ++
      [.go (.act .reader { editor := fun _ => .ok [] })] from rfl, run_append, fed]
    simp [run, Listening.move, turn, heed, server, heard, Notice.turn, onward, unseen, s]

/-- The editor hears of another file than the server has spoken of. -/
theorem findings_told_of_another_file :
    ∃ turns n, ((opening .fullB [observer]).run (hearing ++ turns)).notices = [n] ∧
      n.connected ∧ n.fate = .through ∧
      Findings.read? n.params = some (nothingIn "file://[::1]/C:/x") ∧
      published n.sights = [nothingIn "file:///C:/x"] := by
  obtain ⟨-, -, -, -, -, -, ends⟩ :=
    findings_forwarded_as_read_again .fullB [observer] hearing
  obtain ⟨turns, sights, -, through⟩ := ends [] _ notices_hearing rfl
  rw [← run_append, List.nil_append] at through
  obtain ⟨-, -, -, told, again, -⟩ :=
    findings_forwarded_as_read_again .fullB [observer] (hearing ++ turns)
  let n : Notice := ⟨nothingIn "file://[::1]//C:/x", true, .through, sights⟩
  have here : n ∈ ((opening .fullB [observer]).run (hearing ++ turns)).notices := by
    rw [through]
    exact List.mem_singleton_self n
  have whole := (told (by simpa using observer_passesOn) n here).2 rfl
  have forwarded := (again n here rfl _ read?_said).1
  refine ⟨turns, n, through, rfl, rfl, read?_said, ?_⟩
  rw [whole, forwarded, read_again_said]
  rfl

end Listening

end Server

end LanguageBroker
