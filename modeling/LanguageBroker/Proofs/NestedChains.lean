import LanguageBroker.Proofs.ForwardedFindings
import LanguageBroker.Scenario.Addon

/-!
How the interceptors of a chain stand around each other. A chain is built from its end, and yet it
is the interceptors in their order, each around all behind it, and only around the calls that it
handles. What an interceptor does with a call is a routine of its own: it may remark on the call,
wait, pass calls on and look at their results, and answer. So what is to be seen of a chain is what
its first interceptor does and, in between, one run of the rest for each call that it passes on.
-/

namespace LanguageBroker

open Passage (Sight)

namespace Flow

variable {flow : Flow} {k : CallResult → Flow} {sights : List Sight} {result : Option CallResult}

/-- The flow shows these sights and then ends with the result, or has not ended yet. -/
inductive Runs : Flow → List Sight → Option CallResult → Prop
  | stop (flow : Flow) : Runs flow [] none
  | ended (result : CallResult) : Runs (.ended result) [] (some result)
  | remark (name : String) (method : Method) {rest : Flow} {sights : List Sight}
      {result : Option CallResult} (later : Runs rest sights result) :
      Runs (.remark name method rest) (.remark name method :: sights) result
  | pause (duration : Nat) {rest : Flow} {sights : List Sight} {result : Option CallResult}
      (later : Runs rest sights result) : Runs (.pause duration rest) sights result
  | reach (call : Call) {rest : CallResult → Flow} {sights : List Sight}
      {result : Option CallResult} (answer : CallResult)
      (later : Runs (rest answer) sights result) :
      Runs (.reach call rest) (.reached call :: sights) result

/-- A flow that goes on is in its first part, or has been through it. -/
theorem runs_andThen_iff : (flow.andThen k).Runs sights result ↔
    result = none ∧ flow.Runs sights none ∨
      ∃ first middle later, sights = first ++ later ∧ flow.Runs first (some middle) ∧
        (k middle).Runs later result := by
  constructor
  · intro runs
    induction flow generalizing sights with
    | ended r => exact .inr ⟨[], r, sights, rfl, .ended r, runs⟩
    | remark name method rest ih =>
      cases runs with
      | stop => exact .inl ⟨rfl, .stop _⟩
      | remark _ _ runs =>
        rcases ih runs with ⟨same, part⟩ | ⟨first, middle, later, rfl, part, rest⟩
        · exact .inl ⟨same, .remark name method part⟩
        · exact .inr ⟨_, middle, later, rfl, .remark name method part, rest⟩
    | pause duration rest ih =>
      cases runs with
      | stop => exact .inl ⟨rfl, .stop _⟩
      | pause _ runs =>
        rcases ih runs with ⟨same, part⟩ | ⟨first, middle, later, rfl, part, rest⟩
        · exact .inl ⟨same, .pause duration part⟩
        · exact .inr ⟨_, middle, later, rfl, .pause duration part, rest⟩
    | reach call rest ih =>
      cases runs with
      | stop => exact .inl ⟨rfl, .stop _⟩
      | reach _ answer runs =>
        rcases ih answer runs with ⟨same, part⟩ | ⟨first, middle, later, rfl, part, rest⟩
        · exact .inl ⟨same, .reach call answer part⟩
        · exact .inr ⟨_, middle, later, rfl, .reach call answer part, rest⟩
  · rintro (⟨rfl, part⟩ | ⟨first, middle, later, rfl, part, rest⟩)
    · generalize is : (none : Option CallResult) = result at part ⊢
      induction part with
      | stop => exact .stop _
      | ended => simp at is
      | remark name method _ ih => exact .remark name method (ih is)
      | pause duration _ ih => exact .pause duration (ih is)
      | reach call answer _ ih => exact .reach call answer (ih is)
    · generalize is : some middle = ending at part
      induction part with
      | stop => simp at is
      | ended r =>
        obtain rfl := Option.some.inj is
        exact rest
      | remark name method _ ih => exact .remark name method (ih is)
      | pause duration _ ih => exact .pause duration (ih is)
      | reach call answer _ ih => exact .reach call answer (ih is)

end Flow

namespace Passage

variable {p : Passage} {clock : Clock} {serve : Call → Nat × CallResult} {sights : List Sight}
variable {result : Option CallResult}

/-- What is yet to be seen of a call. While the server answers, it was seen to be reached. -/
def Shows (p : Passage) (sights : List Sight) (result : Option CallResult) : Prop :=
  match p.atServer?, p.due with
  | some call, some _ => p.flow.Runs (.reached call :: sights) result
  | _, _ => p.flow.Runs sights result

theorem shows_iff_of_due (due : p.due = none) :
    p.Shows sights result ↔ p.flow.Runs sights result := by
  unfold Shows
  cases p.atServer? <;> simp [due]

theorem shows_step (timely : p.IsTimely)
    (shows : (p.step clock serve).1.Shows sights result) :
    p.Shows ((p.step clock serve).2.toList ++ sights) result := by
  obtain ⟨method, start, flow, reached, due⟩ := p
  cases flow with
  | ended r => cases due <;> simpa [step, atServer?, walk, Shows] using shows
  | remark name m rest =>
    cases due with
    | none =>
      have later : rest.Runs sights result := by
        cases rest <;> simpa [step, atServer?, walk, Shows] using shows
      simpa [step, atServer?, walk, Shows] using later.remark name m
    | some due => simp [IsTimely] at timely
  | pause duration rest =>
    cases due with
    | none => simpa [step, atServer?, walk, Shows] using shows
    | some due =>
      have later : rest.Runs sights result := by
        cases rest <;> simpa [step, atServer?, walk, Shows] using shows
      simpa [step, atServer?, walk, Shows] using later.pause duration
  | reach call rest =>
    cases due with
    | none => simpa [step, atServer?, Shows] using shows
    | some due =>
      have later : (rest (serve call).2).Runs sights result := by
        cases answer : rest (serve call).2 <;>
          simpa [step, atServer?, resume, Shows, answer] using shows
      simpa [step, atServer?, resume, Shows] using later.reach call (serve call).2

/-- The steps of a call, and what was to be seen of them. -/
def watch (p : Passage) : List (Clock × (Call → Nat × CallResult)) → Passage × List Sight
  | [] => (p, [])
  | (clock, serve) :: later =>
    let (last, sights) := watch (p.step clock serve).1 later
    (last, (p.step clock serve).2.toList ++ sights)

theorem shows_watch (timely : p.IsTimely) (steps : List (Clock × (Call → Nat × CallResult))) :
    p.Shows (p.watch steps).2 (p.watch steps).1.result? := by
  induction steps generalizing p with
  | nil =>
    obtain ⟨method, start, flow, reached, due⟩ := p
    cases flow with
    | ended r => simpa [watch, result?, Shows, atServer?] using Flow.Runs.ended r
    | remark | pause => simpa [watch, result?, Shows, atServer?] using Flow.Runs.stop _
    | reach call rest =>
      cases due with
      | none => exact .stop _
      | some due => exact .reach call (.ok none) (.stop _)
  | cons step later ih =>
    obtain ⟨clock, serve⟩ := step
    exact shows_step timely (ih (step_kept timely clock serve).2.2.1)

/-- The steps of a call show a run of what the chain makes of it. -/
theorem runs_enter (w : Middleware) (chain : List (Interceptor Flow)) (now : Time) (call : Call)
    (passes : w.passes call.method call.params = true)
    (steps : List (Clock × (Call → Nat × CallResult))) :
    (Interceptor.compose chain Flow.server call).Runs ((enter w chain now call).watch steps).2
      ((enter w chain now call).watch steps).1.result? := by
  have shows := shows_watch (isTimely_enter w chain now call) steps
  have flow : (enter w chain now call).flow = Interceptor.compose chain Flow.server call := by
    simp [enter, passes]
  rw [← flow]
  exact (shows_iff_of_due rfl).1 shows

end Passage

namespace Interceptor

variable {α : Type} {i : Interceptor α} {chain behind : List (Interceptor α)} {last : Call → α}

/-- The interceptors around each other, in the order of the chain, and each of them only around the
calls with a method that it handles. -/
def nested (last : Call → α) : List (Interceptor α) → Call → α
  | [], call => last call
  | i :: behind, call =>
    if i.handles call.method then i.intercept call (nested last behind) else nested last behind call

theorem compose_cons (i : Interceptor α) (behind : List (Interceptor α)) (last : Call → α) :
    compose (i :: behind) last = i.before (compose behind last) := rfl

theorem compose_append (chain behind : List (Interceptor α)) (last : Call → α) :
    compose (chain ++ behind) last = compose chain (compose behind last) := List.foldr_append

theorem compose_eq_nested (chain : List (Interceptor α)) (last : Call → α) :
    compose chain last = nested last chain := by
  induction chain with
  | nil => rfl
  | cons i behind ih =>
    funext call
    rw [compose_cons, ih, before, nested]

/-- Built from its end, link by link. -/
theorem foldl_reverse_eq_compose (chain : List (Interceptor α)) (last : Call → α) :
    chain.reverse.foldl (fun next i => i.before next) last = compose chain last :=
  List.foldl_reverse

theorem compose_of_handles {call : Call} (handles : i.handles call.method = true) :
    compose (i :: behind) last call = i.intercept call (compose behind last) := by
  rw [compose_cons, before, if_pos handles]

/-- What an interceptor does with a call. It may pass calls on and look at their results. -/
inductive Routine
  | answer (result : CallResult)
  | remark (name : String) (method : Method) (rest : Routine)
  | pause (duration : Nat) (rest : Routine)
  | next (call : Call) (rest : CallResult → Routine)

/-- The routine carried out in front of the rest of a chain. -/
def Routine.around (rest : Call → Flow) : Routine → Flow
  | answer result => .ended result
  | remark name method routine => .remark name method (routine.around rest)
  | pause duration routine => .pause duration (routine.around rest)
  | next call routine => (rest call).andThen fun result => (routine result).around rest

/-- The interceptor does with the call as its routine says, whatever is behind it. -/
def Follows (i : Interceptor Flow) (call : Call) (routine : Routine) : Prop :=
  ∀ rest, i.intercept call rest = routine.around rest

/-- A run of the rest of a chain. -/
structure Run where
  call : Call
  sights : List Sight
  result : Option CallResult

/-- What is to be seen of an interceptor that sees a call, one after the other. -/
inductive Turn
  | own (sight : Sight)
  | next (run : Run)

namespace Turn

def sights : Turn → List Sight
  | own sight => [sight]
  | next run => run.sights

def run? : Turn → Option Run
  | own _ => none
  | next run => some run

@[simp] theorem sights_own (sight : Sight) : (own sight).sights = [sight] := rfl

@[simp] theorem sights_next (run : Run) : (next run).sights = run.sights := rfl

@[simp] theorem run?_own (sight : Sight) : (own sight).run? = none := rfl

@[simp] theorem run?_next (run : Run) : (next run).run? = some run := rfl

/-- No run, then nothing but what the interceptor shows itself. -/
theorem eq_own_of_no_run {turns : List Turn} (none : turns.filterMap run? = []) :
    turns = (turns.flatMap sights).map own := by
  induction turns with
  | nil => rfl
  | cons turn turns ih =>
    cases turn with
    | own sight =>
      rw [List.flatMap_cons, sights_own, List.singleton_append, List.map_cons,
        ← ih (by simpa using none)]
    | next run => simp at none

end Turn

/-- The routine is carried out in these turns: each time that it passes a call on there is one run
of the rest of the chain, which it waits for. -/
inductive Routine.Plays : Routine → List Turn → Option CallResult → Prop
  | stop (routine : Routine) : Plays routine [] none
  | answer (result : CallResult) : Plays (.answer result) [] (some result)
  | remark (name : String) (method : Method) {rest : Routine} {turns : List Turn}
      {result : Option CallResult} (later : Plays rest turns result) :
      Plays (.remark name method rest) (.own (.remark name method) :: turns) result
  | pause (duration : Nat) {rest : Routine} {turns : List Turn} {result : Option CallResult}
      (later : Plays rest turns result) : Plays (.pause duration rest) turns result
  | next (call : Call) {rest : CallResult → Routine} (sights : List Sight) (answer : CallResult)
      {turns : List Turn} {result : Option CallResult} (later : Plays (rest answer) turns result) :
      Plays (.next call rest) (.next ⟨call, sights, some answer⟩ :: turns) result
  | waits (call : Call) (rest : CallResult → Routine) (sights : List Sight) :
      Plays (.next call rest) [.next ⟨call, sights, none⟩] none

variable {routine : Routine} {rest : Call → Flow} {sights : List Sight} {result : Option CallResult}
variable {turns : List Turn}

theorem Routine.exists_turns (runs : (routine.around rest).Runs sights result) :
    ∃ turns, routine.Plays turns result ∧ sights = turns.flatMap Turn.sights ∧
      ∀ run ∈ turns.filterMap Turn.run?, (rest run.call).Runs run.sights run.result := by
  induction routine generalizing sights with
  | answer r =>
    cases runs with
    | stop => exact ⟨[], .stop _, rfl, by simp⟩
    | ended => exact ⟨[], .answer r, rfl, by simp⟩
  | remark name method routine ih =>
    cases runs with
    | stop => exact ⟨[], .stop _, rfl, by simp⟩
    | remark _ _ later =>
      obtain ⟨turns, plays, rfl, each⟩ := ih later
      exact ⟨_, .remark name method plays, rfl, by simpa using each⟩
  | pause duration routine ih =>
    cases runs with
    | stop => exact ⟨[], .stop _, rfl, by simp⟩
    | pause _ later =>
      obtain ⟨turns, plays, rfl, each⟩ := ih later
      exact ⟨_, .pause duration plays, rfl, each⟩
  | next call routine ih =>
    rcases Flow.runs_andThen_iff.1 runs with ⟨rfl, part⟩ | ⟨first, answer, later, rfl, whole, runs⟩
    · exact ⟨_, .waits call routine sights, by simp, by simpa using part⟩
    · obtain ⟨turns, plays, rfl, each⟩ := ih answer runs
      refine ⟨_, .next call first answer plays, by simp, ?_⟩
      rw [List.filterMap_cons_some (Turn.run?_next _)]
      exact List.forall_mem_cons.2 ⟨whole, each⟩

theorem Routine.Plays.runs (plays : routine.Plays turns result)
    (each : ∀ run ∈ turns.filterMap Turn.run?, (rest run.call).Runs run.sights run.result) :
    (routine.around rest).Runs (turns.flatMap Turn.sights) result := by
  induction plays with
  | stop => exact .stop _
  | answer r => exact .ended r
  | remark name method _ ih => exact .remark name method (ih (by simpa using each))
  | pause duration _ ih => exact .pause duration (ih each)
  | next call sights answer _ ih =>
    rw [List.filterMap_cons_some (Turn.run?_next _)] at each
    obtain ⟨first, each⟩ := List.forall_mem_cons.1 each
    exact Flow.runs_andThen_iff.2 (.inr ⟨sights, answer, _, rfl, first, ih each⟩)
  | waits call routine sights =>
    have part : (rest call).Runs sights none := by simpa using each
    exact Flow.runs_andThen_iff.2 (.inl ⟨rfl, by simpa using part⟩)

/-- What is to be seen of a routine in front of the rest of a chain are its turns. -/
theorem Routine.runs_around_iff : (routine.around rest).Runs sights result ↔
    ∃ turns, routine.Plays turns result ∧ sights = turns.flatMap Turn.sights ∧
      ∀ run ∈ turns.filterMap Turn.run?, (rest run.call).Runs run.sights run.result := by
  refine ⟨exists_turns, ?_⟩
  rintro ⟨turns, plays, rfl, each⟩
  exact plays.runs each

end Interceptor

namespace Scenario.Addon

open Interceptor (Routine Turn)

/-- What an interceptor of each kind does with a call, behind its remark. -/
def routineOf (call : Call) : AddonKind → Routine
  | .tag => .next call .answer
  | .answer reply => .answer reply
  | .twice => .next call fun _ => .next call .answer
  | .replaceParams params => .next { call with params } .answer
  | .redirect method => .next { call with method } .answer
  | .delay duration => .pause duration (.next call .answer)
  | .wrap => .next call fun r => .answer (wrapResult r)
  | .mute => .next call fun r => .answer (muteResult r)
  | .rescue reply => .next call fun r => .answer (rescueResult reply r)

def routine (a : Addon) (call : Call) : Routine :=
  .remark a.name call.method (routineOf call a.kind)

/-- All kinds of interceptors follow routines. -/
theorem follows_routine (a : Addon) (call : Call) :
    a.toInterceptor.Follows call (a.routine call) := by
  intro rest
  cases kind : a.kind <;>
    simp [toInterceptor, routine, routineOf, treat, Routine.around, Flow.map, kind,
      Flow.andThen_ended]

/-- How often an interceptor runs the rest of the chain. -/
def passes : AddonKind → Nat
  | .answer _ => 0
  | .twice => 2
  | _ => 1

theorem passes_of_next {call : Call} {f : CallResult → CallResult} {turns : List Turn}
    {r : CallResult} (plays : Routine.Plays (.next call fun r => .answer (f r)) turns (some r)) :
    (turns.filterMap Turn.run?).length = 1 := by
  cases plays with
  | next _ _ _ later =>
    cases later
    rfl

/-- An interceptor that comes to its end has run the rest of the chain as often as is said. -/
theorem passes_of_plays (a : Addon) (call : Call) {turns : List Turn} {r : CallResult}
    (plays : (a.routine call).Plays turns (some r)) :
    (turns.filterMap Turn.run?).length = passes a.kind := by
  cases plays with
  | remark _ _ later =>
    rw [List.filterMap_cons_none (Turn.run?_own _)]
    cases kind : a.kind <;> rw [kind] at later
    case answer reply =>
      cases later
      rfl
    case twice =>
      cases later with
      | next _ _ _ later =>
        rw [List.filterMap_cons_some (Turn.run?_next _), List.length_cons, passes_of_next later]
        rfl
    case delay duration =>
      cases later with
      | pause _ later => exact passes_of_next later
    all_goals exact passes_of_next later

end Scenario.Addon

namespace Interceptor

/-- A chain is built from its end and is yet the interceptors around each other in their order, each
of them around the calls, as they come to it, with a method that it handles, and let through by the
others. Two chains behind each other are one around the other. What is behind an interceptor that
does not run it does not matter for the call: whatever stands there, what becomes of the call is the
same. And what is to be seen of an interceptor that follows a routine, in front of any chain, are
the turns of the routine, which are remarks of its own and runs of the whole chain behind it, one
for each call that it passes on and with that call; without any, nothing is seen but what the
interceptor shows itself. -/
theorem chains_nest {α : Type} (chain behind : List (Interceptor α)) (last : Call → α) :
    chain.reverse.foldl (fun next i => i.before next) last = nested last chain ∧
      compose chain last = nested last chain ∧
      compose (chain ++ behind) last = compose chain (compose behind last) ∧
      (∀ (i : Interceptor α) (call : Call), i.handles call.method = true →
        (∀ rest rest', i.intercept call rest = i.intercept call rest') →
          ∀ others other, compose (i :: chain) last call = compose (i :: others) other call) ∧
      ∀ (i : Interceptor Flow) (call : Call) (routine : Routine), i.handles call.method = true →
        i.Follows call routine → ∀ (behind : List (Interceptor Flow)) (terminal : Call → Flow)
          (sights : List Sight) (result : Option CallResult),
            ((compose (i :: behind) terminal call).Runs sights result ↔
              ∃ turns, routine.Plays turns result ∧ sights = turns.flatMap Turn.sights ∧
                (∀ run ∈ turns.filterMap Turn.run?,
                  (compose behind terminal run.call).Runs run.sights run.result) ∧
                (turns.filterMap Turn.run? = [] → turns = sights.map Turn.own)) := by
  refine ⟨(foldl_reverse_eq_compose chain last).trans (compose_eq_nested chain last),
    compose_eq_nested chain last, compose_append chain behind last, ?answers, ?passes⟩
  case answers =>
    intro i call handles ignores others other
    rw [compose_of_handles handles, compose_of_handles handles]
    exact ignores _ _
  case passes =>
    intro i call routine handles follows behind terminal sights result
    rw [compose_of_handles handles, follows, Routine.runs_around_iff]
    refine exists_congr fun turns => and_congr_right fun _ => and_congr_right fun same => ?_
    rw [same]
    exact (and_iff_left Turn.eq_own_of_no_run).symm

end Interceptor

end LanguageBroker
