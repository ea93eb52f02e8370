import LanguageBroker.Middleware.Passage
import LanguageBroker.Scenario.Reading

/-!
Interceptors of a few simple kinds. Each makes a remark about every call that it sees.
-/

namespace LanguageBroker.Scenario

/-- What an interceptor does with a call, besides remarking on it. -/
inductive AddonKind
  /-- Passes it on. -/
  | tag
  | answer (reply : CallResult)
  /-- Passes it on twice and forgets the first result. -/
  | twice
  | replaceParams (params : Json)
  | redirect (method : Method)
  | delay (duration : Nat)
  /-- Puts a successful result into an object. -/
  | wrap
  /-- Keeps a successful result back. -/
  | mute
  /-- Answers in place of an error. -/
  | rescue (reply : CallResult)

structure Addon where
  name : String
  /-- The methods it handles; all of them if nothing is said. -/
  only : Option (List Method)
  kind : AddonKind

namespace Addon

def wrapResult : CallResult → CallResult
  | .ok r => .ok (some (Json.object [("wrapped", r.getD .null)]))
  | .error e => .error e

def muteResult : CallResult → CallResult
  | .ok _ => .ok none
  | .error e => .error e

def rescueResult (reply : CallResult) : CallResult → CallResult
  | .ok r => .ok r
  | .error _ => reply

/-- What an interceptor makes of a call. -/
def treat (call : Call) (rest : Call → Flow) : AddonKind → Flow
  | .tag => rest call
  | .answer reply => .ended reply
  | .twice => (rest call).andThen fun _ => rest call
  | .replaceParams params => rest { call with params }
  | .redirect method => rest { call with method }
  | .delay duration => .pause duration (rest call)
  | .wrap => (rest call).map wrapResult
  | .mute => (rest call).map muteResult
  | .rescue reply => (rest call).map (rescueResult reply)

def toInterceptor (a : Addon) : Interceptor Flow where
  handles m := match a.only with
    | some list => list.contains m
    | none => true
  intercept call rest := .remark a.name call.method (treat call rest a.kind)

def readKind (v : Json) : AddonKind :=
  let reply := readReply (valueMember "reply" v)
  match textMember "kind" v with
  | "answer" => .answer reply
  | "twice" => .twice
  | "replace_params" => .replaceParams (valueMember "params" v)
  | "redirect" => (((textMember? "to" v).bind Method.ofName?).map .redirect).getD .tag
  | "delay" => .delay (natMember "ms" v)
  | "wrap" => .wrap
  | "mute" => .mute
  | "rescue" => .rescue reply
  | _ => .tag

def ofJson (v : Json) : Addon :=
  { name := textMember "name" v
    only := (member? "only" v).map fun list => (readTexts list).filterMap Method.ofName?
    kind := readKind v }

/-- The chain of interceptors that a value lists. -/
def readChain (v : Json) : List (Interceptor Flow) :=
  (listMember "addons" v).map fun a => (ofJson a).toInterceptor

end Addon

end LanguageBroker.Scenario
