import LanguageBroker.Json
import LanguageBroker.Method

/-!
Chains of interceptors. Each sees a call before those behind it and decides what becomes of it: it
may pass the call on, changed or not, once, several times or not at all. One that does not handle
the method of a call lets it through.
-/

namespace LanguageBroker

/-- A protocol call. -/
structure Call where
  method : Method
  params : Json
  /-- Has the caller given it up? -/
  cancelled : Bool := false

/-- Answers to calls are of type `α`. An interceptor is given the rest of the chain. -/
structure Interceptor (α : Type) where
  handles : Method → Bool
  intercept : Call → (Call → α) → α

namespace Interceptor

/-- The interceptor in front of the rest of a chain. -/
def before (i : Interceptor α) (rest : Call → α) (call : Call) : α :=
  if i.handles call.method then i.intercept call rest else rest call

/-- The interceptors of a chain, the first one outermost, around what finally answers. -/
def compose (chain : List (Interceptor α)) (last : Call → α) : Call → α :=
  chain.foldr before last

end Interceptor

end LanguageBroker
