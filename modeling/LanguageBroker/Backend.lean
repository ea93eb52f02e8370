import LanguageBroker.Middleware
import LanguageBroker.Options

/-!
Language servers as the broker sees them: they are made for a scope, started once, called while
they run, and disposed of. How long that takes and how it ends is the server's plan.
-/

namespace LanguageBroker

/-- The usual answer: nothing to a notification and null to a request. -/
def Plan.usualReply (method : Method) : CallResult :=
  .ok (if method.isNotification then none else some .null)

/-- How a server behaves. Delays are in milliseconds. -/
structure Plan where
  createFailure : Option BackendError := none
  startDelay : Nat := 0
  startFailure : Option BackendError := none
  /-- The version that the server tells when it has started. -/
  version : Option String := none
  disposeDelay : Nat := 0
  callDelay : Nat := 0
  /-- The answers to calls. -/
  reply : Method → CallResult := Plan.usualReply

/-- A server's name: its variant, the scope that it was made for, and the how manieth of these. -/
structure BackendName where
  variant : Variant
  key : ScopeKey
  number : Nat
  deriving DecidableEq, Repr

namespace BackendName

/-- The name without the number. -/
def kind (n : BackendName) : String := n.variant.name ++ "@" ++ n.key.text

def text (n : BackendName) : String := n.kind ++ "#" ++ toString n.number

end BackendName

/-- A server that has been made. -/
structure Backend where
  name : BackendName
  plan : Plan
  middleware : Middleware

/-- What happens to a server. -/
inductive BackendEvent
  | create
  | start (options : Options)
  | started
  | failed
  | dispose
  | disposed
  | call (method : Method) (params : Json)
  | cancelled (method : Method)
  | dropped (method : Method)

/-- What the surroundings see of the broker's work. -/
inductive Happening
  /-- Somebody is asked whether a server's program is there. -/
  | asked (variant : Variant) (key : ScopeKey)
  | backend (name : BackendName) (event : BackendEvent)

end LanguageBroker
