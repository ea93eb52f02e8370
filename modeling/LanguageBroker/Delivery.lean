import LanguageBroker.Site

/-!
Calls at the server that they are delivered to. A call that does not pass the server's middleware
is answered with nothing; any other reaches the server, which answers after a while unless the
caller gives up before.
-/

namespace LanguageBroker

/-- A call that a server works on. -/
structure Delivery where
  backend : BackendId
  method : Method
  start : Time
  due : Deadline
  /-- What the server will answer. -/
  reply : CallResult

namespace Delivery

/-- The server's answer to a call that was given up. -/
def givenUp : CallResult := .error (.cancelled "Canceled")

end Delivery

namespace Site

/-- Hands a call to a server: it is answered at once or worked on. -/
def beginCall (s : Site) (b : BackendId) (method : Method) (params : Json) :
    Site × (CallResult ⊕ Delivery) :=
  match s.backend? b with
  | none => (s, .inl (.ok none))
  | some x =>
    if x.middleware.passes method params then
      let plan := s.plan x.name
      (s.noteBackend b (.call method params),
        .inr ⟨b, method, s.clock.now, s.clock.after plan.callDelay, plan.reply method⟩)
    else (s, .inl (.ok none))

/-- The server answers a call. -/
def endCall (s : Site) (d : Delivery) : Site × CallResult :=
  (s.settleCall d.backend d.method d.start d.reply, d.reply)

/-- The caller gives a call up and the server notices. -/
def cancelCall (s : Site) (d : Delivery) : Site × CallResult :=
  ((s.noteBackend d.backend (.cancelled d.method)).settleCall d.backend d.method d.start
    Delivery.givenUp, Delivery.givenUp)

end Site

end LanguageBroker
