import LanguageBroker.Frame
import LanguageBroker.Scenario.Reading

/-!
Servers that do as they are told, at the far end of the streams. To every request there is a rule:
some messages first, each request among them being answered before the next, and then an ending.
-/

namespace LanguageBroker.Scenario

/-- How a peer ends its reaction to a request. -/
inductive Peer.Ending
  /-- It dies. -/
  | die
  /-- It writes a text that need not be a message. -/
  | raw (text : String)
  | error (e : Json)
  | result (v : Json)

structure Peer.Rule where
  before : List Json := []
  ending : Peer.Ending := .result .null

/-- A reaction that has come to a halt until the next message comes. -/
structure Peer.Halt where
  id : Json
  left : List Json
  ending : Peer.Ending

structure Peer where
  rules : List (String × Peer.Rule)
  /-- The messages that came. -/
  got : List Json := []
  halt : Option Peer.Halt := none
  isGone : Bool := false

namespace Peer

def readEnding (v : Json) : Ending :=
  if boolMember "die" v then .die
  else
    match textMember? "raw" v, v.get? "error" with
    | some text, _ => .raw text
    | none, some e => .error e
    | none, none => .result (valueMember "result" v)

def readRule (v : Json) : Rule := ⟨listMember "before" v, readEnding v⟩

/-- A peer with the rules of a scenario. -/
def ofJson (v : Json) : Peer :=
  { rules := (((v.get? "on").bind Json.members?).getD []).map fun m => (m.1, readRule m.2) }

/-- The peer of a new process. What came to the old one is remembered. -/
def renew (p : Peer) : Peer := { p with halt := none, isGone := false }

def response (id : Json) (key : String) (v : Json) : List UInt8 :=
  Frame.write (Json.object [("jsonrpc", .str "2.0"), ("id", id), (key, v)])

/-- The end of a reaction. -/
def conclude (p : Peer) (id : Json) : Ending → Peer × List UInt8
  | .die => ({ p with isGone := true }, [])
  | .raw text => (p, Text.encode text.toList)
  | .error e => (p, response id "error" e)
  | .result v => (p, response id "result" v)

/-- Does a message wait for an answer? -/
def asks (v : Json) : Bool := (v.get? "id").isSome && (v.get? "method").isSome

/-- Goes on with a reaction. -/
def react (p : Peer) (id : Json) (ending : Ending) : List Json → Peer × List UInt8
  | [] => p.conclude id ending
  | v :: left =>
    if asks v then ({ p with halt := some ⟨id, left, ending⟩ }, Frame.write v)
    else
      let (p, bytes) := p.react id ending left
      (p, Frame.write v ++ bytes)

/-- A message comes. The peer changes and writes something. -/
def hear (p : Peer) (message : Json) : Peer × List UInt8 :=
  let p := { p with got := p.got ++ [message] }
  match p.halt with
  | some h => { p with halt := none }.react h.id h.ending h.left
  | none =>
    match message.get? "id", textMember? "method" message with
    | some id, some method =>
      let rule := (p.rules.lookup method).getD {}
      p.react id rule.ending rule.before
    | none, some "exit" => ({ p with isGone := true }, [])
    | _, _ => (p, [])

/-- The messages that came, as they are written down: a process number is not told, and the last
farewell may have come too late. -/
def shown (messages : List Json) : List Json :=
  (messages.filter fun m => textMember? "method" m != some "exit").map fun m =>
    match m, m.path? ["params", "processId"] with
    | .obj members, some (.int _) =>
      match valueMember "params" m with
      | .obj params =>
        .obj (Json.insertMember "params"
          (.obj (Json.insertMember "processId" (.bool true) params)) members)
      | _ => m
    | m, _ => m

end Peer

end LanguageBroker.Scenario
