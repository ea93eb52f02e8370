import LanguageBroker.Connection

/-!
The two streams between a connection and its server. What the server has written lies there until
the reader takes it in, and a message is handed over only while the server reads.
-/

namespace LanguageBroker

structure Wire where
  connection : Connection := {}
  /-- What the server has written and was not read yet. -/
  input : List UInt8 := []
  /-- Will the server write no more? -/
  inputEnded : Bool := false
  /-- Does the server read? -/
  serverReads : Bool := true

namespace Wire

/-- The server writes. After the end of its output nothing reaches the broker. -/
def feed (w : Wire) (bytes : List UInt8) : Wire :=
  if w.inputEnded then w else { w with input := w.input ++ bytes }

/-- The server closes both its ends. -/
def hangUp (w : Wire) : Wire := { w with inputEnded := true, serverReads := false }

/-- Is there something for the reader? -/
def hasInput (w : Wire) : Bool :=
  w.connection.reads &&
    match Frame.arrival w.inputEnded w.input with
    | .partly => false
    | _ => true

/-- The reader takes in what comes next. Requests and notifications are for the handler. -/
def read (w : Wire) : Wire × Option Incoming :=
  match Frame.arrival w.inputEnded w.input with
  | .partly => (w, none)
  | .ended | .fault _ => ({ w with connection := w.connection.endInput }, none)
  | .message v rest =>
    let (connection, incoming) := w.connection.receive v
    ({ w with connection, input := rest }, incoming)

/-- Is there something for the writer? -/
def hasOutput (w : Wire) : Bool := w.connection.writes && !w.connection.queue.isEmpty

/-- The writer hands the next message over, or stops because nobody reads. -/
def write (w : Wire) : Wire × Option Json :=
  match w.connection.next? with
  | none => (w, none)
  | some (message, connection) =>
    if w.serverReads then ({ w with connection }, some message)
    else ({ w with connection := connection.endOutput }, none)

end Wire

end LanguageBroker
