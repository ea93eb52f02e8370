import LanguageBroker.Error
import LanguageBroker.Json.Reader
import LanguageBroker.Text.Quoted

/-!
Messages on a byte stream: header lines up to a blank one, then a JSON body of the announced
length. Reading takes the bytes one message needs and gives back the rest; writing announces
exactly the bytes of the compact body.
-/

namespace LanguageBroker

/-- Why a number of bytes could not be read. -/
inductive LengthFault
  | empty
  | invalidDigit
  | tooLarge
  deriving DecidableEq, Repr

def LengthFault.message : LengthFault → String
  | .empty => "cannot parse integer from empty string"
  | .invalidDigit => "invalid digit found in string"
  | .tooLarge => "number too large to fit in target type"

/-- Why a stream holds no further message although it goes on. -/
inductive FrameError
  /-- A header line is not UTF-8. -/
  | headerText (fault : Text.Utf8Fault)
  | headersCut
  | lengthMissing
  | lengthBad (value : List Char) (fault : LengthFault)
  | bodyTooLong (length : Nat)
  | bodyCut
  | bodyMalformed
  deriving Repr

namespace Frame

/-- No body is longer than this: 16 MiB. -/
def maxBodyLength : Nat := 16777216

end Frame

/-- The fault as a failure of the server that the stream comes from. -/
def FrameError.toBackendError : FrameError → BackendError
  | .headerText fault => .io fault.message
  | .headersCut => .frame "stream ended inside headers"
  | .lengthMissing => .frame "missing Content-Length"
  | .lengthBad value fault =>
    .frame ("bad Content-Length " ++ String.ofList (Text.shown value) ++ ": " ++ fault.message)
  | .bodyTooLong length =>
    .frame ("body of " ++ toString length ++ " bytes exceeds " ++ toString Frame.maxBodyLength)
  | .bodyCut => .io "early eof"
  | .bodyMalformed => .json "the body is not one JSON value"

namespace Frame

/-- The byte that ends a line. -/
def lineEnd : UInt8 := 0x0A

/-- The first line with its end, and the bytes after it. The last line may lack its end. -/
def splitLine : List UInt8 → List UInt8 × List UInt8
  | [] => ([], [])
  | b :: bs =>
    if b == lineEnd then ([b], bs)
    else
      let (line, rest) := splitLine bs
      (b :: line, rest)

theorem length_splitLine_lt (b : UInt8) (bs : List UInt8) :
    (splitLine (b :: bs)).2.length < (b :: bs).length := by
  induction bs generalizing b with
  | nil => by_cases h : b == lineEnd <;> simp [splitLine, h]
  | cons c cs ih =>
    have := ih c
    by_cases h : b == lineEnd
    · simp [splitLine, h]
    · rw [splitLine, if_neg h]
      exact Nat.lt_succ_of_lt this

/-- Lengths have to fit 64 bits. -/
def lengthBound : Nat := 18446744073709551616

/-- A number from its decimal digits, after those that make up `acc`. -/
def digits (acc : Nat) : List Char → Except LengthFault Nat
  | [] => .ok acc
  | c :: cs =>
    match Json.digitValue? c with
    | none => .error .invalidDigit
    | some d => if acc * 10 + d < lengthBound then digits (acc * 10 + d) cs else .error .tooLarge

/-- A length: digits, perhaps behind a plus sign. -/
def parseLength : List Char → Except LengthFault Nat
  | [] => .error .empty
  | ['+'] => .error .invalidDigit
  | '+' :: cs => digits 0 cs
  | cs => digits 0 cs

/-- The name of the header that matters. -/
def lengthHeader : List Char := "Content-Length".toList

/-- The value of a trimmed line that states the length. -/
def lengthValue? (line : List Char) : Option (List Char) :=
  match Text.splitOnce ':' line with
  | some (name, value) =>
    if Text.eqIgnoreCase (Text.trim name) lengthHeader then some value else none
  | none => none

/-- Reads header lines up to the blank one; `length` was stated by the lines before. The last
statement counts. -/
def headers (length : Option Nat) (bytes : List UInt8) :
    Except FrameError (Option Nat × List UInt8) :=
  match bytes with
  | [] => .error .headersCut
  | b :: bs =>
    match Text.decode (splitLine (b :: bs)).1 with
    | .error fault => .error (.headerText fault)
    | .ok line =>
      if (Text.trim line).isEmpty then .ok (length, (splitLine (b :: bs)).2)
      else
        match lengthValue? (Text.trim line) with
        | none => headers length (splitLine (b :: bs)).2
        | some value =>
          match parseLength (Text.trim value) with
          | .ok n => headers (some n) (splitLine (b :: bs)).2
          | .error fault => .error (.lengthBad value fault)
termination_by bytes.length
decreasing_by all_goals exact length_splitLine_lt b bs

/-- The first message of a stream and the bytes after it; nothing when the stream is empty. -/
def read (bytes : List UInt8) : Except FrameError (Option (Json × List UInt8)) :=
  match bytes with
  | [] => .ok none
  | _ =>
    match headers none bytes with
    | .error e => .error e
    | .ok (none, _) => .error .lengthMissing
    | .ok (some n, rest) =>
      if n > maxBodyLength then .error (.bodyTooLong n)
      else if rest.length < n then .error .bodyCut
      else
        match Json.ofBytes? (rest.take n) with
        | some v => .ok (some (v, rest.drop n))
        | none => .error .bodyMalformed

/-- How the reading of a stream came to its end. -/
inductive Ending
  | clean
  | fault (cause : FrameError)
  deriving Repr

/-- All messages up to the end or the first fault. Every message takes at least one byte, so as
many reads as there are bytes, and one more, suffice. -/
def readAll (bytes : List UInt8) : List Json × Ending :=
  go (bytes.length + 1) bytes
where
  go : Nat → List UInt8 → List Json × Ending
    | 0, _ => ([], .clean)
    | fuel + 1, bytes =>
      match read bytes with
      | .error e => ([], .fault e)
      | .ok none => ([], .clean)
      | .ok (some (v, rest)) =>
        let (vs, ending) := go fuel rest
        (v :: vs, ending)

/-- What a stream that may still grow has to offer. -/
inductive Arrival
  /-- More bytes are needed to tell. -/
  | partly
  | message (v : Json) (rest : List UInt8)
  | ended
  | fault (cause : FrameError)
  deriving Repr

/-- The bytes up to the end of the last whole line. -/
def wholeLines (bytes : List UInt8) : List UInt8 :=
  (bytes.reverse.dropWhile (· != lineEnd)).reverse

/-- The first message among the bytes that have come so far. Only whole header lines are looked at
while the stream goes on. -/
def arrival (ended : Bool) (bytes : List UInt8) : Arrival :=
  if ended then
    match read bytes with
    | .ok none => .ended
    | .ok (some (v, rest)) => .message v rest
    | .error e => .fault e
  else
    let lines := wholeLines bytes
    match headers none lines with
    | .error .headersCut => .partly
    | .error e => .fault e
    | .ok (none, _) => .fault .lengthMissing
    | .ok (some n, rest) =>
      let body := bytes.drop (lines.length - rest.length)
      if n > maxBodyLength then .fault (.bodyTooLong n)
      else if body.length < n then .partly
      else
        match Json.ofBytes? (body.take n) with
        | some v => .message v (body.drop n)
        | none => .fault .bodyMalformed

/-- The bytes of one message. -/
def write (message : Json) : List UInt8 :=
  let body := Text.encode message.chars
  Text.encode ("Content-Length: " ++ toString body.length ++ "\r\n\r\n").toList ++ body

end Frame

end LanguageBroker
