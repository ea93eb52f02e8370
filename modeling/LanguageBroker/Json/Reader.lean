import LanguageBroker.Json
import LanguageBroker.Text.Utf8

/-!
A strict JSON reader over characters. Strings hold no raw control character and no lone
surrogate, numbers have no leading zero, nesting is limited, and nothing but white space may
follow the value. Whole numbers that fit 64 bits stay whole; all others become decimals.
-/

namespace LanguageBroker.Json

/-- Arrays and objects may be nested this deep. -/
def depthLimit : Nat := 127

/-- White space between tokens. -/
def isSpace (c : Char) : Bool := c = ' ' || c = '\n' || c = '\t' || c = '\r'

def skipSpace (cs : List Char) : List Char := cs.dropWhile isSpace

def digitValue? (c : Char) : Option Nat :=
  if '0' ≤ c ∧ c ≤ '9' then some (c.toNat - 48) else none

def hexValue? (c : Char) : Option Nat :=
  if '0' ≤ c ∧ c ≤ '9' then some (c.toNat - 48)
  else if 'a' ≤ c ∧ c ≤ 'f' then some (c.toNat - 87)
  else if 'A' ≤ c ∧ c ≤ 'F' then some (c.toNat - 55)
  else none

/-- Four hexadecimal digits, and the rest. -/
def hexQuad : List Char → Option (Nat × List Char)
  | a :: b :: c :: d :: rest => do
    let n := ((← hexValue? a) * 16 + (← hexValue? b)) * 256 + (← hexValue? c) * 16
      + (← hexValue? d)
    return (n, rest)
  | _ => none

/-- The escape after a backslash: its character and the rest. A high surrogate has to be
followed by the escape of a low one. -/
def escape : List Char → Option (Char × List Char)
  | '"' :: r => some ('"', r)
  | '\\' :: r => some ('\\', r)
  | '/' :: r => some ('/', r)
  | 'b' :: r => some (Char.ofNat 8, r)
  | 'f' :: r => some (Char.ofNat 12, r)
  | 'n' :: r => some ('\n', r)
  | 'r' :: r => some ('\r', r)
  | 't' :: r => some ('\t', r)
  | 'u' :: r => do
    let (n, r) ← hexQuad r
    if 0xD800 ≤ n ∧ n ≤ 0xDBFF then
      match r with
      | '\\' :: 'u' :: r' => do
        let (m, r'') ← hexQuad r'
        if 0xDC00 ≤ m ∧ m ≤ 0xDFFF then
          return (Char.ofNat (0x10000 + (n - 0xD800) * 1024 + (m - 0xDC00)), r'')
        else none
      | _ => none
    else if 0xDC00 ≤ n ∧ n ≤ 0xDFFF then none
    else return (Char.ofNat n, r)
  | _ => none

/-- The text of a string literal after its opening quote, and what follows the closing one. -/
def stringBody : Nat → List Char → Option (List Char × List Char)
  | 0, _ => none
  | _ + 1, [] => none
  | _ + 1, '"' :: r => some ([], r)
  | fuel + 1, '\\' :: r => do
    let (c, r) ← escape r
    let (cs, r) ← stringBody fuel r
    return (c :: cs, r)
  | fuel + 1, c :: r =>
    if c.toNat < 32 then none
    else do
      let (cs, r) ← stringBody fuel r
      return (c :: cs, r)

/-- Significands have at most 64 bits. -/
def significandBound : Nat := 18446744073709551616

/-- A significand of at most 64 bits: digits are taken while they fit, and the count of digits
left out is kept. -/
structure Digits where
  significand : Nat
  dropped : Nat
  deriving Repr

def Digits.push (d : Digits) (digit : Nat) : Digits :=
  if d.dropped = 0 ∧ d.significand * 10 + digit < significandBound then
    ⟨d.significand * 10 + digit, 0⟩
  else ⟨d.significand, d.dropped + 1⟩

/-- Splits off the leading digits. -/
def spanDigits (cs : List Char) : List Nat × List Char :=
  ((cs.takeWhile fun c => (digitValue? c).isSome).filterMap digitValue?,
    cs.dropWhile fun c => (digitValue? c).isSome)

/-- Is an exponent negative? And what follows its sign. -/
def exponentSign : List Char → Bool × List Char
  | '+' :: r => (false, r)
  | '-' :: r => (true, r)
  | r => (false, r)

/-- The exponent part of a number, applied to what came before it. An exponent out of the range
of 32 bits gives zero or, for a positive one and a significand other than zero, nothing. -/
def exponentPart (negative : Bool) (significand : Nat) (exponent : Int) (cs : List Char) :
    Option (Json × List Char) := do
  let (down, cs) := exponentSign cs
  let (ds, rest) := spanDigits cs
  if ds.isEmpty then none
  else
    let e : Nat := ds.foldl (fun acc d => acc * 10 + d) 0
    if e > 2147483647 then
      if significand ≠ 0 ∧ ¬ down then none
      else return (.real ⟨negative, 0, 0⟩, rest)
    else
      let shift : Int := (e : Nat)
      let x ← Decimal.ofScaled negative significand
        (if down then exponent - shift else exponent + shift)
      return (.real x, rest)

/-- The digits behind the point, put behind those before it while they fit, and the exponent that
this gives. -/
def Digits.fraction (whole : Digits) (ds : List Nat) : Nat × Int :=
  let (significand, taken, _) := ds.foldl
    (fun (s, n, full) d =>
      if ¬ full ∧ s * 10 + d < significandBound then (s * 10 + d, n + 1, false)
      else (s, n, true))
    (whole.significand, 0, false)
  (significand, (whole.dropped : Int) - ((taken : Nat) : Int))

/-- What follows the fraction of a number. -/
def scaledPart (negative : Bool) (significand : Nat) (exponent : Int) (cs : List Char) :
    Option (Json × List Char) :=
  match cs with
  | 'e' :: r => exponentPart negative significand exponent r
  | 'E' :: r => exponentPart negative significand exponent r
  | _ => (Decimal.ofScaled negative significand exponent).map fun x => (.real x, cs)

/-- The value of a number that has neither a fraction nor an exponent. -/
def Digits.value? (negative : Bool) (whole : Digits) : Option Json :=
  if whole.dropped ≠ 0 then
    (Decimal.ofScaled negative whole.significand whole.dropped).map .real
  else if ¬ negative then some (.int whole.significand)
  else if whole.significand = 0 ∨ whole.significand > significandBound / 2 then
    (Decimal.ofScaled true whole.significand 0).map .real
  else some (.int (-(whole.significand : Int)))

/-- What follows the whole part of a number. -/
def fractionPart (negative : Bool) (whole : Digits) (cs : List Char) :
    Option (Json × List Char) :=
  match cs with
  | '.' :: r =>
    let (ds, rest) := spanDigits r
    if ds.isEmpty then none
    else
      let (significand, exponent) := whole.fraction ds
      scaledPart negative significand exponent rest
  | 'e' :: r => exponentPart negative whole.significand whole.dropped r
  | 'E' :: r => exponentPart negative whole.significand whole.dropped r
  | _ => (whole.value? negative).map fun v => (v, cs)

/-- A number after its sign: one zero, or digits that do not start with zero. -/
def number (negative : Bool) (cs : List Char) : Option (Json × List Char) :=
  match cs with
  | '0' :: r =>
    match r with
    | c :: _ => if (digitValue? c).isSome then none else fractionPart negative ⟨0, 0⟩ r
    | [] => fractionPart negative ⟨0, 0⟩ r
  | _ =>
    let (ds, rest) := spanDigits cs
    if ds.isEmpty then none
    else fractionPart negative (ds.foldl Digits.push ⟨0, 0⟩) rest

/-- The rest after a fixed word. -/
def word (w : String) (value : Json) (cs : List Char) : Option (Json × List Char) :=
  if cs.take w.length = w.toList then some (value, cs.drop w.length) else none

mutual

/-- A value at the front of `cs`, and the rest. `depth` more levels of nesting are allowed. -/
def value : (fuel depth : Nat) → List Char → Option (Json × List Char)
  | 0, _, _ => none
  | fuel + 1, depth, cs =>
    match skipSpace cs with
    | '"' :: r => (stringBody (r.length + 1) r).map fun p => (.str (String.ofList p.1), p.2)
    | '[' :: r =>
      match depth with
      | 0 => none
      | depth + 1 =>
        match skipSpace r with
        | ']' :: r' => some (.arr [], r')
        | _ => (items fuel depth r).map fun p => (.arr p.1, p.2)
    | '{' :: r =>
      match depth with
      | 0 => none
      | depth + 1 =>
        match skipSpace r with
        | '}' :: r' => some (.obj [], r')
        | _ => (members fuel depth r).map fun p => (object p.1, p.2)
    | '-' :: r => number true r
    | 't' :: r => word "rue" (.bool true) r
    | 'f' :: r => word "alse" (.bool false) r
    | 'n' :: r => word "ull" .null r
    | r => number false r

/-- One or more items up to the closing bracket. -/
def items : (fuel depth : Nat) → List Char → Option (List Json × List Char)
  | 0, _, _ => none
  | fuel + 1, depth, cs => do
    let (v, r) ← value fuel depth cs
    match skipSpace r with
    | ',' :: r' => do
      let (vs, r'') ← items fuel depth r'
      return (v :: vs, r'')
    | ']' :: r' => return ([v], r')
    | _ => none

/-- One or more members up to the closing brace, in the order written. -/
def members : (fuel depth : Nat) → List Char → Option (List (String × Json) × List Char)
  | 0, _, _ => none
  | fuel + 1, depth, cs =>
    match skipSpace cs with
    | '"' :: r => do
      let (k, r) ← stringBody (r.length + 1) r
      match skipSpace r with
      | ':' :: r => do
        let (v, r) ← value fuel depth r
        match skipSpace r with
        | ',' :: r' => do
          let (ms, r'') ← members fuel depth r'
          return ((String.ofList k, v) :: ms, r'')
        | '}' :: r' => return ([(String.ofList k, v)], r')
        | _ => none
      | _ => none
    | _ => none

end

/-- The value that a text holds, when it holds exactly one. -/
def ofChars? (cs : List Char) : Option Json :=
  match value (2 * cs.length + 2) depthLimit cs with
  | some (v, rest) => if (skipSpace rest).isEmpty then some v else none
  | none => none

/-- The value that UTF-8 bytes hold. -/
def ofBytes? (bytes : List UInt8) : Option Json :=
  match Text.decode bytes with
  | .ok cs => ofChars? cs
  | .error _ => none

end LanguageBroker.Json
