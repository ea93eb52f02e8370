/-!
UTF-8 over lists of bytes: encoding, strict decoding that says where the first fault lies, and
lossy decoding that replaces each faulty stretch by U+FFFD. A fault has a length when the bytes
can never continue to a character, and none when the input merely ends too early.
-/

namespace LanguageBroker.Text

/-- The UTF-8 bytes of one character. -/
def encodeChar (c : Char) : List UInt8 :=
  let n := c.toNat
  let byte (k : Nat) : UInt8 := UInt8.ofNat k
  if n < 0x80 then [byte n]
  else if n < 0x800 then [byte (0xC0 + n / 64), byte (0x80 + n % 64)]
  else if n < 0x10000 then
    [byte (0xE0 + n / 4096), byte (0x80 + n / 64 % 64), byte (0x80 + n % 64)]
  else
    [byte (0xF0 + n / 262144), byte (0x80 + n / 4096 % 64), byte (0x80 + n / 64 % 64),
      byte (0x80 + n % 64)]

/-- The UTF-8 bytes of a text. -/
def encode (cs : List Char) : List UInt8 := cs.flatMap encodeChar

/-- What stands at the front of a non-empty byte list. -/
inductive Lead
  /-- A whole character, and the bytes after it. -/
  | char (c : Char) (rest : List UInt8)
  /-- `length` bytes that start no character, and the bytes after them. -/
  | invalid (length : Nat) (rest : List UInt8)
  /-- The input ends inside a character. -/
  | cut

/-- May `b` follow a first byte? -/
def isFollowing (b : UInt8) : Bool := 0x80 ≤ b && b ≤ 0xBF

/-- Reads one character. The second byte's range depends on the first, so that overlong forms,
surrogates and values above U+10FFFF are refused. -/
def lead (b : UInt8) (rest : List UInt8) : Lead :=
  let low (x : UInt8) : Nat := x.toNat % 64
  let second (lo hi : UInt8) (x : UInt8) : Bool := lo ≤ x && x ≤ hi
  if b < 0x80 then .char (Char.ofNat b.toNat) rest
  else if 0xC2 ≤ b && b ≤ 0xDF then
    match rest with
    | [] => .cut
    | x :: r =>
      if isFollowing x then .char (Char.ofNat ((b.toNat - 0xC0) * 64 + low x)) r
      else .invalid 1 rest
  else if 0xE0 ≤ b && b ≤ 0xEF then
    let ok := if b == 0xE0 then second 0xA0 0xBF else if b == 0xED then second 0x80 0x9F
      else isFollowing
    match rest with
    | [] => .cut
    | x :: r =>
      if ok x then
        match r with
        | [] => .cut
        | y :: r' =>
          if isFollowing y then
            .char (Char.ofNat ((b.toNat - 0xE0) * 4096 + low x * 64 + low y)) r'
          else .invalid 2 r
      else .invalid 1 rest
  else if 0xF0 ≤ b && b ≤ 0xF4 then
    let ok := if b == 0xF0 then second 0x90 0xBF else if b == 0xF4 then second 0x80 0x8F
      else isFollowing
    match rest with
    | [] => .cut
    | x :: r =>
      if ok x then
        match r with
        | [] => .cut
        | y :: r' =>
          if isFollowing y then
            match r' with
            | [] => .cut
            | z :: r'' =>
              if isFollowing z then
                .char (Char.ofNat
                  ((b.toNat - 0xF0) * 262144 + low x * 4096 + low y * 64 + low z)) r''
              else .invalid 3 r'
          else .invalid 2 r
      else .invalid 1 rest
  else .invalid 1 rest

/-- Where decoding stopped: the index of the first faulty byte, and the fault's length unless the
input was cut off. -/
structure Utf8Fault where
  index : Nat
  length : Option Nat
  deriving DecidableEq, Repr

/-- The fault in words. -/
def Utf8Fault.message (f : Utf8Fault) : String :=
  match f.length with
  | some n => "invalid utf-8 sequence of " ++ toString n ++ " bytes from index " ++ toString f.index
  | none => "incomplete utf-8 byte sequence from index " ++ toString f.index

/-- Strict decoding. The fuel is the number of bytes, as every character takes at least one. -/
def decodeFrom : (fuel index : Nat) → List UInt8 → Except Utf8Fault (List Char)
  | 0, _, _ => .ok []
  | _ + 1, _, [] => .ok []
  | fuel + 1, index, b :: bs =>
    match lead b bs with
    | .char c rest => do
      let cs ← decodeFrom fuel (index + ((b :: bs).length - rest.length)) rest
      return c :: cs
    | .invalid n _ => .error ⟨index, some n⟩
    | .cut => .error ⟨index, none⟩

/-- The text that `bytes` encode, or the first fault. -/
def decode (bytes : List UInt8) : Except Utf8Fault (List Char) :=
  decodeFrom bytes.length 0 bytes

/-- The text that `bytes` encode, with U+FFFD for each faulty stretch. -/
def decodeLossy (bytes : List UInt8) : List Char :=
  go bytes.length bytes
where
  go : Nat → List UInt8 → List Char
    | 0, _ => []
    | _ + 1, [] => []
    | fuel + 1, b :: bs =>
      match lead b bs with
      | .char c rest => c :: go fuel rest
      | .invalid _ rest => '\uFFFD' :: go fuel rest
      | .cut => ['\uFFFD']

end LanguageBroker.Text
