/-!
Decimal numbers held as binary64 values. A number with a fraction or an exponent is rounded to
the nearest binary64 value and then kept as the shortest decimal that rounds to the same value,
so two spellings of one value are one `Decimal` and printing it reads back.
-/

namespace LanguageBroker

/-- The value `digits * 10 ^ exponent`, negated when `negative`. Zero has exponent 0. -/
structure Decimal where
  negative : Bool
  digits : Nat
  exponent : Int
  deriving DecidableEq, Repr

namespace Double

/-- A non-negative finite binary64 value `significand * 2 ^ power`, with
`significand < 2 ^ 53` and `-1074 ≤ power`. -/
structure Magnitude where
  significand : Nat
  power : Int
  deriving DecidableEq, Repr

/-- The quotient of two naturals rounded to the nearest natural, a half to the even one. -/
def roundDiv (num den : Nat) : Nat :=
  let q := num / den
  let r := num % den
  if 2 * r > den || (2 * r == den && q % 2 == 1) then q + 1 else q

/-- `num / den / 2 ^ power`, as a pair of naturals. -/
def scaled (num den : Nat) (power : Int) : Nat × Nat :=
  if power ≥ 0 then (num, den * Nat.pow 2 power.toNat) else (num * Nat.pow 2 (-power).toNat, den)

/-- The least significand of 53 bits, `2 ^ 52`. -/
def leastFull : Nat := 4503599627370496

/-- The binary64 value nearest to `num / den`; none when that is infinite. -/
def ofRatio (num den : Nat) : Option Magnitude :=
  if num = 0 then some ⟨0, -1074⟩
  else
    let guess : Int := (Nat.log2 num : Int) - (Nat.log2 den : Int) - 52
    let (n, d) := scaled num den guess
    let exact :=
      if n / d < leastFull then guess - 1
      else if n / d ≥ 2 * leastFull then guess + 1
      else guess
    let power := max exact (-1074)
    let (n, d) := scaled num den power
    let m := roundDiv n d
    let (m, power) := if m = 2 * leastFull then (leastFull, power + 1) else (m, power)
    if power > 971 then none else some ⟨m, power⟩

/-- The value as a pair of naturals, numerator first. -/
def Magnitude.ratio (x : Magnitude) : Nat × Nat :=
  if x.power ≥ 0 then (x.significand * Nat.pow 2 x.power.toNat, 1)
  else (x.significand, Nat.pow 2 (-x.power).toNat)

/-- The whole number nearest to `n` that is a binary64 value. -/
def nearest (n : Int) : Int :=
  match ofRatio n.natAbs 1 with
  | some x => n.sign * (x.ratio.1 / x.ratio.2 : Nat)
  | none => n

/-- `x * 10 ^ k`, rounded, with the power of ten itself rounded to binary64 first. -/
def Magnitude.timesPow (x : Magnitude) (k : Nat) : Option Magnitude := do
  let p ← ofRatio (Nat.pow 10 k) 1
  ofRatio (x.ratio.1 * p.ratio.1) (x.ratio.2 * p.ratio.2)

/-- `x / 10 ^ k`, rounded, with the power of ten itself rounded to binary64 first. -/
def Magnitude.overPow (x : Magnitude) (k : Nat) : Option Magnitude := do
  let p ← ofRatio (Nat.pow 10 k) 1
  ofRatio (x.ratio.1 * p.ratio.2) (x.ratio.2 * p.ratio.1)

/-- A 64-bit significand scaled by a power of ten. Powers beyond 308 are taken in steps; none
when the value is infinite. -/
def ofScaled (significand : Nat) (exponent : Int) : Option Magnitude := do
  let x ← ofRatio significand 1
  if exponent ≥ 0 then
    if exponent ≤ 308 then x.timesPow exponent.toNat
    else if significand = 0 then some x else none
  else shrink (exponent.natAbs / 308 + 1) x exponent.natAbs
where
  shrink : Nat → Magnitude → Nat → Option Magnitude
    | 0, x, _ => some x
    | fuel + 1, x, k =>
      if k ≤ 308 then x.overPow k
      else if x.significand = 0 then some x
      else do shrink fuel (← x.overPow 308) (k - 308)

/-- Does the ratio `n / d` round to `x`? The ends of the interval count when the significand is
even. -/
def Magnitude.attracts (x : Magnitude) (n d : Nat) : Bool :=
  let m := x.significand
  -- in quarters of a unit of the last place
  let low := if m = leastFull ∧ x.power > -1074 then 4 * m - 1 else 4 * m - 2
  let high := 4 * m + 2
  let (a, b) := scaled (4 * n) d x.power
  let even := m % 2 == 0
  let above := if even then low * b ≤ a else low * b < a
  let below := if even then a ≤ high * b else a < high * b
  above && below

/-- The distance between two ratios, over the common denominator. -/
def distance (n d n' d' : Nat) : Nat := max (n * d') (n' * d) - min (n * d') (n' * d)

/-- `digits * 10 ^ exponent` as a pair of naturals. -/
def decimalRatio (digits : Nat) (exponent : Int) : Nat × Nat :=
  if exponent ≥ 0 then (digits * Nat.pow 10 exponent.toNat, 1)
  else (digits, Nat.pow 10 (-exponent).toNat)

/-- The two neighbours of `x` on the grid `10 ^ exponent` that round to `x`, nearer one first. -/
def candidate (x : Magnitude) (exponent : Int) : Option Nat :=
  let (n, d) := x.ratio
  let (a, b) := if exponent ≥ 0 then (n, d * Nat.pow 10 exponent.toNat)
    else (n * Nat.pow 10 (-exponent).toNat, d)
  let low := a / b
  let fits (k : Nat) : Bool :=
    let (p, q) := decimalRatio k exponent
    k ≠ 0 && x.attracts p q
  let gap (k : Nat) : Nat := distance a b k 1
  match fits low, fits (low + 1) with
  | true, true =>
    if gap low < gap (low + 1) || (gap low == gap (low + 1) && low % 2 == 0) then some low
    else some (low + 1)
  | true, false => some low
  | false, true => some (low + 1)
  | false, false => none

/-- The power of ten of the leading digit of `x`. -/
def leadingExponent (x : Magnitude) : Int :=
  let (n, d) := x.ratio
  if n ≥ d then ((Nat.toDigits 10 (n / d)).length : Int) - 1
  else
    let up : Nat := ((List.range 330).find? fun k => n * Nat.pow 10 (k + 1) ≥ d).getD 330
    Int.neg (up + 1 : Nat)

/-- Drops trailing zeros of the digits into the exponent. -/
def stripZeros : Nat → Nat → Int → Nat × Int
  | 0, digits, exponent => (digits, exponent)
  | fuel + 1, digits, exponent =>
    if digits ≠ 0 ∧ digits % 10 = 0 then stripZeros fuel (digits / 10) (exponent + 1)
    else (digits, exponent)

/-- The shortest decimal that rounds to `x`: the coarsest of at most 17 digit grids with a
neighbour of `x` that rounds to `x`. -/
def shortest (negative : Bool) (x : Magnitude) : Decimal :=
  if x.significand = 0 then ⟨negative, 0, 0⟩
  else
    let top := leadingExponent x
    let found := (List.range 17).findSome? fun (k : Nat) =>
      let exponent := top - (k : Int)
      (candidate x exponent).map fun digits => (digits, exponent)
    match found with
    | some (digits, exponent) =>
      let (digits, exponent) := stripZeros 20 digits exponent
      ⟨negative, digits, exponent⟩
    | none => ⟨negative, x.significand, 0⟩

end Double

/-- The decimal kept for a 64-bit significand scaled by a power of ten; none when its value is
infinite. -/
def Decimal.ofScaled (negative : Bool) (significand : Nat) (exponent : Int) : Option Decimal :=
  (Double.ofScaled significand exponent).map (Double.shortest negative)

/-- The digits of a decimal: positional between `10 ^ -5` and `10 ^ 16`, always with a fraction,
and with a signed exponent elsewhere. -/
def Decimal.text (x : Decimal) : String :=
  let digits := (Nat.toDigits 10 x.digits)
  let count : Int := digits.length
  let point := count + x.exponent
  let zeros (n : Int) : List Char := List.replicate n.toNat '0'
  let body : List Char :=
    if x.digits = 0 then ['0', '.', '0']
    else if 0 ≤ x.exponent ∧ point ≤ 16 then digits ++ zeros x.exponent ++ ['.', '0']
    else if 0 < point ∧ point ≤ 16 then digits.take point.toNat ++ '.' :: digits.drop point.toNat
    else if -5 < point ∧ point ≤ 0 then ['0', '.'] ++ zeros (-point) ++ digits
    else
      let power := (if point > 0 then ['+'] else []) ++ (toString (point - 1)).toList
      match digits with
      | [d] => d :: 'e' :: power
      | d :: rest => d :: '.' :: rest ++ 'e' :: power
      | [] => ['0']
  String.ofList (if x.negative then '-' :: body else body)

end LanguageBroker
