import LanguageBroker.Text.Utf8
import Mathlib.Data.List.Basic

/-!
Text that was encoded decodes to itself: an encoded character is read whole, whatever follows it,
and takes at least one byte. All its bytes stand apart from the ASCII characters, unless it is one
of these. Nothing else decodes: bytes that are read as a text are those that the text has.
-/

namespace LanguageBroker.Text

variable {n : Nat} {c : Char}

theorem toNat_byte (small : n < 256) : (UInt8.ofNat n).toNat = n :=
  UInt8.toNat_ofNat_of_lt' small

theorem lead_of_one (high : n < 0x80) (rest : List UInt8) :
    lead (UInt8.ofNat n) rest = .char (Char.ofNat n) rest := by
  have b := toNat_byte (n := n) (by omega)
  simp [lead, UInt8.lt_iff_toNat_lt, b, high]

theorem lead_of_two (low : 0x80 ≤ n) (high : n < 0x800) (rest : List UInt8) :
    lead (UInt8.ofNat (0xC0 + n / 64)) (UInt8.ofNat (0x80 + n % 64) :: rest) =
      .char (Char.ofNat n) rest := by
  have b := toNat_byte (n := 0xC0 + n / 64) (by omega)
  have x := toNat_byte (n := 0x80 + n % 64) (by omega)
  have whole : (0xC0 + n / 64 - 0xC0) * 64 + (0x80 + n % 64) % 64 = n := by omega
  simp only [lead, isFollowing, UInt8.lt_iff_toNat_lt, UInt8.le_iff_toNat_le, b, x, whole,
    Bool.and_eq_true, decide_eq_true_eq, UInt8.reduceToNat]
  rw [if_neg (by omega), if_pos (by omega), if_pos (by omega)]

theorem lead_of_three (low : 0x800 ≤ n) (high : n < 0x10000) (apart : n < 0xD800 ∨ 0xDFFF < n)
    (rest : List UInt8) :
    lead (UInt8.ofNat (0xE0 + n / 4096))
        (UInt8.ofNat (0x80 + n / 64 % 64) :: UInt8.ofNat (0x80 + n % 64) :: rest) =
      .char (Char.ofNat n) rest := by
  have b := toNat_byte (n := 0xE0 + n / 4096) (by omega)
  have x := toNat_byte (n := 0x80 + n / 64 % 64) (by omega)
  have y := toNat_byte (n := 0x80 + n % 64) (by omega)
  have whole : (0xE0 + n / 4096 - 0xE0) * 4096 + (0x80 + n / 64 % 64) % 64 * 64 +
      (0x80 + n % 64) % 64 = n := by omega
  simp only [lead, isFollowing, UInt8.lt_iff_toNat_lt, UInt8.le_iff_toNat_le, ← UInt8.toNat_inj,
    b, x, y, whole, Bool.and_eq_true, decide_eq_true_eq, UInt8.reduceToNat, beq_iff_eq]
  rw [if_neg (by omega), if_neg (by omega), if_pos (by omega), if_pos ?second, if_pos (by omega)]
  split
  · simp only [x, Bool.and_eq_true, decide_eq_true_eq]
    omega
  · split <;> simp only [isFollowing, UInt8.le_iff_toNat_le, x, Bool.and_eq_true, decide_eq_true_eq,
      UInt8.reduceToNat] <;> omega

theorem lead_of_four (low : 0x10000 ≤ n) (high : n < 0x110000) (rest : List UInt8) :
    lead (UInt8.ofNat (0xF0 + n / 262144))
        (UInt8.ofNat (0x80 + n / 4096 % 64) :: UInt8.ofNat (0x80 + n / 64 % 64) ::
          UInt8.ofNat (0x80 + n % 64) :: rest) =
      .char (Char.ofNat n) rest := by
  have b := toNat_byte (n := 0xF0 + n / 262144) (by omega)
  have x := toNat_byte (n := 0x80 + n / 4096 % 64) (by omega)
  have y := toNat_byte (n := 0x80 + n / 64 % 64) (by omega)
  have z := toNat_byte (n := 0x80 + n % 64) (by omega)
  have whole : (0xF0 + n / 262144 - 0xF0) * 262144 + (0x80 + n / 4096 % 64) % 64 * 4096 +
      (0x80 + n / 64 % 64) % 64 * 64 + (0x80 + n % 64) % 64 = n := by omega
  simp only [lead, isFollowing, UInt8.lt_iff_toNat_lt, UInt8.le_iff_toNat_le, ← UInt8.toNat_inj,
    b, x, y, z, whole, Bool.and_eq_true, decide_eq_true_eq, UInt8.reduceToNat, beq_iff_eq]
  rw [if_neg (by omega), if_neg (by omega), if_neg (by omega), if_pos (by omega), if_pos ?second,
    if_pos (by omega), if_pos (by omega)]
  split
  · simp only [x, Bool.and_eq_true, decide_eq_true_eq]
    omega
  · split <;> simp only [isFollowing, UInt8.le_iff_toNat_le, x, Bool.and_eq_true, decide_eq_true_eq,
      UInt8.reduceToNat] <;> omega

/-- An encoded character is read back, and the bytes behind it are left. -/
theorem lead_encodeChar (c : Char) :
    ∃ b bs, encodeChar c = b :: bs ∧ ∀ rest, lead b (bs ++ rest) = .char c rest := by
  have range : c.toNat < 0xD800 ∨ 0xDFFF < c.toNat ∧ c.toNat < 0x110000 := c.valid
  have back : Char.ofNat c.toNat = c := Char.ofNat_toNat c
  by_cases one : c.toNat < 0x80
  · simp only [encodeChar, if_pos one]
    exact ⟨_, _, rfl, fun rest => (lead_of_one one _).trans (by rw [back]; rfl)⟩
  by_cases two : c.toNat < 0x800
  · simp only [encodeChar, if_neg one, if_pos two]
    exact ⟨_, _, rfl, fun rest => (lead_of_two (by omega) two rest).trans (by rw [back])⟩
  by_cases three : c.toNat < 0x10000
  · simp only [encodeChar, if_neg one, if_neg two, if_pos three]
    exact ⟨_, _, rfl, fun rest =>
      (lead_of_three (by omega) three (by omega) rest).trans (by rw [back])⟩
  · simp only [encodeChar, if_neg one, if_neg two, if_neg three]
    exact ⟨_, _, rfl, fun rest => (lead_of_four (by omega) (by omega) rest).trans (by rw [back])⟩

@[simp] theorem encode_nil : encode [] = [] := rfl

@[simp] theorem encode_cons (c : Char) (cs : List Char) :
    encode (c :: cs) = encodeChar c ++ encode cs := rfl

@[simp] theorem encode_append (cs ds : List Char) : encode (cs ++ ds) = encode cs ++ encode ds :=
  List.flatMap_append

theorem encodeChar_of_ascii (ascii : c.toNat < 0x80) :
    encodeChar c = [UInt8.ofNat c.toNat] := by
  simp [encodeChar, ascii]

/-- The bytes of a character outside ASCII are none of ASCII's. -/
theorem le_of_mem_encodeChar (other : 0x80 ≤ c.toNat) {b : UInt8} (there : b ∈ encodeChar c) :
    0x80 ≤ b.toNat := by
  have range : c.toNat < 0xD800 ∨ 0xDFFF < c.toNat ∧ c.toNat < 0x110000 := c.valid
  unfold encodeChar at there
  rw [if_neg (by omega)] at there
  split at there
  · simp only [List.mem_cons, List.not_mem_nil, or_false] at there
    rcases there with rfl | rfl <;> rw [toNat_byte (by omega)] <;> omega
  split at there
  · simp only [List.mem_cons, List.not_mem_nil, or_false] at there
    rcases there with rfl | rfl | rfl <;> rw [toNat_byte (by omega)] <;> omega
  · simp only [List.mem_cons, List.not_mem_nil, or_false] at there
    rcases there with rfl | rfl | rfl | rfl <;> rw [toNat_byte (by omega)] <;> omega

/-- A byte of ASCII stands in an encoded text for its own character only. -/
theorem mem_of_byte_mem_encode {a : Char} (ascii : a.toNat < 0x80) {cs : List Char}
    (there : UInt8.ofNat a.toNat ∈ encode cs) : a ∈ cs := by
  obtain ⟨c, inside, here⟩ := List.mem_flatMap.1 there
  have value := toNat_byte (n := a.toNat) (by omega)
  rcases Nat.lt_or_ge c.toNat 0x80 with also | other
  · rw [encodeChar_of_ascii also, List.mem_singleton] at here
    have same := congrArg UInt8.toNat here
    rw [value, toNat_byte (by omega)] at same
    rwa [Char.toNat_inj.1 same]
  · have := le_of_mem_encodeChar other here
    omega

/-- Reading takes the first character, and leaves the others with fewer bytes. -/
theorem lead_encode_cons (c : Char) (cs : List Char) :
    ∃ b rest, encode (c :: cs) = b :: rest ∧ lead b rest = .char c (encode cs) ∧
      (encode cs).length ≤ rest.length := by
  obtain ⟨b, bs, bytes, reads⟩ := lead_encodeChar c
  exact ⟨b, bs ++ encode cs, by rw [encode_cons, bytes, List.cons_append], reads _, by simp⟩

theorem decodeFrom_encode (cs : List Char) {fuel : Nat} (index : Nat)
    (enough : (encode cs).length ≤ fuel) : decodeFrom fuel index (encode cs) = .ok cs := by
  induction cs generalizing fuel index with
  | nil => cases fuel <;> rfl
  | cons c cs ih =>
    obtain ⟨b, rest, bytes, reads, shorter⟩ := lead_encode_cons c cs
    rw [bytes] at enough ⊢
    cases fuel with
    | zero => simp at enough
    | succ fuel =>
      have less : (encode cs).length ≤ fuel :=
        Nat.le_trans shorter (Nat.le_of_succ_le_succ enough)
      simp only [decodeFrom, reads, ih _ less]
      rfl

theorem decode_encode (cs : List Char) : decode (encode cs) = .ok cs :=
  decodeFrom_encode cs 0 (Nat.le_refl _)

theorem decodeLossy_go_encode (cs : List Char) {fuel : Nat} (enough : (encode cs).length ≤ fuel) :
    decodeLossy.go fuel (encode cs) = cs := by
  induction cs generalizing fuel with
  | nil => cases fuel <;> rfl
  | cons c cs ih =>
    obtain ⟨b, rest, bytes, reads, shorter⟩ := lead_encode_cons c cs
    rw [bytes] at enough ⊢
    cases fuel with
    | zero => simp at enough
    | succ fuel =>
      have less : (encode cs).length ≤ fuel :=
        Nat.le_trans shorter (Nat.le_of_succ_le_succ enough)
      simp only [decodeLossy.go, reads, ih less]

/-- Nothing has to be replaced in what was encoded. -/
theorem decodeLossy_encode (cs : List Char) : decodeLossy (encode cs) = cs :=
  decodeLossy_go_encode cs (Nat.le_refl _)

/-! What decodes was encoded. -/

/-- A character that is given by a number below the surrogates or above them has that number. -/
theorem toNat_ofNat (valid : n < 0xD800 ∨ 0xDFFF < n ∧ n < 0x110000) :
    (Char.ofNat n).toNat = n := by
  rw [Char.ofNat, dif_pos valid]
  rfl

theorem byte_eq {b : UInt8} (same : b.toNat = n) : UInt8.ofNat n = b := by
  rw [← same, UInt8.ofNat_toNat]

theorem encodeChar_two {b x : UInt8} (low : 0xC2 ≤ b.toNat) (high : b.toNat ≤ 0xDF)
    (follows : 0x80 ≤ x.toNat ∧ x.toNat ≤ 0xBF) :
    encodeChar (Char.ofNat ((b.toNat - 0xC0) * 64 + x.toNat % 64)) = [b, x] := by
  generalize number : (b.toNat - 0xC0) * 64 + x.toNat % 64 = n
  have first : UInt8.ofNat (0xC0 + n / 64) = b := byte_eq (by omega)
  have second : UInt8.ofNat (0x80 + n % 64) = x := byte_eq (by omega)
  simp only [encodeChar, toNat_ofNat (n := n) (by omega), first, second]
  rw [if_neg (by omega), if_pos (by omega)]

theorem encodeChar_three {b x y : UInt8} (low : 0xE0 ≤ b.toNat) (high : b.toNat ≤ 0xEF)
    (follows : 0x80 ≤ x.toNat ∧ x.toNat ≤ 0xBF) (last : 0x80 ≤ y.toNat ∧ y.toNat ≤ 0xBF)
    (long : b.toNat = 0xE0 → 0xA0 ≤ x.toNat) (apart : b.toNat = 0xED → x.toNat ≤ 0x9F) :
    encodeChar (Char.ofNat ((b.toNat - 0xE0) * 4096 + x.toNat % 64 * 64 + y.toNat % 64)) =
      [b, x, y] := by
  generalize number : (b.toNat - 0xE0) * 4096 + x.toNat % 64 * 64 + y.toNat % 64 = n
  have first : UInt8.ofNat (0xE0 + n / 4096) = b := byte_eq (by omega)
  have second : UInt8.ofNat (0x80 + n / 64 % 64) = x := byte_eq (by omega)
  have third : UInt8.ofNat (0x80 + n % 64) = y := byte_eq (by omega)
  simp only [encodeChar, toNat_ofNat (n := n) (by omega), first, second, third]
  rw [if_neg (by omega), if_neg (by omega), if_pos (by omega)]

theorem encodeChar_four {b x y z : UInt8} (low : 0xF0 ≤ b.toNat) (high : b.toNat ≤ 0xF4)
    (follows : 0x80 ≤ x.toNat ∧ x.toNat ≤ 0xBF) (third : 0x80 ≤ y.toNat ∧ y.toNat ≤ 0xBF)
    (last : 0x80 ≤ z.toNat ∧ z.toNat ≤ 0xBF) (long : b.toNat = 0xF0 → 0x90 ≤ x.toNat)
    (bounded : b.toNat = 0xF4 → x.toNat ≤ 0x8F) :
    encodeChar (Char.ofNat ((b.toNat - 0xF0) * 262144 + x.toNat % 64 * 4096 + y.toNat % 64 * 64 +
      z.toNat % 64)) = [b, x, y, z] := by
  generalize number : (b.toNat - 0xF0) * 262144 + x.toNat % 64 * 4096 + y.toNat % 64 * 64 +
    z.toNat % 64 = n
  have first : UInt8.ofNat (0xF0 + n / 262144) = b := byte_eq (by omega)
  have second : UInt8.ofNat (0x80 + n / 4096 % 64) = x := byte_eq (by omega)
  have middle : UInt8.ofNat (0x80 + n / 64 % 64) = y := byte_eq (by omega)
  have fourth : UInt8.ofNat (0x80 + n % 64) = z := byte_eq (by omega)
  simp only [encodeChar, toNat_ofNat (n := n) (by omega), first, second, middle, fourth]
  rw [if_neg (by omega), if_neg (by omega), if_neg (by omega)]

/-- The second byte of a character stays clear of overlong forms and of surrogates. -/
theorem second_of_three {b x : UInt8}
    (ok : (if b == 0xE0 then fun x : UInt8 => (0xA0 : UInt8) ≤ x && x ≤ 0xBF
      else if b == 0xED then fun x : UInt8 => (0x80 : UInt8) ≤ x && x ≤ 0x9F
      else isFollowing) x = true) :
    (0x80 ≤ x.toNat ∧ x.toNat ≤ 0xBF) ∧ (b.toNat = 0xE0 → 0xA0 ≤ x.toNat) ∧
      (b.toNat = 0xED → x.toNat ≤ 0x9F) := by
  simp only [beq_iff_eq, ← UInt8.toNat_inj, UInt8.reduceToNat] at ok
  split at ok
  · simp only [UInt8.le_iff_toNat_le, Bool.and_eq_true, decide_eq_true_eq, UInt8.reduceToNat] at ok
    omega
  · split at ok <;> simp only [isFollowing, UInt8.le_iff_toNat_le, Bool.and_eq_true,
      decide_eq_true_eq, UInt8.reduceToNat] at ok <;> omega

/-- It stays clear of overlong forms and of what lies above all characters. -/
theorem second_of_four {b x : UInt8}
    (ok : (if b == 0xF0 then fun x : UInt8 => (0x90 : UInt8) ≤ x && x ≤ 0xBF
      else if b == 0xF4 then fun x : UInt8 => (0x80 : UInt8) ≤ x && x ≤ 0x8F
      else isFollowing) x = true) :
    (0x80 ≤ x.toNat ∧ x.toNat ≤ 0xBF) ∧ (b.toNat = 0xF0 → 0x90 ≤ x.toNat) ∧
      (b.toNat = 0xF4 → x.toNat ≤ 0x8F) := by
  simp only [beq_iff_eq, ← UInt8.toNat_inj, UInt8.reduceToNat] at ok
  split at ok
  · simp only [UInt8.le_iff_toNat_le, Bool.and_eq_true, decide_eq_true_eq, UInt8.reduceToNat] at ok
    omega
  · split at ok <;> simp only [isFollowing, UInt8.le_iff_toNat_le, Bool.and_eq_true,
      decide_eq_true_eq, UInt8.reduceToNat] at ok <;> omega

theorem isFollowing_iff {b : UInt8} : isFollowing b = true ↔ 0x80 ≤ b.toNat ∧ b.toNat ≤ 0xBF := by
  simp [isFollowing, UInt8.le_iff_toNat_le]

/-- A character of three bytes is read from bytes in their ranges. -/
theorem three_of_char {ok : UInt8 → Bool} {value : UInt8 → UInt8 → Char} {rest left : List UInt8}
    (reads : (match rest with
      | [] => Lead.cut
      | x :: r =>
        if ok x then
          match r with
          | [] => .cut
          | y :: r' => if isFollowing y then .char (value x y) r' else .invalid 2 r
        else .invalid 1 rest) = .char c left) :
    ∃ x y, rest = x :: y :: left ∧ ok x = true ∧ isFollowing y = true ∧ value x y = c := by
  rcases rest with _ | ⟨x, _ | ⟨y, r⟩⟩
  · simp at reads
  · cases second : ok x <;> simp [second] at reads
  · cases second : ok x <;> cases third : isFollowing y <;> simp_all

/-- A character of four bytes is read from bytes in their ranges. -/
theorem four_of_char {ok : UInt8 → Bool} {value : UInt8 → UInt8 → UInt8 → Char}
    {rest left : List UInt8}
    (reads : (match rest with
      | [] => Lead.cut
      | x :: r =>
        if ok x then
          match r with
          | [] => .cut
          | y :: r' =>
            if isFollowing y then
              match r' with
              | [] => .cut
              | z :: r'' => if isFollowing z then .char (value x y z) r'' else .invalid 3 r'
            else .invalid 2 r
        else .invalid 1 rest) = .char c left) :
    ∃ x y z, rest = x :: y :: z :: left ∧ ok x = true ∧ isFollowing y = true ∧
      isFollowing z = true ∧ value x y z = c := by
  rcases rest with _ | ⟨x, _ | ⟨y, _ | ⟨z, r⟩⟩⟩
  · simp at reads
  · cases second : ok x <;> simp [second] at reads
  · cases second : ok x <;> cases third : isFollowing y <;> simp [second, third] at reads
  · cases second : ok x <;> cases third : isFollowing y <;> cases last : isFollowing z <;> simp_all

/-- A character that is read takes the bytes that it is encoded by. -/
theorem eq_encodeChar_of_lead {b : UInt8} {rest left : List UInt8}
    (reads : lead b rest = .char c left) : b :: rest = encodeChar c ++ left := by
  unfold lead at reads
  simp only [UInt8.lt_iff_toNat_lt, UInt8.le_iff_toNat_le (a := b), UInt8.le_iff_toNat_le (b := b),
    UInt8.reduceToNat, Bool.and_eq_true, decide_eq_true_eq] at reads
  by_cases one : b.toNat < 0x80
  · rw [if_pos one] at reads
    obtain ⟨rfl, rfl⟩ := Lead.char.inj reads
    have number := toNat_ofNat (n := b.toNat) (by omega)
    simp [encodeChar, number, one]
  rw [if_neg one] at reads
  by_cases two : 0xC2 ≤ b.toNat ∧ b.toNat ≤ 0xDF
  · rw [if_pos two] at reads
    rcases rest with _ | ⟨x, r⟩
    · simp at reads
    cases follows : isFollowing x with
    | false => simp [follows] at reads
    | true =>
      obtain ⟨rfl, rfl⟩ := Lead.char.inj ((if_pos follows).symm.trans reads)
      rw [encodeChar_two two.1 two.2 (isFollowing_iff.1 follows)]
      rfl
  rw [if_neg two] at reads
  by_cases three : 0xE0 ≤ b.toNat ∧ b.toNat ≤ 0xEF
  · rw [if_pos three] at reads
    obtain ⟨x, y, rfl, ok, last, rfl⟩ := three_of_char reads
    obtain ⟨follows, long, apart⟩ := second_of_three ok
    rw [encodeChar_three three.1 three.2 follows (isFollowing_iff.1 last) long apart]
    rfl
  rw [if_neg three] at reads
  by_cases four : 0xF0 ≤ b.toNat ∧ b.toNat ≤ 0xF4
  · rw [if_pos four] at reads
    obtain ⟨x, y, z, rfl, ok, third, last, rfl⟩ := four_of_char reads
    obtain ⟨follows, long, bounded⟩ := second_of_four ok
    rw [encodeChar_four four.1 four.2 follows (isFollowing_iff.1 third) (isFollowing_iff.1 last)
      long bounded]
    rfl
  · simp [four] at reads

theorem eq_encode_of_decodeFrom {fuel index : Nat} {bytes : List UInt8} {cs : List Char}
    (enough : bytes.length ≤ fuel) (reads : decodeFrom fuel index bytes = .ok cs) :
    bytes = encode cs := by
  induction fuel generalizing index bytes cs with
  | zero =>
    obtain rfl : bytes = [] := List.length_eq_zero_iff.1 (Nat.le_zero.1 enough)
    obtain rfl : [] = cs := Except.ok.inj reads
    rfl
  | succ fuel ih =>
    rcases bytes with _ | ⟨b, bs⟩
    · obtain rfl : [] = cs := Except.ok.inj reads
      rfl
    · simp only [decodeFrom] at reads
      split at reads
      · next c rest first =>
        have split := eq_encodeChar_of_lead first
        cases others : decodeFrom fuel (index + ((b :: bs).length - rest.length)) rest with
        | error fault =>
          rw [others] at reads
          cases reads
        | ok ds =>
          rw [others] at reads
          obtain rfl : c :: ds = cs := Except.ok.inj reads
          have shorter : rest.length ≤ fuel := by
            have shown : 0 < (encodeChar c).length := by
              obtain ⟨b, bs, bytes, -⟩ := lead_encodeChar c
              simp [bytes]
            have whole := congrArg List.length split
            simp only [List.length_append, List.length_cons] at whole enough
            omega
          rw [split, ih shorter others, encode_cons]
      · simp at reads
      · simp at reads

/-- Bytes are read as a text exactly when they are its bytes. -/
theorem decode_eq_ok_iff {bytes : List UInt8} {cs : List Char} :
    decode bytes = .ok cs ↔ bytes = encode cs := by
  constructor
  · exact eq_encode_of_decodeFrom (Nat.le_refl _)
  · rintro rfl
    exact decode_encode cs

end LanguageBroker.Text
