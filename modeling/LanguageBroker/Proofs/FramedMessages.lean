import LanguageBroker.Frame
import LanguageBroker.Proofs.CompactText
import LanguageBroker.Proofs.EncodedText
import Mathlib.Data.List.TakeDrop
import Mathlib.Data.List.TakeWhile

/-!
Messages that were written are read back, one after the other. A header line ends where its line end
stands, the length in it is read as the number of the body's bytes, and the body is taken by that
number: what the body holds, line ends or other headers included, is never looked at for framing.
-/

namespace LanguageBroker.Text

variable {cs tail : List Char}

theorem isBlank_of_isDigit {c : Char} (digit : c.isDigit) : isBlank c = false := by
  obtain ⟨low, high⟩ : 48 ≤ c.val ∧ c.val ≤ 57 := by simpa [Char.isDigit] using digit
  have low : 48 ≤ c.toNat := UInt32.le_iff_toNat_le.1 low
  have high : c.toNat ≤ 57 := UInt32.le_iff_toNat_le.1 high
  simp only [isBlank, Bool.or_eq_false_iff, Bool.and_eq_false_imp, decide_eq_true_eq,
    decide_eq_false_iff_not, beq_eq_false_iff_ne]
  omega

/-- Blanks at the back are trimmed off. -/
theorem trim_append (blank : ∀ c ∈ tail, isBlank c) : trim (cs ++ tail) = trim cs := by
  have gone : tail.dropWhile isBlank = [] := List.dropWhile_eq_nil_iff.2 blank
  have back (front : List Char) : trimBack (front ++ tail) = trimBack front := by
    have gone' : tail.reverse.dropWhile isBlank = [] :=
      List.dropWhile_eq_nil_iff.2 fun c there => blank c (List.mem_reverse.1 there)
    simp [trimBack, List.reverse_append, List.dropWhile_append, gone']
  simp only [trim, trimFront, List.dropWhile_append, gone]
  split
  · next none => rw [List.isEmpty_iff.1 none]
  · exact back _

theorem trimFront_of_solid (solid : ∀ c ∈ cs, isBlank c = false) : trimFront cs = cs := by
  rcases cs with _ | ⟨c, cs⟩
  · rfl
  · simp [trimFront, solid c List.mem_cons_self]

/-- Nothing is trimmed off behind text without blanks. -/
theorem trimBack_append (front : List Char) (shown : cs ≠ [])
    (solid : ∀ c ∈ cs, isBlank c = false) : trimBack (front ++ cs) = front ++ cs := by
  obtain ⟨b, bs, last⟩ := List.exists_cons_of_ne_nil (List.reverse_ne_nil_iff.2 shown)
  have there : b ∈ cs := List.mem_reverse.1 (last ▸ List.mem_cons_self)
  rw [trimBack, List.reverse_append, last, List.cons_append,
    List.dropWhile_cons_of_neg (by simp [solid b there]), ← List.cons_append, ← last,
    ← List.reverse_append, List.reverse_reverse]

theorem splitOnce_append {sep : Char} (apart : sep ∉ cs) (back : List Char) :
    splitOnce sep (cs ++ sep :: back) = some (cs, back) := by
  have front : ∀ c ∈ cs, decide (c ≠ sep) = true := by
    intro c there
    simpa using fun same : c = sep => apart (same ▸ there)
  have split : (cs ++ sep :: back).span (· ≠ sep) = (cs, sep :: back) := by
    rw [List.span_eq_takeWhile_dropWhile, List.takeWhile_append_of_pos front,
      List.dropWhile_append_of_pos front]
    simp
  rw [splitOnce, split]

end LanguageBroker.Text

namespace LanguageBroker.Frame

variable {line rest : List UInt8} {cs : List Char}

theorem splitLine_append (apart : lineEnd ∉ line) (rest : List UInt8) :
    splitLine (line ++ lineEnd :: rest) = (line ++ [lineEnd], rest) := by
  induction line with
  | nil => simp [splitLine]
  | cons b line ih =>
    rw [List.mem_cons, not_or] at apart
    simp [splitLine, Ne.symm apart.1, ih apart.2]

/-- The headers end at a blank line. -/
theorem headers_blank (apart : lineEnd ∉ line) (text : Text.decode (line ++ [lineEnd]) = .ok cs)
    (blank : (Text.trim cs).isEmpty) (length : Option Nat) (rest : List UInt8) :
    headers length (line ++ lineEnd :: rest) = .ok (length, rest) := by
  have split := splitLine_append apart rest
  rcases shown : line ++ lineEnd :: rest with _ | ⟨b, bs⟩
  · simp at shown
  · rw [headers]
    simp only [← shown, split, text, blank, if_true]

/-- A line that states a length is read for it. -/
theorem headers_statement {value : List Char} {n : Nat} (apart : lineEnd ∉ line)
    (text : Text.decode (line ++ [lineEnd]) = .ok cs) (content : (Text.trim cs).isEmpty = false)
    (states : lengthValue? (Text.trim cs) = some value)
    (reads : parseLength (Text.trim value) = .ok n) (length : Option Nat) (rest : List UInt8) :
    headers length (line ++ lineEnd :: rest) = headers (some n) rest := by
  have split := splitLine_append apart rest
  rcases shown : line ++ lineEnd :: rest with _ | ⟨b, bs⟩
  · simp at shown
  · rw [headers]
    simp only [← shown, split, text, content, Bool.false_eq_true, if_false, states, reads]

/-- The bytes of a line of text. -/
theorem encode_line (cs : List Char) :
    Text.encode (cs ++ ['\n']) = Text.encode cs ++ [lineEnd] := by
  rw [Text.encode_append]
  rfl

theorem lineEnd_not_mem_encode (apart : '\n' ∉ cs) : lineEnd ∉ Text.encode cs := fun there =>
  apart (Text.mem_of_byte_mem_encode (by decide) there)

theorem digits_of_isDigit {acc : Nat} (digit : ∀ c ∈ cs, c.isDigit)
    (small : Nat.ofDigitChars 10 cs acc < lengthBound) :
    digits acc cs = .ok (Nat.ofDigitChars 10 cs acc) := by
  induction cs generalizing acc with
  | nil => simp [digits]
  | cons c cs ih =>
    rw [Nat.ofDigitChars_cons, Nat.mul_comm] at small ⊢
    have fits := Nat.lt_of_le_of_lt (Json.le_ofDigitChars cs _) small
    simp only [digits, Json.digitValue?_of_isDigit (digit c List.mem_cons_self)]
    exact (if_pos fits).trans (ih (fun d there => digit d (List.mem_cons_of_mem c there)) small)

/-- A length is read from its digits. -/
theorem parseLength_toDigits {n : Nat} (small : n < lengthBound) :
    parseLength (Nat.toDigits 10 n) = .ok n := by
  have digit : ∀ c ∈ Nat.toDigits 10 n, c.isDigit := fun c there =>
    Nat.isDigit_of_mem_toDigits (by omega) (by omega) there
  have plain : parseLength (Nat.toDigits 10 n) = digits 0 (Nat.toDigits 10 n) := by
    unfold parseLength
    split
    · next none => exact absurd none Nat.toDigits_ne_nil
    · next plus => exact absurd (digit '+' (plus ▸ List.mem_cons_self)) (by decide)
    · next plus => exact absurd (digit '+' (plus ▸ List.mem_cons_self)) (by decide)
    · rfl
  rw [plain, digits_of_isDigit digit (by rwa [Nat.ofDigitChars_ten_toDigits]),
    Nat.ofDigitChars_ten_toDigits]

/-- The header line that states a length, up to its line end. -/
def statement (n : Nat) : List Char := lengthHeader ++ ':' :: ' ' :: Nat.toDigits 10 n

theorem toList_header (n : Nat) :
    ("Content-Length: " ++ toString n ++ "\r\n\r\n").toList =
      statement n ++ '\r' :: '\n' :: '\r' :: ['\n'] := by
  have name : "Content-Length: ".toList = lengthHeader ++ [':', ' '] := rfl
  have ends : "\r\n\r\n".toList = ['\r', '\n', '\r', '\n'] := rfl
  rw [String.toList_append, String.toList_append, Nat.toString_eq_repr, Nat.toList_repr, name, ends,
    statement, List.append_assoc, List.append_assoc, List.append_assoc]
  rfl

/-- A message is a header line, a blank line and the body. -/
theorem write_append (v : Json) (rest : List UInt8) :
    write v ++ rest = Text.encode (statement (Text.encode v.chars).length ++ ['\r']) ++
      lineEnd :: (Text.encode ['\r'] ++ lineEnd :: (Text.encode v.chars ++ rest)) := by
  have goesBack : Text.encodeChar '\r' = [0x0D] := rfl
  have newline : Text.encodeChar '\n' = [lineEnd] := rfl
  rw [write, toList_header]
  simp only [Text.encode_append, Text.encode_cons, Text.encode_nil, goesBack, newline,
    List.append_assoc, List.cons_append, List.nil_append, List.append_nil]

theorem not_mem_statement {c : Char} (n : Nat) (other : c ∉ lengthHeader ++ [':', ' '])
    (digit : c.isDigit = false) : c ∉ statement n := by
  simp only [statement, List.mem_append, List.mem_cons, List.not_mem_nil, or_false, not_or]
    at other ⊢
  refine ⟨other.1, other.2.1, other.2.2, fun there => ?_⟩
  have := Nat.isDigit_of_mem_toDigits (by omega) (by omega) there
  simp [digit] at this

theorem isBlank_of_mem_toDigits {n : Nat} {c : Char} (there : c ∈ Nat.toDigits 10 n) :
    Text.isBlank c = false :=
  Text.isBlank_of_isDigit (Nat.isDigit_of_mem_toDigits (by omega) (by omega) there)

theorem trim_value (n : Nat) : Text.trim (' ' :: Nat.toDigits 10 n) = Nat.toDigits 10 n := by
  have solid : ∀ c ∈ Nat.toDigits 10 n, Text.isBlank c = false := fun _ => isBlank_of_mem_toDigits
  have front : Text.trimFront (' ' :: Nat.toDigits 10 n) = Text.trimFront (Nat.toDigits 10 n) := rfl
  rw [Text.trim, front, Text.trimFront_of_solid solid]
  exact Text.trimBack_append [] Nat.toDigits_ne_nil solid

theorem trim_statement (n : Nat) : Text.trim (statement n ++ ['\r', '\n']) = statement n := by
  have front : Text.trimFront (statement n) = statement n := rfl
  have split : statement n = (lengthHeader ++ [':', ' ']) ++ Nat.toDigits 10 n := by
    simp [statement]
  rw [Text.trim_append (List.all_eq_true.1 rfl), Text.trim, front, split]
  exact Text.trimBack_append _ Nat.toDigits_ne_nil fun _ => isBlank_of_mem_toDigits

theorem lengthValue?_statement (n : Nat) :
    lengthValue? (statement n) = some (' ' :: Nat.toDigits 10 n) := by
  have name : Text.eqIgnoreCase (Text.trim lengthHeader) lengthHeader = true := by decide
  rw [lengthValue?, statement, Text.splitOnce_append (by decide)]
  exact if_pos name

/-- The header line that states a length, and the blank line behind it. -/
def header (n : Nat) (rest : List UInt8) : List UInt8 :=
  Text.encode (statement n ++ ['\r']) ++ lineEnd :: (Text.encode ['\r'] ++ lineEnd :: rest)

theorem header_append (n : Nat) (rest : List UInt8) : header n rest = header n [] ++ rest := by
  simp [header]

/-- The line that states a length is read for it. -/
theorem headers_length {n : Nat} (small : n < lengthBound) (rest : List UInt8) :
    headers none (Text.encode (statement n ++ ['\r']) ++ lineEnd :: rest) =
      headers (some n) rest := by
  have apart : '\n' ∉ statement n ++ ['\r'] := by
    simpa using not_mem_statement n (by decide) (by decide)
  have stated : Text.decode (Text.encode (statement n ++ ['\r']) ++ [lineEnd]) =
      .ok (statement n ++ ['\r', '\n']) := by
    rw [← encode_line, Text.decode_encode, List.append_assoc]
    rfl
  have states : lengthValue? (Text.trim (statement n ++ ['\r', '\n'])) =
      some (' ' :: Nat.toDigits 10 n) := by
    rw [trim_statement, lengthValue?_statement]
  have reads : parseLength (Text.trim (' ' :: Nat.toDigits 10 n)) = .ok n := by
    rw [trim_value, parseLength_toDigits small]
  exact headers_statement (lineEnd_not_mem_encode apart) stated (by rw [trim_statement]; rfl)
    states reads none rest

theorem headers_header {n : Nat} (small : n < lengthBound) (rest : List UInt8) :
    headers none (header n rest) = .ok (some n, rest) := by
  have blank : Text.decode (Text.encode ['\r'] ++ [lineEnd]) = .ok ['\r', '\n'] := by
    rw [← encode_line, Text.decode_encode]
    rfl
  rw [header, headers_length small,
    headers_blank (lineEnd_not_mem_encode (by decide)) blank (by decide)]

/-- The header of a message that was written states the length of its body. -/
theorem headers_write {v : Json} (small : (Text.encode v.chars).length < lengthBound)
    (rest : List UInt8) :
    headers none (write v ++ rest) =
      .ok (some (Text.encode v.chars).length, Text.encode v.chars ++ rest) := by
  rw [write_append]
  exact headers_header small _

/-- A message that was written is read, and what follows it is left. -/
theorem read_write {v : Json} (short : (Text.encode v.chars).length ≤ maxBodyLength)
    (reads : Json.ofBytes? (Text.encode v.chars) = some v) (rest : List UInt8) :
    read (write v ++ rest) = .ok (some (v, rest)) := by
  have small : (Text.encode v.chars).length < lengthBound := Nat.lt_of_le_of_lt short (by decide)
  have header := headers_write small rest
  rcases shown : write v ++ rest with _ | ⟨b, bs⟩
  · simp [shown, headers] at header
  · rw [shown] at header
    simp only [read, header, List.take_left, List.drop_left, reads, List.length_append]
    rw [if_neg (by omega), if_neg (by omega)]

/-- A message that a reader takes: a value nested no deeper than it allows, with a text no longer
than a body may be. -/
structure Fits (v : Json) : Prop where
  wellFormed : v.WellFormed
  nested : v.nesting ≤ Json.depthLimit
  short : (Text.encode v.chars).length ≤ maxBodyLength

theorem Fits.ofBytes? {v : Json} (h : Fits v) : Json.ofBytes? (Text.encode v.chars) = some v := by
  rw [Json.ofBytes?, Text.decode_encode]
  exact Json.ofChars?_chars h.wellFormed h.nested

/-- Whole lines stay so in front of anything. -/
theorem wholeLines_append (line rest : List UInt8) :
    wholeLines (line ++ lineEnd :: rest) = line ++ lineEnd :: wholeLines rest := by
  simp only [wholeLines, List.reverse_append, List.reverse_cons, List.append_assoc,
    List.dropWhile_append]
  split
  · next none =>
    rw [List.isEmpty_iff.1 none]
    simp
  · simp

/-- A message that was written is there at once, also while the stream goes on. -/
theorem arrival_write {v : Json} (fits : Fits v) (ended : Bool) (rest : List UInt8) :
    arrival ended (write v ++ rest) = .message v rest := by
  have reads := fits.ofBytes?
  have short := fits.short
  cases ended with
  | true => simp [arrival, read_write short reads]
  | false =>
    have lines : wholeLines (write v ++ rest) =
        header (Text.encode v.chars).length (wholeLines (Text.encode v.chars ++ rest)) := by
      rw [write_append, wholeLines_append, wholeLines_append, header]
    have split : write v ++ rest =
        header (Text.encode v.chars).length (Text.encode v.chars ++ rest) := write_append v rest
    have small : (Text.encode v.chars).length < lengthBound :=
      Nat.lt_of_le_of_lt short (by decide)
    have body : (write v ++ rest).drop ((wholeLines (write v ++ rest)).length -
        (wholeLines (Text.encode v.chars ++ rest)).length) = Text.encode v.chars ++ rest := by
      rw [lines, split, header_append, List.length_append, Nat.add_sub_cancel,
        header_append _ (Text.encode v.chars ++ rest), List.drop_left]
    simp only [arrival, Bool.false_eq_true, if_false, lines, headers_header small]
    rw [← lines, body, if_neg (by omega), if_neg (by simp), List.take_left, List.drop_left, reads]

theorem length_write_pos (v : Json) : 0 < (write v).length := by
  rw [← List.append_nil (write v), write_append]
  simp only [List.length_append, List.length_cons]
  omega

theorem length_le_flatMap_write (messages : List Json) :
    messages.length ≤ (messages.flatMap write).length := by
  induction messages with
  | nil => simp
  | cons v messages ih =>
    have := length_write_pos v
    simp only [List.length_cons, List.flatMap_cons, List.length_append]
    omega

theorem go_flatMap_write {messages : List Json} (fits : ∀ v ∈ messages, Fits v) {fuel : Nat}
    (enough : messages.length < fuel) :
    readAll.go fuel (messages.flatMap write) = (messages, .clean) := by
  induction messages generalizing fuel with
  | nil => cases fuel <;> rfl
  | cons v messages ih =>
    cases fuel with
    | zero => simp at enough
    | succ fuel =>
      have first := fits v List.mem_cons_self
      have others := ih (fun u there => fits u (List.mem_cons_of_mem v there))
        (Nat.lt_of_succ_lt_succ enough)
      rw [List.flatMap_cons, readAll.go, read_write first.short first.ofBytes?]
      simp only [others]

/-- Messages that were written one after the other are read back in their order, each read leaving
exactly what was written behind its message, and then the stream ends cleanly. -/
theorem written_messages_read_back (messages : List Json) (fits : ∀ v ∈ messages, Fits v) :
    readAll (messages.flatMap write) = (messages, .clean) ∧
      ∀ k, read ((messages.drop k).flatMap write) =
        .ok (messages[k]?.map fun v => (v, (messages.drop (k + 1)).flatMap write)) := by
  constructor
  · exact go_flatMap_write fits (Nat.lt_succ_of_le (length_le_flatMap_write messages))
  · intro k
    rcases Nat.lt_or_ge k messages.length with inside | beyond
    · have here := fits messages[k] (List.getElem_mem inside)
      rw [List.drop_eq_getElem_cons inside, List.flatMap_cons, List.getElem?_eq_getElem inside,
        read_write here.short here.ofBytes?]
      rfl
    · rw [List.drop_eq_nil_of_le beyond, List.getElem?_eq_none beyond]
      rfl

/-- Messages whose text is not all ASCII, or looks like a header. -/
def lookalikes : List Json :=
  [.obj [("label", .str "naïve"), ("text", .str "\r\n\r\nContent-Length: 2\r\n\r\n")],
    .arr [.int (-9223372036854775808), .real ⟨true, 15, -1⟩, .obj [], .bool true],
    .null]

theorem lookalikes_fit : ∀ v ∈ lookalikes, Fits v := by
  simp only [lookalikes, List.forall_mem_cons, List.not_mem_nil, false_imp_iff, implies_true,
    and_true]
  refine ⟨⟨?_, by decide, by decide⟩, ⟨?_, by decide, by decide⟩, ⟨.null, by decide, by decide⟩⟩
  · refine .obj (by decide) ?_
    simp only [List.forall_mem_cons, List.not_mem_nil, false_imp_iff, implies_true, and_true]
    exact ⟨.str _, .str _⟩
  · refine .arr ?_
    simp only [List.forall_mem_cons, List.not_mem_nil, false_imp_iff, implies_true, and_true]
    exact ⟨.int (by decide) (by decide), .real rfl, .obj (by decide) (by simp), .bool true⟩

theorem lookalikes_read_back :
    (∀ v ∈ lookalikes, Fits v) ∧ readAll (lookalikes.flatMap write) = (lookalikes, .clean) :=
  ⟨lookalikes_fit, (written_messages_read_back lookalikes lookalikes_fit).1⟩

end LanguageBroker.Frame
