import LanguageBroker.Proofs.CutStreams
import Mathlib.Data.List.DropRight

/-!
Which streams begin with a message. The grammar is told apart from the reader: lines of text that
are not blank, a blank line, and a body, of which the last line that states a length tells where it
ends. The reader takes a message from exactly the streams that the grammar derives, and leaves
exactly what the grammar leaves; it takes nothing from the empty stream and fails on any other. A
stream that may go on holds a message under the same grammar, and a part of one is waited for.
-/

namespace LanguageBroker.Text

variable {c sep : Char} {cs : List Char}

theorem trimFront_append_cons (solid : isBlank c = false) (front back : List Char) :
    trimFront (front ++ c :: back) = trimFront front ++ c :: back := by
  induction front with
  | nil => simp [trimFront, solid]
  | cons d front ih => cases blank : isBlank d <;> simp_all [trimFront]

theorem trimBack_append_cons (solid : isBlank c = false) (front back : List Char) :
    trimBack (front ++ c :: back) = front ++ c :: trimBack back := by
  have turned := trimFront_append_cons solid back.reverse front.reverse
  simp only [trimFront] at turned
  simp [trimBack, turned]

/-- Trimming does not reach beyond a character that is no blank. -/
theorem trim_append_cons (solid : isBlank c = false) (front back : List Char) :
    trim (front ++ c :: back) = trimFront front ++ c :: trimBack back := by
  rw [trim, trimFront_append_cons solid, trimBack_append_cons solid]

theorem trim_trimFront (cs : List Char) : trim (trimFront cs) = trim cs := by
  simp only [trim, trimFront, List.dropWhile_idempotent]

theorem trim_trimBack (cs : List Char) : trim (trimBack cs) = trim cs := by
  have whole : cs = trimBack cs ++ (cs.reverse.takeWhile isBlank).reverse := by
    rw [trimBack, ← List.reverse_append, List.takeWhile_append_dropWhile, List.reverse_reverse]
  have blank : ∀ c ∈ (cs.reverse.takeWhile isBlank).reverse, isBlank c := fun c there =>
    List.mem_takeWhile_imp (List.mem_reverse.1 there)
  conv_rhs => rw [whole, trim_append blank]

theorem trim_subset (cs : List Char) : trim cs ⊆ cs := by
  intro c there
  have front : c ∈ trimFront cs :=
    List.mem_reverse.1 ((List.dropWhile_sublist _).subset (List.mem_reverse.1 there))
  exact (List.dropWhile_sublist _).subset front

theorem splitOnce_eq_none (absent : sep ∉ cs) : splitOnce sep cs = none := by
  have apart : ∀ c ∈ cs, decide (c ≠ sep) = true := by
    intro c there
    simpa using fun same : c = sep => absent (same ▸ there)
  have split : cs.span (· ≠ sep) = (cs, []) := by
    rw [List.span_eq_takeWhile_dropWhile, List.takeWhile_eq_self_iff.2 apart,
      List.dropWhile_eq_nil_iff.2 apart]
  rw [splitOnce, split]

/-- A text whose bytes end a line ends with the character that does. -/
theorem eq_append_of_encode {line : List UInt8}
    (bytes : encode cs = line ++ [Frame.lineEnd]) :
    ∃ ds, cs = ds ++ ['\n'] ∧ encode ds = line := by
  rcases List.eq_nil_or_concat' cs with rfl | ⟨ds, d, rfl⟩
  · simp at bytes
  · rw [encode_append, encode_cons, encode_nil, List.append_nil] at bytes
    rcases Nat.lt_or_ge d.toNat 0x80 with ascii | other
    · rw [encodeChar_of_ascii ascii] at bytes
      obtain ⟨same, last⟩ := List.append_inj' bytes rfl
      have number : UInt8.ofNat d.toNat = 0x0A := by simpa [Frame.lineEnd] using last
      have number := congrArg UInt8.toNat number
      rw [toNat_byte (by omega)] at number
      obtain rfl : d = '\n' := Char.toNat_inj.1 number
      exact ⟨ds, rfl, same⟩
    · have there : Frame.lineEnd ∈ encode ds ++ encodeChar d := by simp [bytes]
      obtain ⟨b, bs, shown, -⟩ := lead_encodeChar d
      have last : (encode ds ++ encodeChar d).getLast (by simp [shown]) = Frame.lineEnd := by
        simp [bytes]
      rw [List.getLast_append_of_ne_nil _ (by simp [shown])] at last
      have high := le_of_mem_encodeChar other (last ▸ List.getLast_mem _)
      exact absurd high (by decide)

end LanguageBroker.Text

namespace LanguageBroker.Frame

variable {line value blank cs : List Char} {block : List (List Char)} {bytes rest : List UInt8}
variable {length found : Option Nat} {acc m n : Nat} {v : Json}

/-! What is said in a line. -/

/-- The line states a length: the header's name stands before its first colon. -/
def States (line value : List Char) : Prop :=
  ∃ name, line = name ++ ':' :: value ∧ ':' ∉ name ∧
    Text.eqIgnoreCase (Text.trim name) lengthHeader = true

/-- The text is a number of 64 bits: digits, perhaps behind a plus sign. -/
def Denotes (text : List Char) (n : Nat) : Prop :=
  n < lengthBound ∧ ∃ ds, (text = ds ∨ text = '+' :: ds) ∧ ds ≠ [] ∧ (∀ c ∈ ds, c.isDigit) ∧
    Nat.ofDigitChars 10 ds 0 = n

/-- The last of the lines that state a length is there, and states `n`. -/
def StatesLast (block : List (List Char)) (n : Nat) : Prop :=
  ∃ before line value after, block = before ++ line :: after ∧ States line value ∧
    Denotes (Text.trim value) n ∧ ∀ later ∈ after, ∀ value, ¬ States later value

/-- All lines that state a length state one that can be read, and the last of them states `n`. -/
structure Announced (block : List (List Char)) (n : Nat) : Prop where
  readable : ∀ line ∈ block, ∀ value, States line value → ∃ m, Denotes (Text.trim value) m
  last : StatesLast block n

/-- The lines of a header, and the blank line that ends it. -/
structure Heads (block : List (List Char)) (blank : List Char) : Prop where
  whole : ∀ line ∈ block, '\n' ∉ line
  solid : ∀ line ∈ block, Text.trim line ≠ []
  wholeBlank : '\n' ∉ blank
  isBlank : Text.trim blank = []

theorem Heads.tail (h : Heads (line :: block) blank) : Heads block blank :=
  ⟨fun _ there => h.whole _ (List.mem_cons_of_mem _ there),
    fun _ there => h.solid _ (List.mem_cons_of_mem _ there), h.wholeBlank, h.isBlank⟩

theorem Heads.cons (h : Heads block blank) (whole : '\n' ∉ line) (solid : Text.trim line ≠ []) :
    Heads (line :: block) blank :=
  ⟨List.forall_mem_cons.2 ⟨whole, h.whole⟩, List.forall_mem_cons.2 ⟨solid, h.solid⟩,
    h.wholeBlank, h.isBlank⟩

/-- The bytes of a line with its end. -/
def lineBytes (line : List Char) : List UInt8 := Text.encode (line ++ ['\n'])

/-- The stream begins with that message, and `rest` follows it. -/
def Begins (bytes : List UInt8) (v : Json) (rest : List UInt8) : Prop :=
  ∃ block blank body, bytes = block.flatMap lineBytes ++ lineBytes blank ++ body ++ rest ∧
    Heads block blank ∧ Announced block body.length ∧ body.length ≤ maxBodyLength ∧
    Json.ofBytes? body = some v

/-! How the reader looks at a line. -/

theorem isBlank_colon : Text.isBlank ':' = false := by decide

theorem lengthValue?_trim (apart : ':' ∉ line) (value : List Char) :
    lengthValue? (Text.trim (line ++ ':' :: value)) =
      if Text.eqIgnoreCase (Text.trim line) lengthHeader = true then some (Text.trimBack value)
      else none := by
  have apart' : ':' ∉ Text.trimFront line := fun there =>
    apart ((List.dropWhile_sublist _).subset there)
  rw [Text.trim_append_cons isBlank_colon, lengthValue?, Text.splitOnce_append apart']
  simp only [Text.trim_trimFront]

theorem lengthValue?_of_states (states : States line value) :
    lengthValue? (Text.trim line) = some (Text.trimBack value) := by
  obtain ⟨name, rfl, apart, named⟩ := states
  rw [lengthValue?_trim apart, if_pos named]

theorem lengthValue?_of_silent (silent : ∀ value, ¬ States line value) :
    lengthValue? (Text.trim line) = none := by
  by_cases there : ':' ∈ line
  · obtain ⟨name, value, rfl, apart⟩ := List.eq_append_cons_of_mem there
    have other : ¬ Text.eqIgnoreCase (Text.trim name) lengthHeader = true := fun named =>
      silent value ⟨name, rfl, apart, named⟩
    rw [lengthValue?_trim apart, if_neg other]
  · have absent : ':' ∉ Text.trim line := fun inside => there (Text.trim_subset line inside)
    rw [lengthValue?, Text.splitOnce_eq_none absent]

theorem trim_eq_of_states {other : List Char} (states : States line value)
    (also : States line other) : Text.trim value = Text.trim other := by
  have same := (lengthValue?_of_states states).symm.trans (lengthValue?_of_states also)
  rw [← Text.trim_trimBack value, Option.some.inj same, Text.trim_trimBack]

theorem digitValue?_cases (c : Char) :
    c.isDigit = true ∧ Json.digitValue? c = some (c.toNat - 48) ∨
      c.isDigit = false ∧ Json.digitValue? c = none := by
  cases digit : c.isDigit with
  | true => exact .inl ⟨rfl, Json.digitValue?_of_isDigit digit⟩
  | false =>
    refine .inr ⟨rfl, if_neg fun range => ?_⟩
    simp [Char.isDigit, Char.le_def] at digit range
    exact absurd range.2 (UInt32.not_le.2 (digit range.1))

theorem digits_eq_ok_iff (small : acc < lengthBound) :
    digits acc cs = .ok n ↔
      (∀ c ∈ cs, c.isDigit) ∧ Nat.ofDigitChars 10 cs acc = n ∧ n < lengthBound := by
  induction cs generalizing acc with
  | nil =>
    simp only [digits, Except.ok.injEq, List.not_mem_nil, false_imp_iff, implies_true, true_and,
      Nat.ofDigitChars_nil]
    omega
  | cons c cs ih =>
    rcases digitValue?_cases c with ⟨digit, value⟩ | ⟨other, value⟩
    · simp only [digits, value, List.forall_mem_cons, digit, true_and, Nat.ofDigitChars_cons,
        Nat.mul_comm 10 acc]
      split
      · next fits => exact ih fits
      · next large =>
        have grows := Json.le_ofDigitChars cs (acc * 10 + (c.toNat - '0'.toNat))
        simp only [reduceCtorEq, false_iff, not_and]
        intro _ same
        have zero : '0'.toNat = 48 := rfl
        omega
    · simp [digits, value, other]

theorem parseLength_eq_ok_iff : parseLength cs = .ok n ↔ Denotes cs n := by
  have zero : 0 < lengthBound := by decide
  unfold parseLength Denotes
  split
  · simp
  · simp only [reduceCtorEq, false_iff, not_and]
    rintro - ⟨ds, here | here, shown, digit, -⟩
    · exact absurd (digit '+' (here ▸ List.mem_cons_self)) (by decide)
    · exact shown (List.tail_eq_of_cons_eq here).symm
  · next ds shown =>
    rw [digits_eq_ok_iff zero]
    constructor
    · rintro ⟨digit, same, small⟩
      exact ⟨small, ds, .inr rfl, shown, digit, same⟩
    · rintro ⟨small, ds', here | here, -, digit, same⟩
      · exact absurd (digit '+' (here ▸ List.mem_cons_self)) (by decide)
      · obtain rfl := List.tail_eq_of_cons_eq here
        exact ⟨digit, same, small⟩
  · next shown plain signed =>
    rw [digits_eq_ok_iff zero]
    constructor
    · rintro ⟨digit, same, small⟩
      exact ⟨small, cs, .inl rfl, shown, digit, same⟩
    · rintro ⟨small, ds, rfl | rfl, -, digit, same⟩
      · exact ⟨digit, same, small⟩
      · exact absurd rfl (signed ds)

theorem headers_line (whole : '\n' ∉ line) (length : Option Nat) (rest : List UInt8) :
    headers length (lineBytes line ++ rest) =
      if (Text.trim line).isEmpty then .ok (length, rest)
      else
        match lengthValue? (Text.trim line) with
        | none => headers length rest
        | some value =>
          match parseLength (Text.trim value) with
          | .ok n => headers (some n) rest
          | .error fault => .error (.lengthBad value fault) := by
  have split : lineBytes line ++ rest = Text.encode line ++ lineEnd :: rest := by
    rw [lineBytes, encode_line, List.append_assoc, List.singleton_append]
  have ended := splitLine_append (lineEnd_not_mem_encode whole) rest
  have text : Text.decode (Text.encode line ++ [lineEnd]) = .ok (line ++ ['\n']) := by
    rw [← encode_line, Text.decode_encode]
  have trimmed : Text.trim (line ++ ['\n']) = Text.trim line :=
    Text.trim_append (by simp; decide)
  rw [split]
  rcases shown : Text.encode line ++ lineEnd :: rest with _ | ⟨b, bs⟩
  · simp at shown
  · rw [headers, ← shown]
    cases states : lengthValue? (Text.trim line) with
    | none => simp only [ended, text, trimmed, states]
    | some value =>
      cases parses : parseLength (Text.trim value) <;>
        simp only [ended, text, trimmed, states, parses]

/-! What the reader finds in a header, line by line. -/

/-- The length that is known behind the lines, if `length` was known before them. -/
inductive Finds : Option Nat → List (List Char) → Option Nat → Prop
  | done (length : Option Nat) : Finds length [] length
  | other {length found : Option Nat} {line : List Char} {block : List (List Char)}
      (silent : ∀ value, ¬ States line value) (later : Finds length block found) :
      Finds length (line :: block) found
  | stated {length found : Option Nat} {line value : List Char} {block : List (List Char)}
      {n : Nat} (states : States line value) (denotes : Denotes (Text.trim value) n)
      (later : Finds (some n) block found) : Finds length (line :: block) found

theorem StatesLast.cons (h : StatesLast block n) (line : List Char) :
    StatesLast (line :: block) n := by
  obtain ⟨before, last, value, after, rfl, rest⟩ := h
  exact ⟨line :: before, last, value, after, rfl, rest⟩

/-- The last line that states a length is the first one, or one of the others. -/
theorem statesLast_cons : StatesLast (line :: block) n ↔ StatesLast block n ∨
    (∃ value, States line value ∧ Denotes (Text.trim value) n) ∧
      ∀ later ∈ block, ∀ value, ¬ States later value := by
  constructor
  · rintro ⟨_ | ⟨first, before⟩, last, value, after, split, states, denotes, silent⟩
    · obtain ⟨rfl, rfl⟩ := List.cons.inj split
      exact .inr ⟨⟨value, states, denotes⟩, silent⟩
    · obtain ⟨-, rfl⟩ := List.cons.inj split
      exact .inl ⟨before, last, value, after, rfl, states, denotes, silent⟩
  · rintro (others | ⟨⟨value, states, denotes⟩, silent⟩)
    · exact others.cons line
    · exact ⟨[], line, value, block, rfl, states, denotes, silent⟩

/-- What is found is what the last line says that states a length, or was known before. -/
theorem finds_iff : Finds length block (some n) ↔
    (∀ line ∈ block, ∀ value, States line value → ∃ m, Denotes (Text.trim value) m) ∧
      (StatesLast block n ∨ length = some n ∧ ∀ line ∈ block, ∀ value, ¬ States line value) := by
  induction block generalizing length with
  | nil =>
    constructor
    · rintro ⟨⟩
      exact ⟨by simp, .inr ⟨rfl, by simp⟩⟩
    · rintro ⟨-, ⟨before, line, value, after, split, -⟩ | ⟨rfl, -⟩⟩
      · simp at split
      · exact .done _
  | cons line block ih =>
    simp only [List.forall_mem_cons, statesLast_cons]
    constructor
    · rintro (_ | ⟨silent, later⟩ | ⟨states, denotes, later⟩)
      · obtain ⟨readable, found⟩ := ih.1 later
        refine ⟨⟨fun value states => absurd states (silent value), readable⟩, ?_⟩
        exact found.imp .inl fun known => ⟨known.1, silent, known.2⟩
      · obtain ⟨readable, found⟩ := ih.1 later
        refine ⟨⟨fun other also => ⟨_, trim_eq_of_states also states ▸ denotes⟩, readable⟩, .inl ?_⟩
        rcases found with others | ⟨known, silent⟩
        · exact .inl others
        · obtain rfl := Option.some.inj known
          exact .inr ⟨⟨_, states, denotes⟩, silent⟩
    · rintro ⟨⟨here, readable⟩, (others | ⟨⟨value, states, denotes⟩, silent⟩) | known⟩
      · by_cases silent : ∀ value, ¬ States line value
        · exact .other silent (ih.2 ⟨readable, .inl others⟩)
        · obtain ⟨value, states⟩ := not_forall_not.1 silent
          obtain ⟨m, denotes⟩ := here value states
          exact .stated states denotes (ih.2 ⟨readable, .inl others⟩)
      · exact .stated states denotes (ih.2 ⟨readable, .inr ⟨rfl, silent⟩⟩)
      · exact .other known.2.1 (ih.2 ⟨readable, .inr ⟨known.1, known.2.2⟩⟩)

theorem announced_iff : Announced block n ↔ Finds none block (some n) := by
  rw [finds_iff]
  simp only [reduceCtorEq, false_and, or_false]
  exact ⟨fun h => ⟨h.readable, h.last⟩, fun h => ⟨h.1, h.2⟩⟩

/-- The reader finds in a header what its lines say, and leaves what follows the blank line. -/
theorem headers_of_finds (heads : Heads block blank) (finds : Finds length block found)
    (rest : List UInt8) :
    headers length (block.flatMap lineBytes ++ lineBytes blank ++ rest) = .ok (found, rest) := by
  induction finds with
  | done length =>
    rw [List.flatMap_nil, List.nil_append, headers_line heads.wholeBlank, heads.isBlank]
    rfl
  | @other length found line block silent later ih =>
    rw [List.flatMap_cons, List.append_assoc, List.append_assoc,
      headers_line (heads.whole line List.mem_cons_self), lengthValue?_of_silent silent,
      if_neg (by simp [heads.solid line List.mem_cons_self]), ← List.append_assoc]
    exact ih heads.tail
  | @stated length found line value block n states denotes later ih =>
    have reads : parseLength (Text.trim (Text.trimBack value)) = .ok n := by
      rw [Text.trim_trimBack, parseLength_eq_ok_iff.2 denotes]
    rw [List.flatMap_cons, List.append_assoc, List.append_assoc,
      headers_line (heads.whole line List.mem_cons_self), lengthValue?_of_states states,
      if_neg (by simp [heads.solid line List.mem_cons_self]), ← List.append_assoc]
    simp only [reads]
    exact ih heads.tail

/-- A stream that is read as a header has a first line, or its first line is the last one. -/
theorem exists_line {result : Option Nat × List UInt8} (reads : headers length bytes = .ok result)
    (ended : lineEnd ∈ bytes) :
    ∃ line after, '\n' ∉ line ∧ bytes = lineBytes line ++ after := by
  obtain ⟨line, after, rfl, apart⟩ := List.eq_append_cons_of_mem ended
  rcases shown : line ++ lineEnd :: after with _ | ⟨b, bs⟩
  · simp at shown
  rw [shown, headers, ← shown, splitLine_append apart after] at reads
  cases text : Text.decode (line ++ [lineEnd]) with
  | error fault => simp [text] at reads
  | ok cs =>
    obtain ⟨ds, rfl, rfl⟩ := Text.eq_append_of_encode (Text.decode_eq_ok_iff.1 text).symm
    refine ⟨ds, after, fun there => apart ?_, ?_⟩
    · exact List.mem_flatMap.2 ⟨'\n', there, by decide⟩
    · rw [lineBytes, encode_line, List.append_assoc, List.singleton_append, shown]

/-- Nothing is left of a stream whose last line ends its header without an end of its own. -/
theorem eq_nil_of_unended (reads : headers length bytes = .ok (found, rest))
    (unended : lineEnd ∉ bytes) : rest = [] := by
  rcases bytes with _ | ⟨b, bs⟩
  · simp at reads
  rw [headers, splitLine_unended unended] at reads
  simp only [headers_nil] at reads
  grind

/-- What the reader has found in a header, its lines say. -/
theorem heads_of_headers (reads : headers length bytes = .ok (found, rest))
    (ended : rest ≠ [] ∨ bytes.getLast? = some lineEnd) :
    ∃ block blank, Heads block blank ∧ Finds length block found ∧
      bytes = block.flatMap lineBytes ++ lineBytes blank ++ rest := by
  induction size : bytes.length using Nat.strong_induction_on generalizing bytes length with
  | _ count ih =>
    have inside : lineEnd ∈ bytes := by
      by_contra unended
      rcases ended with more | last
      · exact more (eq_nil_of_unended reads unended)
      · exact unended (List.mem_of_getLast? last)
    obtain ⟨line, after, whole, rfl⟩ := exists_line reads inside
    have shorter : after.length < count := by
      rw [← size, lineBytes, encode_line]
      simp only [List.length_append, List.length_singleton]
      omega
    rw [headers_line whole] at reads
    by_cases blank : Text.trim line = []
    · obtain ⟨rfl, rfl⟩ : length = found ∧ after = rest := by simpa [blank] using reads
      exact ⟨[], line, ⟨by simp, by simp, whole, blank⟩, .done _, by simp⟩
    rw [if_neg (by simpa using blank)] at reads
    have add {length' : Option Nat} (goes : headers length' after = .ok (found, rest))
        (finds : ∀ block, Finds length' block found → Finds length (line :: block) found) :
        ∃ block blank, Heads block blank ∧ Finds length block found ∧
          lineBytes line ++ after = block.flatMap lineBytes ++ lineBytes blank ++ rest := by
      have shown : after ≠ [] := by
        rintro rfl
        simp at goes
      rw [List.getLast?_append_of_ne_nil _ shown] at ended
      obtain ⟨block, last, heads, later, rfl⟩ := ih _ shorter goes ended rfl
      exact ⟨line :: block, last, heads.cons whole blank, finds block later, by simp⟩
    by_cases silent : ∀ value, ¬ States line value
    · rw [lengthValue?_of_silent silent] at reads
      exact add reads fun block later => .other silent later
    · obtain ⟨value, states⟩ := not_forall_not.1 silent
      rw [lengthValue?_of_states states] at reads
      cases parses : parseLength (Text.trim (Text.trimBack value)) with
      | error fault => simp [parses] at reads
      | ok n =>
        simp only [parses] at reads
        rw [Text.trim_trimBack, parseLength_eq_ok_iff] at parses
        exact add reads fun block later => .stated states parses later

/-! Messages. -/

theorem read_of_begins (begins : Begins bytes v rest) : read bytes = .ok (some (v, rest)) := by
  obtain ⟨block, blank, body, rfl, heads, announced, allowed, parses⟩ := begins
  have found := headers_of_finds heads (announced_iff.1 announced) (body ++ rest)
  rw [← List.append_assoc] at found
  rcases shown : block.flatMap lineBytes ++ lineBytes blank ++ body ++ rest with _ | ⟨b, bs⟩
  · rw [shown] at found
    simp at found
  · rw [shown] at found
    simp only [read, found, List.take_left, List.drop_left, parses, List.length_append]
    rw [if_neg (by omega), if_neg (by omega)]

theorem begins_of_read (reads : read bytes = .ok (some (v, rest))) : Begins bytes v rest := by
  rcases bytes with _ | ⟨b, bs⟩
  · simp [read] at reads
  simp only [read] at reads
  split at reads
  · simp at reads
  · simp at reads
  · next n body found =>
    split at reads
    · simp at reads
    split at reads
    · simp at reads
    next allowed enough =>
    split at reads
    · next value parses =>
      obtain ⟨rfl, rfl⟩ : value = v ∧ body.drop n = rest := by simpa using reads
      have shown : body ≠ [] := by
        rintro rfl
        simp [show Json.ofBytes? [] = none from by decide] at parses
      obtain ⟨block, blank, heads, finds, split⟩ := heads_of_headers found (.inl shown)
      have size : (body.take n).length = n := List.length_take_of_le (by omega)
      refine ⟨block, blank, body.take n, ?_, heads, ?_, by omega, parses⟩
      · rw [split, List.append_assoc _ (body.take n), List.take_append_drop]
      · rw [size]
        exact announced_iff.2 finds
    · simp at reads

theorem Begins.append (begins : Begins bytes v rest) (more : List UInt8) :
    Begins (bytes ++ more) v (rest ++ more) := by
  obtain ⟨block, blank, body, rfl, derived⟩ := begins
  exact ⟨block, blank, body, by simp, derived⟩

/-! Streams that may go on. -/

theorem exists_rest (bytes : List UInt8) : ∃ rest, bytes = wholeLines bytes ++ rest :=
  (List.rdropWhile_prefix (· != lineEnd) (l := bytes)).imp fun _ split => split.symm

theorem getLast?_wholeLines (shown : wholeLines bytes ≠ []) :
    (wholeLines bytes).getLast? = some lineEnd := by
  have last : ¬ ((wholeLines bytes).getLast shown != lineEnd) = true :=
    List.rdropWhile_last_not (· != lineEnd) bytes shown
  rw [List.getLast?_eq_some_getLast shown]
  simpa using last

/-- The body begins behind the header, also where a part of it stands in whole lines. -/
theorem drop_wholeLines {head left : List UInt8} (lines : wholeLines bytes = head ++ left)
    (split : bytes = wholeLines bytes ++ rest) :
    bytes.drop ((wholeLines bytes).length - left.length) = left ++ rest := by
  rw [lines] at split ⊢
  rw [List.length_append, Nat.add_sub_cancel, split, List.append_assoc, List.drop_left]

theorem begins_of_arrival (arrives : arrival false bytes = .message v rest) :
    Begins bytes v rest := by
  simp only [arrival, Bool.false_eq_true, if_false] at arrives
  split at arrives
  · simp at arrives
  · simp at arrives
  · simp at arrives
  · next n left found =>
    split at arrives
    · simp at arrives
    split at arrives
    · simp at arrives
    next allowed enough =>
    split at arrives
    · next value parses =>
      have shown : wholeLines bytes ≠ [] := by
        intro empty
        simp [empty] at found
      obtain ⟨block, blank, heads, finds, lines⟩ :=
        heads_of_headers found (.inr (getLast?_wholeLines shown))
      obtain ⟨tail, split⟩ := exists_rest bytes
      rw [drop_wholeLines lines split] at arrives parses enough
      obtain ⟨rfl, rfl⟩ : value = v ∧ (left ++ tail).drop n = rest := by simpa using arrives
      have size : ((left ++ tail).take n).length = n := List.length_take_of_le (by omega)
      refine ⟨block, blank, (left ++ tail).take n, ?_, heads, ?_, by omega, parses⟩
      · rw [List.append_assoc _ ((left ++ tail).take n), List.take_append_drop, ← List.append_assoc,
          ← lines, ← split]
      · rw [size]
        exact announced_iff.2 finds
    · simp at arrives

/-- Behind a whole header the reader waits for the body, and judges it when it is there. -/
theorem arrival_of_heads (heads : Heads block blank) (announced : Announced block n)
    (left : List UInt8) :
    arrival false (block.flatMap lineBytes ++ lineBytes blank ++ left) =
      if n > maxBodyLength then .fault (.bodyTooLong n)
      else if left.length < n then .partly
      else
        match Json.ofBytes? (left.take n) with
        | some v => .message v (left.drop n)
        | none => .fault .bodyMalformed := by
  have lines : wholeLines (block.flatMap lineBytes ++ lineBytes blank ++ left) =
      block.flatMap lineBytes ++ lineBytes blank ++ wholeLines left := by
    have last : block.flatMap lineBytes ++ lineBytes blank ++ left =
        block.flatMap lineBytes ++ Text.encode blank ++ lineEnd :: left := by
      rw [lineBytes, encode_line]
      simp
    rw [last, wholeLines_append, lineBytes, encode_line]
    simp
  have found := headers_of_finds heads (announced_iff.1 announced) (wholeLines left)
  obtain ⟨tail, behind⟩ := exists_rest left
  have ends : block.flatMap lineBytes ++ lineBytes blank ++ left =
      wholeLines (block.flatMap lineBytes ++ lineBytes blank ++ left) ++ tail := by
    rw [lines, List.append_assoc _ (wholeLines left), ← behind]
  have body := drop_wholeLines lines ends
  rw [← lines] at found
  rw [← behind] at body
  cases parses : Json.ofBytes? (left.take n) <;>
    simp only [arrival, Bool.false_eq_true, if_false, found, body, parses]

theorem arrival_of_begins (begins : Begins bytes v rest) :
    arrival false bytes = .message v rest := by
  obtain ⟨block, blank, body, rfl, heads, announced, allowed, parses⟩ := begins
  rw [List.append_assoc _ body, arrival_of_heads heads announced, if_neg (by omega),
    if_neg (by simp), List.take_left, parses, List.drop_left]

/-- What has come so far of a stream holds a message exactly when it begins with one. -/
theorem arrival_eq_message_iff (ended : Bool) :
    arrival ended bytes = .message v rest ↔ Begins bytes v rest := by
  cases ended with
  | true =>
    refine Iff.trans ?_ ⟨begins_of_read, read_of_begins⟩
    simp only [arrival, if_true]
    rcases read bytes with cause | _ | ⟨u, left⟩ <;> simp
  | false => exact ⟨begins_of_arrival, arrival_of_begins⟩

theorem wholeLines_eq_nil (unended : lineEnd ∉ bytes) : wholeLines bytes = [] := by
  have all : ∀ b ∈ bytes.reverse, (b != lineEnd) = true := by
    intro b there
    simpa using fun same : b = lineEnd => unended (same ▸ List.mem_reverse.1 there)
  rw [wholeLines, List.dropWhile_eq_nil_iff.2 all, List.reverse_nil]

/-- A stream that has come to a part of a line holds no whole one, and else it begins with the
line. -/
theorem line_cases {head : List UInt8} (whole : '\n' ∉ line)
    (part : bytes <+: lineBytes line ++ head) :
    wholeLines bytes = [] ∧ bytes.length < (lineBytes line).length ∨
      ∃ left, bytes = lineBytes line ++ left ∧ left <+: head := by
  rcases Nat.lt_or_ge bytes.length (lineBytes line).length with short | long
  · refine .inl ⟨wholeLines_eq_nil fun there => ?_, short⟩
    have inside : bytes <+: Text.encode line := by
      have first := List.prefix_of_prefix_length_le part (List.prefix_append _ head)
        (Nat.le_of_lt short)
      rw [lineBytes, encode_line] at first short
      rw [List.prefix_concat_iff] at first
      rcases first with same | first
      · simp [same] at short
      · exact first
    exact lineEnd_not_mem_encode whole (inside.subset there)
  · obtain ⟨left, rfl⟩ := List.prefix_of_prefix_length_le (List.prefix_append _ head) part long
    exact .inr ⟨left, rfl, (List.prefix_append_right_inj _).1 part⟩

theorem wholeLines_line (line : List Char) (rest : List UInt8) :
    wholeLines (lineBytes line ++ rest) = lineBytes line ++ wholeLines rest := by
  rw [lineBytes, encode_line, List.append_assoc, List.append_assoc]
  exact wholeLines_append _ rest

/-- The reader waits for the rest of a header. -/
theorem headers_part (heads : Heads block blank) (finds : Finds length block found)
    (part : bytes <+: block.flatMap lineBytes ++ lineBytes blank)
    (short : bytes.length < (block.flatMap lineBytes ++ lineBytes blank).length) :
    headers length (wholeLines bytes) = .error .headersCut := by
  induction finds generalizing bytes with
  | done length =>
    rw [← List.append_nil (lineBytes blank)] at part
    rcases line_cases heads.wholeBlank part with ⟨none, -⟩ | ⟨left, rfl, -⟩
    · rw [none, headers_nil]
    · simp only [List.flatMap_nil, List.nil_append, List.length_append] at short
      omega
  | @other length found line block silent later ih =>
    rw [List.flatMap_cons, List.append_assoc] at part short
    rcases line_cases (heads.whole line List.mem_cons_self) part with ⟨none, -⟩ | ⟨left, rfl, more⟩
    · rw [none, headers_nil]
    · rw [List.length_append, List.length_append] at short
      rw [wholeLines_line, headers_line (heads.whole line List.mem_cons_self),
        lengthValue?_of_silent silent, if_neg (by simp [heads.solid line List.mem_cons_self])]
      exact ih heads.tail more (by omega)
  | @stated length found line value block n states denotes later ih =>
    have reads : parseLength (Text.trim (Text.trimBack value)) = .ok n := by
      rw [Text.trim_trimBack, parseLength_eq_ok_iff.2 denotes]
    rw [List.flatMap_cons, List.append_assoc] at part short
    rcases line_cases (heads.whole line List.mem_cons_self) part with ⟨none, -⟩ | ⟨left, rfl, more⟩
    · rw [none, headers_nil]
    · rw [List.length_append, List.length_append] at short
      rw [wholeLines_line, headers_line (heads.whole line List.mem_cons_self),
        lengthValue?_of_states states, if_neg (by simp [heads.solid line List.mem_cons_self])]
      simp only [reads]
      exact ih heads.tail more (by omega)

/-- A part of a message is no fault: the reader waits for the rest, or has the message already. -/
theorem arrival_of_part {more : List UInt8} (begins : Begins (bytes ++ more) v rest) :
    arrival false bytes = .partly ∨ ∃ left, Begins bytes v left := by
  obtain ⟨block, blank, body, split, heads, announced, allowed, parses⟩ := begins
  rw [List.append_assoc _ body] at split
  have part := List.prefix_append bytes more
  rw [split] at part
  rcases Nat.lt_or_ge bytes.length (block.flatMap lineBytes ++ lineBytes blank).length
    with short | long
  · have inside :=
      List.prefix_of_prefix_length_le part (List.prefix_append _ _) (Nat.le_of_lt short)
    have waits := headers_part heads (announced_iff.1 announced) inside short
    exact .inl (by simp [arrival, waits])
  · obtain ⟨left, rfl⟩ := List.prefix_of_prefix_length_le (List.prefix_append _ _) part long
    rw [List.append_assoc _ left, List.append_cancel_left_eq] at split
    rcases Nat.lt_or_ge left.length body.length with short | long
    · refine .inl ?_
      rw [arrival_of_heads heads announced, if_neg (by omega), if_pos short]
    · have behind : body <+: left ++ more := split ▸ List.prefix_append body rest
      obtain ⟨after, rfl⟩ := List.prefix_of_prefix_length_le behind (List.prefix_append _ _) long
      exact .inr ⟨after, block, blank, body, by simp, heads, announced, allowed, parses⟩

/-- Reading on takes so many reads, gives these messages and comes to that end. -/
inductive ReadsOut : List UInt8 → Nat → List Json → Ending → Prop
  | ended {bytes : List UInt8} (ends : read bytes = .ok none) : ReadsOut bytes 1 [] .clean
  | failed {bytes : List UInt8} {cause : FrameError} (fails : read bytes = .error cause) :
      ReadsOut bytes 1 [] (.fault cause)
  | message {bytes rest : List UInt8} {n : Nat} {v : Json} {messages : List Json} {ending : Ending}
      (reads : read bytes = .ok (some (v, rest))) (later : ReadsOut rest n messages ending) :
      ReadsOut bytes (n + 1) (v :: messages) ending

/-- A message takes at least the byte that ends its blank line. -/
theorem Begins.length_lt (begins : Begins bytes v rest) : rest.length < bytes.length := by
  obtain ⟨block, blank, body, rfl, -⟩ := begins
  rw [lineBytes, encode_line]
  simp only [List.length_append, List.length_singleton]
  omega

theorem readsOut_go {fuel : Nat} (enough : bytes.length < fuel) :
    ∃ n ≤ bytes.length + 1,
      ReadsOut bytes n (readAll.go fuel bytes).1 (readAll.go fuel bytes).2 := by
  induction fuel generalizing bytes with
  | zero => omega
  | succ fuel ih =>
    rw [readAll.go]
    cases reads : read bytes with
    | error cause => exact ⟨1, by omega, .failed reads⟩
    | ok result =>
      rcases result with _ | ⟨v, rest⟩
      · exact ⟨1, by omega, .ended reads⟩
      · have shorter := (begins_of_read reads).length_lt
        have enough' : rest.length < fuel := by omega
        obtain ⟨n, few, later⟩ := ih enough'
        exact ⟨n + 1, by omega, .message reads later⟩

/-- A stream gives a message exactly when it is a block of lines that are not blank, a first blank
line, a body and what is left then, where every line that states a length states a number, the
last of them states that of the body, no body is too long, and this one holds the message. Only
from the empty stream there is nothing to read, and every other stream is refused. So a stream is
read to its end or its first fault in at most as many reads as it has bytes, and one more. -/
theorem messages_follow_grammar (bytes : List UInt8) :
    (∀ (v : Json) (rest : List UInt8),
        read bytes = .ok (some (v, rest)) ↔ Begins bytes v rest) ∧
      (read bytes = .ok none ↔ bytes = []) ∧
      ((∃ cause, read bytes = .error cause) ↔ bytes ≠ [] ∧ ∀ v rest, ¬ Begins bytes v rest) ∧
      ∃ n ≤ bytes.length + 1, ReadsOut bytes n (readAll bytes).1 (readAll bytes).2 := by
  have grammar (v : Json) (rest : List UInt8) :
      read bytes = .ok (some (v, rest)) ↔ Begins bytes v rest :=
    ⟨begins_of_read, read_of_begins⟩
  have empty : read bytes = .ok none ↔ bytes = [] := by
    rcases bytes with _ | ⟨b, bs⟩
    · simp [read]
    · simp only [read, reduceCtorEq, iff_false]
      grind
  refine ⟨grammar, empty, ?_, readsOut_go (Nat.lt_succ_self _)⟩
  simp only [ne_eq, ← empty, ← grammar]
  cases read bytes with
  | error cause => simp
  | ok result => rcases result with _ | ⟨v, rest⟩ <;> simp

end LanguageBroker.Frame
