import LanguageBroker.Proofs.NumberText

/-!
The compact text of a value is read as that value, whatever follows it in an array or an object,
for all values that such a text can hold and that are nested no deeper than the reader allows.
-/

namespace LanguageBroker.Json

variable {c : Char} {cs rest r : List Char} {v : Json}

theorem hexValue?_hexDigit : ∀ d < 16, hexValue? (hexDigit d) = some d := by decide

/-- An escaped control character is read back. -/
theorem escape_control {c : Char} (control : c.toNat < 32) (rest : List Char) :
    escape ('u' :: '0' :: '0' :: hexDigit (c.toNat / 16) :: hexDigit (c.toNat % 16) :: rest) =
      some (c, rest) := by
  have high := hexValue?_hexDigit (c.toNat / 16) (by omega)
  have low := hexValue?_hexDigit (c.toNat % 16) (by omega)
  have zero : hexValue? '0' = some 0 := rfl
  have whole : c.toNat / 16 * 16 + c.toNat % 16 = c.toNat := by omega
  have back : Char.ofNat c.toNat = c := Char.ofNat_toNat c
  simp only [escape, hexQuad, high, low, zero, Option.bind_eq_bind, Option.bind_some,
    Option.pure_def, Nat.zero_mul, Nat.zero_add, whole, back]
  rw [if_neg (by omega), if_neg (by omega)]

theorem stringBody_escaped (fuel : Nat) (c : Char) (rest : List Char) :
    stringBody (fuel + 1) (escaped c ++ rest) =
      (stringBody fuel rest).map fun p => (c :: p.1, p.2) := by
  have escapes (name : List Char) (reads : escape (name ++ rest) = some (c, rest)) :
      stringBody (fuel + 1) ('\\' :: name ++ rest) =
        (stringBody fuel rest).map fun p => (c :: p.1, p.2) := by
    simp only [List.cons_append, stringBody, reads, Option.bind_eq_bind, Option.bind_some]
    cases stringBody fuel rest <;> rfl
  have back {n : Nat} (same : c.toNat = n) : Char.ofNat n = c := same ▸ Char.ofNat_toNat c
  unfold escaped
  split
  · next quote => exact escapes ['"'] (by rw [quote]; rfl)
  split
  · next backslash => exact escapes ['\\'] (by rw [backslash]; rfl)
  split
  · next newline => exact escapes ['n'] (by rw [newline]; rfl)
  split
  · next goesBack => exact escapes ['r'] (by rw [goesBack]; rfl)
  split
  · next tab => exact escapes ['t'] (by rw [tab]; rfl)
  split
  · next eight => exact escapes ['b'] (by rw [← back eight]; rfl)
  split
  · next twelve => exact escapes ['f'] (by rw [← back twelve]; rfl)
  split
  · next control => exact escapes ['u', '0', '0', _, _] (escape_control control rest)
  · next quote backslash _ _ _ _ _ shown =>
    simp only [List.singleton_append, stringBody, shown, if_false]
    cases stringBody fuel rest <;> rfl

theorem stringBody_flatMap (cs rest : List Char) {fuel : Nat} (enough : cs.length < fuel) :
    stringBody fuel (cs.flatMap escaped ++ '"' :: rest) = some (cs, rest) := by
  induction cs generalizing fuel with
  | nil =>
    cases fuel with
    | zero => simp at enough
    | succ fuel => rfl
  | cons c cs ih =>
    cases fuel with
    | zero => simp at enough
    | succ fuel =>
      rw [List.flatMap_cons, List.append_assoc, stringBody_escaped,
        ih (Nat.lt_of_succ_lt_succ enough)]
      rfl

theorem length_le_flatMap (cs : List Char) : cs.length ≤ (cs.flatMap escaped).length := by
  induction cs with
  | nil => simp
  | cons c cs ih =>
    have shown : 0 < (escaped c).length := by
      unfold escaped
      repeat' split
      all_goals simp
    simp only [List.flatMap_cons, List.length_append, List.length_cons]
    omega

/-- A string literal is read up to its closing quote. -/
theorem quoted_append (s : String) (rest : List Char) :
    ∃ r, quoted s ++ rest = '"' :: r ∧ stringBody (r.length + 1) r = some (s.toList, rest) := by
  refine ⟨s.toList.flatMap escaped ++ '"' :: rest, by simp [quoted], stringBody_flatMap _ _ ?_⟩
  have := length_le_flatMap s.toList
  simp only [List.length_append, List.length_cons]
  omega

mutual

/-- How deep arrays and objects are nested in a value. -/
def nesting : Json → Nat
  | .arr items => itemNesting items + 1
  | .obj members => memberNesting members + 1
  | .null | .bool _ | .int _ | .real _ | .str _ => 0

def itemNesting : List Json → Nat
  | [] => 0
  | v :: rest => max (nesting v) (itemNesting rest)

def memberNesting : List (String × Json) → Nat
  | [] => 0
  | (_, v) :: rest => max (nesting v) (memberNesting rest)

end

/-- The values that are read and written: whole numbers fit 64 bits, a decimal is the one that its
own text is read as, and an object's keys ascend. -/
inductive WellFormed : Json → Prop
  | null : WellFormed .null
  | bool (b : Bool) : WellFormed (.bool b)
  | int {n : Int} (low : -9223372036854775808 ≤ n) (high : n < 18446744073709551616) :
    WellFormed (.int n)
  | real {x : Decimal} (readsBack : ofChars? x.text.toList = some (.real x)) : WellFormed (.real x)
  | str (s : String) : WellFormed (.str s)
  | arr {items : List Json} (each : ∀ v ∈ items, WellFormed v) : WellFormed (.arr items)
  | obj {members : List (String × Json)} (ascending : (members.map Prod.fst).Pairwise (· < ·))
    (each : ∀ m ∈ members, WellFormed m.2) : WellFormed (.obj members)

/-- Is the value's text read as the value, wherever it stands? -/
def Reads (v : Json) : Prop :=
  ∀ (fuel depth : Nat) (rest : List Char), nesting v ≤ depth → (chars v).length ≤ fuel → Ends rest →
    value fuel depth (chars v ++ rest) = some (v, rest)

theorem skipSpace_of_solid (h : Solid cs) : skipSpace cs = cs := by
  rcases cs with _ | ⟨c, cs⟩
  · rfl
  · simp [skipSpace, (solid_cons.1 h).1]

theorem reads_of_succ
    (h : ∀ (fuel depth : Nat) (rest : List Char), nesting v ≤ depth →
      (chars v).length ≤ fuel + 1 → Ends rest →
        value (fuel + 1) depth (chars v ++ rest) = some (v, rest))
    (shown : chars v ≠ []) : Reads v := by
  intro fuel depth rest fits enough ends
  cases fuel with
  | zero => exact absurd (List.length_eq_zero_iff.1 (Nat.le_zero.1 enough)) shown
  | succ fuel => exact h fuel depth rest fits enough ends

-- The equations of these functions are worked out here, once, for the proofs below that wait for
-- them.
attribute [local simp] chars itemChars memberChars quoted value items members nesting itemNesting
  memberNesting in
theorem reads_null : Reads .null := by
  apply reads_of_succ
  · intro fuel depth rest _ _ _
    rfl
  · simp

theorem reads_bool (b : Bool) : Reads (.bool b) := by
  apply reads_of_succ
  · intro fuel depth rest _ _ _
    cases b <;> rfl
  · cases b <;> simp [chars]

theorem reads_str (s : String) : Reads (.str s) := by
  apply reads_of_succ
  · intro fuel depth rest _ _ _
    obtain ⟨r, text, reads⟩ := quoted_append s rest
    rw [chars, text, value, skipSpace, List.dropWhile_cons_of_neg (by decide)]
    simp only [reads, Option.map_some, String.ofList_toList]
  · simp [chars, quoted]

/-- A value that starts neither as a word nor with a mark is a number. -/
theorem value_of_other (space : isSpace c = false) (other : c ∉ ['"', '[', '{', '-', 't', 'f', 'n'])
    (fuel depth : Nat) (cs : List Char) :
    value (fuel + 1) depth (c :: cs) = number false (c :: cs) := by
  have same : skipSpace (c :: cs) = c :: cs := by simp [skipSpace, space]
  simp only [List.mem_cons, List.not_mem_nil, or_false, not_or] at other
  obtain ⟨quote, bracket, brace, minus, t, f, n⟩ := other
  rw [value, same]
  split <;> simp_all

theorem value_of_minus (fuel depth : Nat) (cs : List Char) :
    value (fuel + 1) depth ('-' :: cs) = number true cs := rfl

theorem value_toDigits (fuel depth : Nat) (n : Nat) (rest : List Char) :
    value (fuel + 1) depth (Nat.toDigits 10 n ++ rest) =
      number false (Nat.toDigits 10 n ++ rest) := by
  cases digits : Nat.toDigits 10 n with
  | nil => exact absurd digits Nat.toDigits_ne_nil
  | cons c cs =>
    have there : c ∈ Nat.toDigits 10 n := digits ▸ List.mem_cons_self
    have digit : c.isDigit := Nat.isDigit_of_mem_toDigits (by omega) (by omega) there
    refine value_of_other (solid_toDigits n c there) ?_ fuel depth (cs ++ rest)
    intro mark
    simp only [List.mem_cons, List.not_mem_nil, or_false] at mark
    rcases mark with rfl | rfl | rfl | rfl | rfl | rfl | rfl <;> simp at digit

theorem reads_int {n : Int} (low : -9223372036854775808 ≤ n) (high : n < 18446744073709551616) :
    Reads (.int n) := by
  apply reads_of_succ
  · intro fuel depth rest _ _ ends
    rw [chars, chars_int]
    split
    · next positive =>
      rw [value_toDigits, number_append ends,
        number_toDigits false (by unfold significandBound; omega)]
      simp [Digits.value?, before, Int.toNat_of_nonneg positive]
    · next negative =>
      have small : ¬ ((-n).toNat = 0 ∨ (-n).toNat > significandBound / 2) := by
        unfold significandBound
        omega
      have back : -((-n).toNat : Int) = n := by omega
      rw [List.cons_append, value_of_minus, number_append ends,
        number_toDigits true (by unfold significandBound; omega)]
      simp only [Digits.value?, ne_eq, not_true_eq_false, if_false, small, back, before,
        Option.map_some, List.nil_append]
  · simp only [chars, chars_int]
    split <;> simp [Nat.toDigits_ne_nil]

/-- What is read as a decimal is a number, with its sign or without. -/
theorem number_of_value {fuel depth : Nat} {x : Decimal} (solid : Solid cs)
    (reads : value fuel depth cs = some (.real x, r)) :
    ∃ (negative : Bool) (ds : List Char), number negative ds = some (.real x, r) ∧ r ⊆ cs ∧
      ∀ {fuel depth : Nat} {rest : List Char},
        value (fuel + 1) depth (cs ++ rest) = number negative (ds ++ rest) := by
  cases fuel with
  | zero => simp [value] at reads
  | succ fuel =>
    have same := skipSpace_of_solid solid
    have word {w : String} {v : Json} {cs : List Char} (other : v ≠ .real x)
        (reads : word w v cs = some (.real x, r)) : False := by
      unfold Json.word at reads
      split at reads
      · simp only [Option.some.injEq, Prod.mk.injEq] at reads
        exact other reads.1
      · simp at reads
    rw [value, same] at reads
    split at reads
    · simp at reads
    · split at reads
      · simp at reads
      · split at reads <;> simp at reads
    · split at reads
      · simp at reads
      · split at reads
        · simp at reads
        · simp [object] at reads
    · exact ⟨true, _, reads, List.Subset.trans (number_subset reads) (List.subset_cons_self ..), rfl⟩
    · exact (word (by simp) reads).elim
    · exact (word (by simp) reads).elim
    · exact (word (by simp) reads).elim
    · refine ⟨false, cs, reads, number_subset reads, fun {fuel depth rest} => ?_⟩
      rcases cs with _ | ⟨c, cs⟩
      · simp [number, spanDigits] at reads
      · refine value_of_other (solid_cons.1 solid).1 ?_ fuel depth (cs ++ rest)
        intro mark
        simp only [List.mem_cons, List.not_mem_nil, or_false] at mark
        rcases mark with rfl | rfl | rfl | rfl | rfl | rfl | rfl <;> simp_all

theorem reads_real {x : Decimal} (readsBack : ofChars? x.text.toList = some (.real x)) :
    Reads (.real x) := by
  have solid := solid_text x
  unfold ofChars? at readsBack
  split at readsBack
  · next v r reads =>
    split at readsBack
    · next blank =>
      obtain rfl := Option.some.inj readsBack
      obtain ⟨negative, ds, number, part, goes⟩ := number_of_value solid reads
      have nothing : r = [] := by
        have := skipSpace_of_solid (solid.of_subset part)
        simpa [this] using blank
      subst nothing
      apply reads_of_succ
      · intro fuel depth rest _ _ ends
        rw [chars, goes, number_append ends, number]
        rfl
      · intro none
        rw [chars] at none
        simp [none, value, skipSpace, Json.number, spanDigits] at reads
    · simp at readsBack
  · simp at readsBack

/-- No item starts with the bracket that closes the array. -/
theorem value_of_items {fuel depth : Nat} {vs : List Json}
    (reads : items fuel depth cs = some (vs, rest)) :
    value (fuel + 1) (depth + 1) ('[' :: cs) = some (.arr vs, rest) := by
  have opens : skipSpace ('[' :: cs) = '[' :: cs := rfl
  simp only [value, opens]
  split
  · next closing =>
    cases fuel with
    | zero => simp [items] at reads
    | succ fuel =>
      have none : value fuel depth cs = none := by
        cases fuel with
        | zero => rfl
        | succ fuel =>
          rw [value, closing]
          rfl
      simp [items, none] at reads
  · rw [reads]
    rfl

/-- No member starts with the brace that closes the object. -/
theorem value_of_members {fuel depth : Nat} {ms : List (String × Json)}
    (reads : members fuel depth cs = some (ms, rest)) :
    value (fuel + 1) (depth + 1) ('{' :: cs) = some (object ms, rest) := by
  have opens : skipSpace ('{' :: cs) = '{' :: cs := rfl
  simp only [value, opens]
  split
  · next closing =>
    cases fuel with
    | zero => simp [members] at reads
    | succ fuel => simp [members, closing] at reads
  · rw [reads]
    rfl

section Rules

variable {fuel depth : Nat} {vs : List Json} {ms : List (String × Json)} {more : List Char}

theorem items_of_last (last : value fuel depth cs = some (v, ']' :: rest)) :
    items (fuel + 1) depth cs = some ([v], rest) := by
  rw [items, last]
  rfl

theorem items_of_more (first : value fuel depth cs = some (v, ',' :: more))
    (others : items fuel depth more = some (vs, rest)) :
    items (fuel + 1) depth cs = some (v :: vs, rest) := by
  have comma : skipSpace (',' :: more) = ',' :: more := rfl
  simp only [items, first, Option.bind_eq_bind, Option.bind_some, comma, others]
  rfl

/-- A member is read as its key and what follows the colon. -/
theorem members_of_key (k : String) (cs : List Char) :
    members (fuel + 1) depth (quoted k ++ ':' :: cs) =
      (value fuel depth cs).bind fun p =>
        match skipSpace p.2 with
        | ',' :: r => (members fuel depth r).bind fun q => some ((k, p.1) :: q.1, q.2)
        | '}' :: r => some ([(k, p.1)], r)
        | _ => none := by
  obtain ⟨r, text, key⟩ := quoted_append k (':' :: cs)
  have quote : skipSpace ('"' :: r) = '"' :: r := rfl
  have colon : skipSpace (':' :: cs) = ':' :: cs := rfl
  simp only [text, members, quote, key, Option.bind_eq_bind, Option.bind_some, colon,
    String.ofList_toList]
  rfl

theorem members_of_last (k : String) (last : value fuel depth cs = some (v, '}' :: rest)) :
    members (fuel + 1) depth (quoted k ++ ':' :: cs) = some ([(k, v)], rest) := by
  rw [members_of_key, last]
  rfl

theorem members_of_more (k : String) (first : value fuel depth cs = some (v, ',' :: more))
    (others : members fuel depth more = some (ms, rest)) :
    members (fuel + 1) depth (quoted k ++ ':' :: cs) = some ((k, v) :: ms, rest) := by
  have comma : skipSpace (',' :: more) = ',' :: more := rfl
  rw [members_of_key, first]
  simp only [Option.bind_some, comma, others]

end Rules

-- Each item takes one unit of fuel, and its text and the comma behind it are at least two
-- characters; so fuel for the length of the text is enough at every depth.

theorem items_append {vs : List Json} (each : ∀ v ∈ vs, Reads v) (shown : vs ≠ [])
    {fuel depth : Nat} (fits : itemNesting vs ≤ depth) (enough : (itemChars vs).length < fuel)
    (rest : List Char) :
    items fuel depth (itemChars vs ++ ']' :: rest) = some (vs, rest) := by
  induction vs generalizing fuel with
  | nil => exact absurd rfl shown
  | cons v vs ih =>
    have first := each v List.mem_cons_self
    rw [itemNesting, Nat.max_le] at fits
    cases fuel with
    | zero => simp at enough
    | succ fuel =>
      cases vs with
      | nil =>
        rw [itemChars] at enough ⊢
        exact items_of_last (first fuel depth _ fits.1 (by omega) (.inr (.inl rfl)))
      | cons w vs =>
        simp only [itemChars, List.length_append, List.length_cons] at enough
        rw [itemChars, List.append_assoc, List.cons_append]
        exact items_of_more (first fuel depth _ fits.1 (by omega) (.inl rfl))
          (ih (fun u there => each u (List.mem_cons_of_mem v there)) (by simp) fits.2 (by omega))

theorem reads_arr {vs : List Json} (each : ∀ v ∈ vs, Reads v) : Reads (.arr vs) := by
  apply reads_of_succ
  · intro fuel depth rest fits enough _
    rw [nesting] at fits
    cases depth with
    | zero => simp at fits
    | succ depth =>
      simp only [chars, List.length_append, List.length_cons, List.length_nil] at enough
      rw [chars, List.append_assoc, List.cons_append, List.singleton_append]
      rcases vs with _ | ⟨v, vs⟩
      · rfl
      · exact value_of_items
          (items_append each (by simp) (Nat.le_of_succ_le_succ fits) (by omega) rest)
  · simp [chars]

theorem members_append {ms : List (String × Json)} (each : ∀ m ∈ ms, Reads m.2) (shown : ms ≠ [])
    {fuel depth : Nat} (fits : memberNesting ms ≤ depth) (enough : (memberChars ms).length < fuel)
    (rest : List Char) :
    members fuel depth (memberChars ms ++ '}' :: rest) = some (ms, rest) := by
  induction ms generalizing fuel with
  | nil => exact absurd rfl shown
  | cons m ms ih =>
    obtain ⟨k, v⟩ := m
    have first : Reads v := each (k, v) List.mem_cons_self
    rw [memberNesting, Nat.max_le] at fits
    cases fuel with
    | zero => simp at enough
    | succ fuel =>
      cases ms with
      | nil =>
        simp only [memberChars, List.length_append, List.length_cons] at enough
        rw [memberChars, List.append_assoc, List.cons_append]
        exact members_of_last k (first fuel depth _ fits.1 (by omega) (.inr (.inr rfl)))
      | cons w ms =>
        simp only [memberChars, List.length_append, List.length_cons] at enough
        rw [memberChars, List.append_assoc, List.cons_append, List.append_assoc, List.cons_append]
        exact members_of_more k (first fuel depth _ fits.1 (by omega) (.inl rfl))
          (ih (fun n there => each n (List.mem_cons_of_mem (k, v) there)) (by simp) fits.2
            (by omega))

/-- The greatest key comes last. -/
theorem insertMember_of_greatest {k : String} {ms : List (String × Json)}
    (greatest : ∀ m ∈ ms, m.1 < k) (v : Json) : insertMember k v ms = ms ++ [(k, v)] := by
  induction ms with
  | nil => rfl
  | cons m ms ih =>
    obtain ⟨l, w⟩ := m
    have less : l < k := greatest (l, w) List.mem_cons_self
    have differs : k ≠ l := by
      rintro rfl
      exact String.lt_irrefl k less
    rw [insertMember, if_neg (String.lt_asymm less), if_neg differs,
      ih fun n there => greatest n (List.mem_cons_of_mem _ there)]
    rfl

theorem foldl_insertMember (ms front : List (String × Json))
    (ascending : ((front ++ ms).map Prod.fst).Pairwise (· < ·)) :
    ms.foldl (fun acc m => insertMember m.1 m.2 acc) front = front ++ ms := by
  induction ms generalizing front with
  | nil => simp
  | cons m ms ih =>
    have greatest : ∀ n ∈ front, n.1 < m.1 := by
      intro n there
      rw [List.map_append, List.pairwise_append] at ascending
      exact ascending.2.2 n.1 (List.mem_map_of_mem there) m.1 (by simp)
    rw [List.foldl_cons, insertMember_of_greatest greatest, ih _ (by simpa using ascending)]
    simp

/-- Members with ascending keys are an object as they are. -/
theorem object_of_ascending {ms : List (String × Json)}
    (ascending : (ms.map Prod.fst).Pairwise (· < ·)) : object ms = .obj ms := by
  rw [object, foldl_insertMember ms [] ascending]
  rfl

theorem reads_obj {ms : List (String × Json)} (ascending : (ms.map Prod.fst).Pairwise (· < ·))
    (each : ∀ m ∈ ms, Reads m.2) : Reads (.obj ms) := by
  apply reads_of_succ
  · intro fuel depth rest fits enough _
    rw [nesting] at fits
    cases depth with
    | zero => simp at fits
    | succ depth =>
      simp only [chars, List.length_append, List.length_cons, List.length_nil] at enough
      rw [chars, List.append_assoc, List.cons_append, List.singleton_append]
      rcases ms with _ | ⟨m, ms⟩
      · rfl
      · rw [← object_of_ascending ascending]
        exact value_of_members
          (members_append each (by simp) (Nat.le_of_succ_le_succ fits) (by omega) rest)
  · simp [chars]

/-- A value's compact text is read as that value, whatever may follow it. -/
theorem WellFormed.reads (h : WellFormed v) : Reads v := by
  induction h with
  | null => exact reads_null
  | bool b => exact reads_bool b
  | int low high => exact reads_int low high
  | real readsBack => exact reads_real readsBack
  | str s => exact reads_str s
  | arr _ each => exact reads_arr each
  | obj ascending _ each => exact reads_obj ascending each

/-- The reader undoes the writer up to the depth that it allows. -/
theorem ofChars?_chars (h : WellFormed v) (fits : nesting v ≤ depthLimit) :
    ofChars? (chars v) = some v := by
  have read := h.reads (2 * (chars v).length + 2) depthLimit [] fits (by omega) trivial
  rw [List.append_nil] at read
  rw [ofChars?, read]
  rfl

end LanguageBroker.Json
